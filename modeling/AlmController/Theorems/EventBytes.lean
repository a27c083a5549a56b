import AlmController.Simulator
import AlmController.Spec.Accounted
import AlmController.Wire

/-!
# What an off-chain reader knows

A reader sees the bytes of the program's invocations of itself. They are enough: what it reads from
them are the events of the log, none of them is too long to be sent, and the settings of all
accounts can be rebuilt from them.

`settings_rebuilt_from_bytes` takes any bytes that transmit the events of a state that was reached,
in their order. It leaves open how a reader gets hold of them: none may be missing.
-/

namespace AlmController

variable {w : World} {ck : Pubkey}

/-- The event that an entry is of. -/
def LogEntry.event? : LogEntry → Option SvmAlmControllerEvent
  | .event e => some e
  | _ => none

/-- All events of a log, in the order in which they were told. -/
def eventsOf (es : List LogEntry) : List SvmAlmControllerEvent := es.filterMap LogEntry.event?

/-- The data of an EmitEvent with this event, under some id. -/
def Transmits (event : SvmAlmControllerEvent) (bs : List UInt8) : Prop :=
  ∃ controllerId, bs = emitEventData controllerId event

/-- Only events are in the journal. -/
theorem journal_eventsOf {es : List LogEntry} : journal ((eventsOf es).map .event) = journal es := by
  induction es with
  | nil => rfl
  | cons e es ih =>
    cases e with
    | event e =>
      show journal ([.event e] ++ (eventsOf es).map .event) = journal ([.event e] ++ es)
      rw [journal_append, journal_append, ih]
    | _ => exact ih

/-- What is read from what was sent is what was told. -/
theorem Transmits.read_all {events : List SvmAlmControllerEvent} {sent : List (List UInt8)}
    (h : List.Forall₂ Transmits events sent) (hnames : ∀ e ∈ events, e.NamesItself) :
    sent.map readEvent = events.map some := by
  induction h with
  | nil => rfl
  | cons htransmits _ ih =>
    obtain ⟨controllerId, rfl⟩ := htransmits
    obtain ⟨hname, hrest⟩ := List.forall_mem_cons.mp hnames
    rw [List.map_cons, List.map_cons, readEvent_emitEventData hname, ih hrest]

/-- The longest event is far below what an invocation may carry. -/
theorem Transmits.length_lt {event : SvmAlmControllerEvent} {bs : List UInt8}
    (h : Transmits event bs) : bs.length < 10240 := by
  obtain ⟨controllerId, rfl⟩ := h
  exact length_emitEventData.trans_lt (by decide)

/-- All that was sent is short. -/
theorem Transmits.length_lt_all {events : List SvmAlmControllerEvent} {sent : List (List UInt8)}
    (h : List.Forall₂ Transmits events sent) : ∀ bs ∈ sent, bs.length < 10240 := by
  induction h with
  | nil => exact fun bs hbs => absurd hbs List.not_mem_nil
  | cons htransmits _ ih => exact List.forall_mem_cons.mpr ⟨htransmits.length_lt, ih⟩

variable [Chain]

/-- A controller update that was told is about the controller that it names. -/
theorem LogEntry.Authentic.namesItself {e : SvmAlmControllerEvent}
    (h : (LogEntry.event e).Authentic w ck) : e.NamesItself := by
  cases e with
  | ControllerUpdate e =>
    cases h with
    | update hu hck hnew hsame _ hown =>
      obtain rfl := Option.some.inj hu
      obtain ⟨c, -, rfl⟩ := Option.map_eq_some_iff.mp hnew
      -- the account is a controller, which is its own controller
      cases hsame with
      | controller => exact hown.trans hck.symm
  | _ => exact trivial

/-- **The bytes tell everything.** Whatever was sent for the events of a reachable state, they are
    read back from it one by one, each was short enough for an invocation, and replaying them from
    nothing gives the settings of all accounts. -/
theorem settings_rebuilt_from_bytes (h : Reachable w) {sent : List (List UInt8)}
    (hsent : List.Forall₂ Transmits (eventsOf w.log) sent) :
    sent.map readEvent = (eventsOf w.log).map some ∧
      (∀ bs ∈ sent, bs.length < 10240) ∧
      replay (fun _ => none) (journal ((sent.filterMap readEvent).map .event)) = w.settings := by
  have hnames : ∀ e ∈ eventsOf w.log, e.NamesItself := by
    intro e he
    obtain ⟨entry, hentry, hevent⟩ := List.mem_filterMap.mp he
    cases entry with
    | event e' =>
      obtain rfl := Option.some.inj hevent
      obtain ⟨ck, hauthentic⟩ := h.accounted.authentic _ hentry
      exact hauthentic.namesItself
    | _ => cases hevent
  have hread := Transmits.read_all hsent hnames
  refine ⟨hread, Transmits.length_lt_all hsent, ?_⟩
  -- so reading gives the events in their order, and the journal is of events only
  have hevents : sent.filterMap readEvent = eventsOf w.log := by
    show sent.filterMap (id ∘ readEvent) = _
    rw [← List.filterMap_map, hread, List.filterMap_map]
    exact List.filterMap_some
  rw [hevents, journal_eventsOf]
  exact h.accounted.covers.replayed

end AlmController

namespace AlmController

open Simulator

/-- A reader of the example's bytes knows its controller. -/
theorem settings_rebuilt_from_bytes_example :
    replay (fun _ => none)
      (journal ((((eventsOf (swapWorld evenPrice).log).map (emitEventData 1)).filterMap
        readEvent).map .event)) controllerKey =
      some (.controller (exampleController .Active)) := by
  have hsent : List.Forall₂ Transmits (eventsOf (swapWorld evenPrice).log)
      ((eventsOf (swapWorld evenPrice).log).map (emitEventData 1)) := by
    rw [List.forall₂_map_right_iff, List.forall₂_same]
    intro e _
    exact ⟨1, rfl⟩
  rw [(settings_rebuilt_from_bytes swapWorld_attained.reachable hsent).2.2]
  unfold World.settings
  rw [swapWorld_controller]
  rfl

end AlmController
