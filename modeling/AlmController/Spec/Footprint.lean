import AlmController.Integrations.Context
import AlmController.Spec.Limiter
import Mathlib.Logic.Relation

/-!
# Footprints

The parts of an instruction between loading and saving change none of the program's
own accounts: they invoke other programs, emit events and book flows. `Extends` is the
judgment for such a part: own accounts and clock are as before, the log grew by exactly
these entries, and the bank moved by invocations.

What the entries may speak about is bounded by a `Scope`: the limiters booked on, the
reserves and integrations that events name, and the controllers that signed. The scope
is the frame of an instruction, for nothing can be read off its entries about anything
outside of it.
-/

namespace AlmController

open Prog

variable [Chain]

/-! ## Invocations, one after the other -/

/-- The bank moved by invocations. -/
def BankSteps (clock : Clock) : Bank → Bank → Prop :=
  Relation.ReflTransGen fun bank bank' =>
    ∃ call signers, Chain.invoke clock call signers bank = some bank'

/-- What every invocation keeps, a list of them keeps. -/
theorem BankSteps.invariant {clock : Clock} {bank bank' : Bank} {I : Bank → Prop}
    (hI : ∀ {bank bank' call signers}, I bank →
      Chain.invoke clock call signers bank = some bank' → I bank')
    (h : BankSteps clock bank bank') (hbank : I bank) : I bank' := by
  induction h with
  | refl => exact hbank
  | tail _ hstep ih =>
    obtain ⟨_, _, hstep⟩ := hstep
    exact hI ih hstep

/-! ## The judgment -/

/-- From `w` to `w'` only the bank moved and the log grew, by these entries. -/
structure Extends (w w' : World) (es : List LogEntry) : Prop where
  keel : w'.keel = w.keel
  clock : w'.clock = w.clock
  log : w'.log = w.log ++ es
  bank : BankSteps w.clock w.bank w'.bank

namespace Extends

variable {w w' w'' : World} {es es' : List LogEntry} {bank : Bank} {call : Cpi}
  {signers : List Pubkey} {e : LogEntry}

theorem refl : Extends w w [] :=
  ⟨rfl, rfl, (List.append_nil _).symm, .refl⟩

theorem trans (h : Extends w w' es) (h' : Extends w' w'' es') : Extends w w'' (es ++ es') := by
  refine ⟨h'.keel.trans h.keel, h'.clock.trans h.clock, ?_, ?_⟩
  · rw [h'.log, h.log, List.append_assoc]
  · have hbank := h'.bank
    rw [h.clock] at hbank
    exact h.bank.trans hbank

/-- One more entry, an event or a flow. -/
theorem addLog (h : Extends w w' es) : Extends w (w'.addLog e) (es ++ [e]) :=
  h.trans ⟨rfl, rfl, rfl, .refl⟩

/-- One more invocation. -/
theorem invoke (h : Extends w w' es)
    (hinvoke : Chain.invoke w'.clock call signers w'.bank = some bank) :
    Extends w ((w'.setBank bank).addLog e) (es ++ [e]) :=
  h.trans ⟨rfl, rfl, rfl, .single ⟨call, signers, hinvoke⟩⟩

end Extends

/-- From `w` to `w'` the log grew by these entries, the bank moved, and the program's own
    accounts changed in whatever way. -/
structure Grows (w w' : World) (es : List LogEntry) : Prop where
  clock : w'.clock = w.clock
  log : w'.log = w.log ++ es
  bank : BankSteps w.clock w.bank w'.bank

theorem Extends.grew {w w' : World} {es : List LogEntry} (h : Extends w w' es) : Grows w w' es :=
  ⟨h.clock, h.log, h.bank⟩

namespace Grows

variable {w w' w'' : World} {es es' : List LogEntry}

theorem trans (h : Grows w w' es) (h' : Grows w' w'' es') : Grows w w'' (es ++ es') := by
  refine ⟨h'.clock.trans h.clock, ?_, ?_⟩
  · rw [h'.log, h.log, List.append_assoc]
  · have hbank := h'.bank
    rw [h.clock] at hbank
    exact h.bank.trans hbank

theorem addLog {e : LogEntry} (h : Grows w w' es) : Grows w (w'.addLog e) (es ++ [e]) :=
  h.trans ⟨rfl, rfl, .refl⟩

theorem setKeel {k : Pubkey} {a : KeelAccount} (h : Grows w w' es) : Grows w (w'.setKeel k a) es :=
  ⟨h.clock, h.log, h.bank⟩

end Grows

theorem SystemSteps.bankSteps {calls : List Cpi} {w w' : World} (h : SystemSteps calls w w') :
    BankSteps w.clock w.bank w'.bank := by
  induction h with
  | nil => exact .refl
  | cons _ hinvoke _ ih => exact .head ⟨_, _, hinvoke⟩ ih

theorem SystemSteps.extends {calls : List Cpi} {w w' : World} (h : SystemSteps calls w w') :
    Extends w w' (calls.map fun call => .cpi call none) :=
  ⟨h.keel_eq, h.clock_eq, h.log_eq, h.bankSteps⟩

/-! ## Scopes -/

/-- What the entries of an instruction may be about. -/
structure Scope where
  limiters : List LimiterId := []
  reserves : List Pubkey := []
  integrations : List Pubkey := []
  controllers : List Pubkey := []

/-- The entry speaks about nothing outside of the scope. -/
def LogEntry.Within (s : Scope) : LogEntry → Prop
  | .event (.AccountingEvent e) =>
    (∀ k, e.reserve = some k → k ∈ s.reserves) ∧
      (∀ k, e.integration = some k → k ∈ s.integrations)
  | .event _ => True
  | .cpi _ signedFor => ∀ k, signedFor = some k → k ∈ s.controllers
  | .flow limiter _ _ => limiter ∈ s.limiters

/-- All entries are within the scope. -/
def Within (s : Scope) (es : List LogEntry) : Prop := ∀ e ∈ es, e.Within s

namespace Within

omit [Chain]

variable {s s' : Scope} {es es' : List LogEntry} {e : LogEntry}

theorem nil : Within s [] := fun _ h => absurd h List.not_mem_nil

theorem append (h : Within s es) (h' : Within s es') : Within s (es ++ es') :=
  List.forall_mem_append.mpr ⟨h, h'⟩

theorem cons (h : e.Within s) (h' : Within s es) : Within s (e :: es) :=
  List.forall_mem_cons.mpr ⟨h, h'⟩

theorem singleton (h : e.Within s) : Within s [e] := cons h nil

theorem mono (h : Within s es) (hl : s.limiters ⊆ s'.limiters) (hr : s.reserves ⊆ s'.reserves)
    (hi : s.integrations ⊆ s'.integrations) (hc : s.controllers ⊆ s'.controllers) :
    Within s' es := by
  intro e he
  have hwithin := h e he
  rcases e with e | ⟨call, signedFor⟩ | ⟨limiter, d, n⟩
  · cases e with
    | AccountingEvent e =>
      exact ⟨fun k hk => hr (hwithin.1 k hk), fun k hk => hi (hwithin.2 k hk)⟩
    | _ => trivial
  · exact fun k hk => hc (hwithin k hk)
  · exact hl hwithin

/-- No flow on a limiter outside of the scope. -/
theorem flowsOf_eq_nil {id : LimiterId} (h : Within s es) (hid : id ∉ s.limiters) :
    flowsOf id es = [] := by
  refine List.filterMap_eq_nil_iff.mpr fun e he => ?_
  have hwithin := h e he
  rcases e with e | ⟨call, signedFor⟩ | ⟨limiter, d, n⟩
  · rfl
  · rfl
  · refine if_neg fun heq => hid ?_
    rw [← heq]
    exact hwithin

/-- No event on a reserve outside of the scope. -/
theorem ledger_eq_zero {k : Pubkey} (h : Within s es) (hk : k ∉ s.reserves) :
    ledger k es = 0 := by
  induction es with
  | nil => rfl
  | cons e es ih =>
    rw [ledger_cons, ih fun e he => h e (List.mem_cons_of_mem _ he), add_zero]
    have hwithin := h e List.mem_cons_self
    rcases e with e | ⟨call, signedFor⟩ | ⟨limiter, d, n⟩
    · cases e with
      | AccountingEvent e =>
        rw [signedDelta_accounting]
        refine if_neg fun heq => hk (hwithin.1 k ?_)
        exact of_decide_eq_true heq
      | _ => rfl
    · rfl
    · rfl

/-- No event on an integration outside of the scope. -/
theorem position_eq_zero {k m : Pubkey} (h : Within s es) (hk : k ∉ s.integrations) :
    position k m es = 0 := by
  induction es with
  | nil => rfl
  | cons e es ih =>
    rw [position_cons, ih fun e he => h e (List.mem_cons_of_mem _ he), add_zero]
    have hwithin := h e List.mem_cons_self
    rcases e with e | ⟨call, signedFor⟩ | ⟨limiter, d, n⟩
    · cases e with
      | AccountingEvent e =>
        rw [signedDelta_accounting]
        refine if_neg fun heq => hk (hwithin.2 k ?_)
        exact (of_decide_eq_true heq).1
      | _ => rfl
    · rfl
    · rfl

/-- Nobody outside of the scope signed. -/
theorem signer_mem {call : Cpi} {k : Pubkey} (h : Within s es)
    (hcall : (call, k) ∈ signedCalls es) : k ∈ s.controllers := by
  obtain ⟨e, he, hsigned⟩ := List.mem_filterMap.mp hcall
  have hwithin := h e he
  rcases e with e | ⟨call', _ | k'⟩ | ⟨limiter, d, n⟩
  · cases hsigned
  · cases hsigned
  · obtain ⟨rfl, rfl⟩ := Prod.mk.inj (Option.some.inj hsigned)
    exact hwithin k' rfl
  · cases hsigned

theorem of_unsigned {calls : List Cpi} : Within s (calls.map fun call => .cpi call none) := by
  intro e he
  obtain ⟨call, -, rfl⟩ := List.mem_map.mp he
  exact nofun

end Within

/-! ## The entries of the shared operations -/

section Entries

omit [Chain]

variable {s : Scope} {c k m : Pubkey} {action : AccountingAction} {n : UInt64}
  {d : AccountingDirection}

theorem within_reserveEvent (h : k ∈ s.reserves) :
    (LogEntry.event (reserveEvent c k m action n d)).Within s :=
  ⟨fun _ hk => Option.some.inj hk ▸ h, nofun⟩

theorem within_integrationEvent (h : k ∈ s.integrations) :
    (LogEntry.event (integrationEvent c k m action n d)).Within s :=
  ⟨nofun, fun _ hk => Option.some.inj hk ▸ h⟩

theorem within_syncEvent {r : Reserve} (h : k ∈ s.reserves) :
    (LogEntry.event (r.syncEvent k n d)).Within s :=
  ⟨fun _ hk => Option.some.inj hk ▸ h, nofun⟩

theorem within_unsigned {call : Cpi} : (LogEntry.cpi call none).Within s := nofun

theorem within_signed {call : Cpi} (h : k ∈ s.controllers) :
    (LogEntry.cpi call (some k)).Within s :=
  fun _ hk => Option.some.inj hk ▸ h

/-- The signed amount of an event, by its direction. -/
def AccountingDirection.signed : AccountingDirection → UInt64 → Int
  | .Credit, n => n.toNat
  | .Debit, n => -n.toNat

@[simp] theorem signedDelta_reserveEvent {k' : Pubkey} :
    (LogEntry.event (reserveEvent c k m action n d)).signedDelta (fun e => e.reserve = some k') =
      if k = k' then d.signed n else 0 := by
  cases d <;> simp [reserveEvent, AccountingEvent.signedDelta, AccountingDirection.signed]

@[simp] theorem signedDelta_integrationEvent {k' : Pubkey} :
    (LogEntry.event (integrationEvent c k m action n d)).signedDelta
      (fun e => e.reserve = some k') = 0 := by
  simp [integrationEvent]

@[simp] theorem signedDelta_syncEvent {r : Reserve} {k' : Pubkey} :
    (LogEntry.event (r.syncEvent k n d)).signedDelta (fun e => e.reserve = some k') =
      if k = k' then d.signed n else 0 := by
  cases d <;> simp [Reserve.syncEvent, AccountingEvent.signedDelta, AccountingDirection.signed]

theorem signedDelta_integrationEvent_position {k' m' : Pubkey} :
    (LogEntry.event (integrationEvent c k m action n d)).signedDelta
        (fun e => e.integration = some k' ∧ e.mint = m') =
      if k = k' ∧ m = m' then d.signed n else 0 := by
  cases d <;> simp [integrationEvent, AccountingEvent.signedDelta, AccountingDirection.signed]

theorem signedDelta_reserveEvent_position {k' m' : Pubkey} :
    (LogEntry.event (reserveEvent c k m action n d)).signedDelta
        (fun e => e.integration = some k' ∧ e.mint = m') = 0 := by
  simp [reserveEvent]

end Entries

/-! ## Syncing a reserve -/

/-- What a sync of reserve `k` amounts to: its entries are about that reserve alone, its
    events tell the flows it booked, and the recorded balance is the vault's. -/
structure Reserve.SyncRun (k : Pubkey) (amount : UInt64) (w w' : World) (r r' : Reserve)
    (es : List LogEntry) : Prop where
  grows : Extends w w' es
  bank : w'.bank = w.bank
  within : Within { limiters := [r.limiterId], reserves := [k] } es
  booked : Reserve.Booked w.clock (flowsOf r.limiterId es) r r'
  ledger : ledger k es = net (flowsOf r.limiterId es)
  unauthorized : authorizedOut (flowsOf r.limiterId es) = 0
  lastBalance : r'.lastBalance = amount

namespace Reserve.SyncRun

variable {k : Pubkey} {n : UInt64} {w w' : World} {r r' : Reserve} {es : List LogEntry}

theorem unsigned (h : Reserve.SyncRun k n w w' r r' es) : signedCalls es = [] :=
  List.eq_nil_iff_forall_not_mem.mpr fun _ hmem =>
    absurd (h.within.signer_mem hmem) List.not_mem_nil

theorem within_of_mem (h : Reserve.SyncRun k n w w' r r' es) {s : Scope}
    (hid : r.limiterId ∈ s.limiters) (hk : k ∈ s.reserves) : Within s es := by
  refine h.within.mono ?_ ?_ (List.nil_subset _) (List.nil_subset _)
  · exact List.cons_subset.mpr ⟨hid, List.nil_subset _⟩
  · exact List.cons_subset.mpr ⟨hk, List.nil_subset _⟩

/-- A sync books nothing on another limiter. -/
theorem flowsOf_eq_nil (h : Reserve.SyncRun k n w w' r r' es) {id : LimiterId}
    (hid : id ≠ r.limiterId) : flowsOf id es = [] :=
  h.within.flowsOf_eq_nil fun hmem => hid (List.mem_singleton.mp hmem)

theorem ledger_eq_zero (h : Reserve.SyncRun k n w w' r r' es) {k' : Pubkey} (hne : k' ≠ k) :
    AlmController.ledger k' es = 0 :=
  h.within.ledger_eq_zero fun hmem => hne (List.mem_singleton.mp hmem)

theorem position_eq_zero (h : Reserve.SyncRun k n w w' r r' es) (k' m : Pubkey) :
    position k' m es = 0 :=
  h.within.position_eq_zero List.not_mem_nil

end Reserve.SyncRun

omit [Chain] in
theorem Reserve.refreshRateLimit_lastBalance {r r' : Reserve} {clock : Clock}
    (h : r.refreshRateLimit clock = .ok r') : r'.lastBalance = r.lastBalance := by
  simp only [refreshRateLimit, except_bind_ok, except_pure_ok] at h
  obtain ⟨_, _, rfl⟩ := h
  rfl

omit [Chain] in
/-- A sync refreshes. -/
theorem Reserve.Synced.isRefreshed {k : Pubkey} {amount : UInt64} {w w' : World} {r r' : Reserve}
    (h : Reserve.Synced k amount w r r' w') : r'.toRateLimit.IsRefreshed w.clock := by
  have hrefresh : ∀ {r refreshed : Reserve}, r.refreshRateLimit w.clock = .ok refreshed →
      refreshed.toRateLimit.IsRefreshed w.clock := by
    intro r refreshed hr
    simp only [refreshRateLimit, except_bind_ok, except_pure_ok] at hr
    obtain ⟨_, hl, rfl⟩ := hr
    exact RateLimit.refreshRateLimit_isRefreshed hl
  cases h with
  | unchanged hr => exact hrefresh hr
  | credit _ _ hinflow =>
    simp only [updateForInflow, except_bind_ok, except_pure_ok] at hinflow
    obtain ⟨_, hl, _, -, rfl⟩ := hinflow
    obtain ⟨hrefreshed, rfl⟩ := RateLimit.inflow_ok hl
    exact hrefreshed
  | debit _ _ houtflow =>
    simp only [updateForOutflow, except_bind_ok, except_pure_ok] at houtflow
    obtain ⟨_, hl, _, -, rfl⟩ := houtflow
    obtain ⟨hrefreshed, _, rfl, -⟩ := RateLimit.outflow_ok hl
    exact hrefreshed

theorem Reserve.Synced.run {k : Pubkey} {amount : UInt64} {w w' : World} {r r' : Reserve}
    (h : Reserve.Synced k amount w r r' w') : ∃ es, Reserve.SyncRun k amount w w' r r' es := by
  -- an inflow and an outflow both bring the balance to the vault's amount
  have hflow : ∀ {refreshed r' : Reserve} {f : Flow}, r.refreshRateLimit w.clock = .ok refreshed →
      Reserve.Booked w.clock [f] refreshed r' → f.signed = amount.toNat - r.lastBalance.toNat →
        Reserve.Booked w.clock [f] r r' ∧ r'.lastBalance = amount := by
    intro refreshed r' f hrefresh hbooked hsigned
    refine ⟨(Reserve.Booked.of_refresh hrefresh).trans hbooked, UInt64.toNat_inj.mp ?_⟩
    have hbalance := hbooked.balance
    rw [refreshRateLimit_lastBalance hrefresh, net_cons, net_nil, hsigned] at hbalance
    omega
  cases h with
  | unchanged hrefresh hbalance =>
    refine ⟨[], .refl, rfl, .nil, .of_refresh hrefresh, rfl, rfl, ?_⟩
    rw [refreshRateLimit_lastBalance hrefresh]
    exact hbalance
  | credit hrefresh hlt hinflow =>
    rw [UInt64.lt_iff_toNat_lt] at hlt
    have hdelta := UInt64.toNat_absDiff (a := amount) (b := r.lastBalance)
    obtain ⟨hbooked, hbalance⟩ := hflow hrefresh (.of_inflow hinflow) (by
      simp only [Flow.signed]
      omega)
    refine ⟨_, Extends.refl.addLog.addLog, rfl, ?_, ?_, ?_, ?_, hbalance⟩
    · exact .cons (List.mem_singleton_self _)
        (.singleton (within_syncEvent (List.mem_singleton_self _)))
    · simpa using hbooked
    · simp [AccountingDirection.signed, Flow.signed]
    · simp [Flow.authorized]
  | debit hrefresh hlt houtflow =>
    rw [UInt64.lt_iff_toNat_lt] at hlt
    have hdelta := UInt64.toNat_absDiff (a := amount) (b := r.lastBalance)
    obtain ⟨hbooked, hbalance⟩ := hflow hrefresh (.of_outflow houtflow) (by
      simp only [Flow.signed]
      omega)
    refine ⟨_, Extends.refl.addLog.addLog, rfl, ?_, ?_, ?_, ?_, hbalance⟩
    · exact .cons (List.mem_singleton_self _)
        (.singleton (within_syncEvent (List.mem_singleton_self _)))
    · simpa using hbooked
    · simp [AccountingDirection.signed, Flow.signed]
    · simp [Flow.authorized]

end AlmController
