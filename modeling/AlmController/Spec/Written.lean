import AlmController.Lib.Follows
import AlmController.Spec.Parts
import AlmController.Spec.Sync

/-!
# What a flow writes into the log

`Scope` bounds what the entries of an instruction may be about. `Entry` says what they are: each
invocation that is signed is one that `pays` allows, each flow is booked on a limiter of the
accounts at hand, each event tells of one of them, under its controller, and a reserve's in the
reserve's mint.

The proofs follow the text of the processors (`Writes`): what an entry says depends on what was
checked before it was written, and nothing else of the processor matters.
-/

namespace AlmController

open Prog

/-! ## Entries -/

/-- The log grew, by entries that all satisfy `P`. -/
def Logs (P : LogEntry → Prop) (w w' : World) : Prop :=
  ∃ es, w'.log = w.log ++ es ∧ ∀ e ∈ es, P e

instance {P : LogEntry → Prop} : IsPreorder World (Logs P) where
  refl w := ⟨[], (List.append_nil _).symm, fun _ he => absurd he List.not_mem_nil⟩
  trans w₁ w₂ w₃ h h' := by
    obtain ⟨es, hlog, hes⟩ := h
    obtain ⟨es', hlog', hes'⟩ := h'
    refine ⟨es ++ es', ?_, List.forall_mem_append.mpr ⟨hes, hes'⟩⟩
    rw [hlog', hlog, List.append_assoc]

theorem Logs.trans {P : LogEntry → Prop} {w w' w'' : World} (h : Logs P w w') (h' : Logs P w' w'') :
    Logs P w w'' := IsTrans.trans w w' w'' h h'

theorem Logs.mono {P Q : LogEntry → Prop} {w w' : World} (h : Logs P w w') (hPQ : ∀ e, P e → Q e) :
    Logs Q w w' := by
  obtain ⟨es, hlog, hes⟩ := h
  exact ⟨es, hlog, fun e he => hPQ e (hes e he)⟩

/-- The accounts that an instruction books on, with their addresses. -/
structure Books where
  controller : Pubkey
  integrations : List (Pubkey × Integration)
  reserves : List (Pubkey × Reserve)

variable [Chain]

/-- **What an entry may say**, given the books and what may be signed. -/
inductive Entry (b : Books) (pays : Cpi → Prop) : LogEntry → Prop
  | unsigned {call : Cpi} : Entry b pays (.cpi call none)
  | signed {call : Cpi} : pays call → Entry b pays (.cpi call (some b.controller))
  | integrationFlow {k : Pubkey} {i : Integration} {id : LimiterId} {d : FlowDirection}
      {n : UInt64} : (k, i) ∈ b.integrations → id = i.limiterId → Entry b pays (.flow id d n)
  | reserveFlow {k : Pubkey} {r : Reserve} {id : LimiterId} {d : FlowDirection} {n : UInt64} :
      (k, r) ∈ b.reserves → id = r.limiterId → Entry b pays (.flow id d n)
  | integrationEvent {k m : Pubkey} {i : Integration} {action : AccountingAction} {n : UInt64}
      {d : AccountingDirection} : (k, i) ∈ b.integrations →
      Entry b pays (.event (integrationEvent b.controller k m action n d))
  | reserveEvent {k m : Pubkey} {r : Reserve} {action : AccountingAction} {n : UInt64}
      {d : AccountingDirection} : (k, r) ∈ b.reserves → (TokenLaws → m = r.mint) →
      Entry b pays (.event (reserveEvent b.controller k m action n d))

/-- The program writes only such entries, and the accounts at associated addresses stay of
    their mint. -/
abbrev Writes {α : Type} (P : LogEntry → Prop) (x : Ix α) : Prop :=
  Follows (fun w => TokenLaws → w.bank.WellFormed) (Logs P) x

/-! ## The shared operations -/

section Shared

variable {P : LogEntry → Prop} {c : Controller} {k authority : Pubkey} {call : Cpi}

omit [Chain] in
theorem Logs.addLog {w : World} {e : LogEntry} (h : P e) : Logs P w (w.addLog e) :=
  ⟨[e], rfl, List.forall_mem_singleton.mpr h⟩

theorem writes_record {e : LogEntry} (h : P e) : Writes P (record e) := by
  apply Follows.modify
  intro w hw
  exact ⟨hw, .addLog h⟩

theorem writes_invokeWith {signers : List Pubkey} {signedFor : Option Pubkey}
    (h : P (.cpi call signedFor)) : Writes P (invokeWith call signers signedFor) := by
  intro w u w' hw hrun
  obtain ⟨bank, hinvoke, rfl⟩ := invokeWith_ok.mp hrun
  refine ⟨?_, Logs.addLog (w := w.setBank bank) h⟩
  intro laws
  exact laws.wellFormed hinvoke (hw laws)

theorem writes_invoke (h : P (.cpi call none)) : Writes P (invoke call) := writes_invokeWith h

theorem writes_invokeSigned (h : P (.cpi call (some k))) : Writes P (invokeSigned call k c) := by
  apply Follows.have_some
  intro signer _
  exact writes_invokeWith h

theorem writes_save {account : AccountMeta} {data : KeelAccount} : Writes P (save account data) := by
  intro w u w' hw hrun
  obtain ⟨-, -, rfl⟩ := save_ok.mp hrun
  exact ⟨hw, Std.Refl.refl (r := Logs P) w⟩

theorem writes_updateAndSave {account : AccountMeta} {status : ControllerStatus} :
    Writes P (c.updateAndSave account status) := by
  apply Follows.have_ok
  intro updated _
  apply Follows.bind writes_save
  intro w u w₁ _ _
  exact .pure

theorem writes_emitEvent {e : SvmAlmControllerEvent} (h : P (.event e)) :
    Writes P (emitEvent c authority k e) := by
  intro w u w' hw hrun
  obtain ⟨-, rfl⟩ := emitEvent_ok hrun
  exact ⟨hw, .addLog h⟩

end Shared

section Booking

variable {b : Books} {pays : Cpi → Prop} {c : Controller} {k authority : Pubkey}
  {clock : Clock} {n : UInt64} {i i' : Integration} {r r' : Reserve}

theorem writes_integrationInflow (hi : (k, i') ∈ b.integrations) (hid : i.limiterId = i'.limiterId) :
    Writes (Entry b pays) (i.recordInflow clock n) := by
  apply Follows.have_ok
  intro updated _
  apply Follows.bind (writes_record (.integrationFlow hi hid))
  intro w u w₁ _ _
  exact .pure

theorem writes_integrationOutflow (hi : (k, i') ∈ b.integrations)
    (hid : i.limiterId = i'.limiterId) : Writes (Entry b pays) (i.recordOutflow clock n) := by
  apply Follows.have_ok
  intro updated _
  apply Follows.bind (writes_record (.integrationFlow hi hid))
  intro w u w₁ _ _
  exact .pure

theorem writes_reserveInflow (hr : (k, r') ∈ b.reserves) (hid : r.limiterId = r'.limiterId) :
    Writes (Entry b pays) (r.recordInflow clock n) := by
  apply Follows.have_ok
  intro updated _
  apply Follows.bind (writes_record (.reserveFlow hr hid))
  intro w u w₁ _ _
  exact .pure

theorem writes_reserveOutflow {allow : Bool} (hr : (k, r') ∈ b.reserves)
    (hid : r.limiterId = r'.limiterId) :
    Writes (Entry b pays) (r.recordOutflow clock n allow) := by
  apply Follows.have_ok
  intro updated _
  apply Follows.bind (writes_record (.reserveFlow hr hid))
  intro w u w₁ _ _
  exact .pure

/-- A sync books on its reserve, and tells of it. -/
theorem writes_syncBalance {vault : AccountMeta} (hk : pdaOf r.seeds = some k)
    (hr : (k, r) ∈ b.reserves) :
    Writes (Entry b pays) (r.syncBalance vault authority b.controller c) := by
  intro w synced w' hw h
  obtain ⟨-, hown, t, -, -, hsynced⟩ := Reserve.syncBalance_ok hk h
  have hevent : ∀ {n d}, Entry b pays (.event (r.syncEvent k n d)) := by
    intro n d
    have hentry : Entry b pays (.event (reserveEvent b.controller k r.mint .Sync n d)) :=
      .reserveEvent hr fun _ => rfl
    rw [hown] at hentry
    exact hentry
  have htwo : ∀ {d n d' n'}, Logs (Entry b pays) w
      ((w.addLog (.flow r.limiterId d n)).addLog (.event (r.syncEvent k n' d'))) :=
    fun {_ _ _ _} => IsTrans.trans _ _ _ (Logs.addLog (.reserveFlow hr rfl)) (.addLog hevent)
  cases hsynced with
  | unchanged => exact ⟨hw, Std.Refl.refl w⟩
  | credit => exact ⟨hw, htwo⟩
  | debit => exact ⟨hw, htwo⟩

/-- It leaves the reserve's limiter where it is. -/
theorem Reserve.syncBalance_limiterId {vault : AccountMeta} {ck : Pubkey} {w w' : World}
    (hk : pdaOf r.seeds = some k) (h : r.syncBalance vault authority ck c w = .ok (r', w')) :
    r'.limiterId = r.limiterId := by
  obtain ⟨-, -, t, -, -, hsynced⟩ := Reserve.syncBalance_ok hk h
  obtain ⟨es, hrun⟩ := hsynced.run
  exact hrun.booked.limiterId_eq

theorem writes_emitLendingBalanceSyncEvent {mint : Pubkey} {before after : UInt64}
    (hi : (k, i) ∈ b.integrations) :
    Writes (Entry b pays)
      (emitLendingBalanceSyncEvent c k b.controller authority mint before after) := by
  apply Follows.onlyIf
  intro _
  exact writes_emitEvent (.integrationEvent hi)

/-- What only sets up writes invocations that move no funds. -/
theorem SetsUp.writes {α : Type} {x : Ix α} (h : SetsUp b.controller x)
    (hpays : ∀ call : Cpi, call.isQuiet = true → pays call) : Writes (Entry b pays) x := by
  intro w a w' hw hx
  obtain ⟨es, hes⟩ := h hx
  refine ⟨?_, es, hes.grows.log, ?_⟩
  · intro laws
    exact hes.grows.bank.invariant (fun hbank hinvoke => laws.wellFormed hinvoke hbank) (hw laws)
  · intro e he
    obtain ⟨call, signedFor, rfl, hquiet, hsigned⟩ := hes.calls e he
    cases signedFor with
    | none => exact .unsigned
    | some k =>
      rw [hsigned k rfl]
      exact .signed (hpays call hquiet)

end Booking

end AlmController
