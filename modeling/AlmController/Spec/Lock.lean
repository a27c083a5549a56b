import AlmController.Spec.Holdings

/-!
# The lock

From a Borrow to its Repay the controller is locked. A locked controller signs nothing, and
nearly every instruction refuses to touch what belongs to it. The exceptions end the lock:
ManageController, which asks for no status, sets another one, and so does Repay. Only a
Borrow locks again, so what is still locked at the end of a run without one was locked, and
left alone, all along (`Moves.sameHoldings_run`).
-/

namespace AlmController

open Prog

variable [Chain]

variable {tx : TxContext} {accounts : List AccountMeta} {data : List UInt8} {w w' w'' : World}
  {es : List LogEntry} {k ck : Pubkey} {old new : Option KeelAccount} {m : Move}

/-- The controller at `ck` is in the middle of a swap. -/
def Locked (w : World) (ck : Pubkey) : Prop :=
  ∃ c, w.keel ck = some (.controller c) ∧ c.isAtomicSwapLocked

omit [Chain] in
theorem Locked.not_running (h : Locked w ck) : ¬ Running w ck := by
  obtain ⟨c, hc, hlocked⟩ := h
  intro hrunning
  obtain ⟨c', hc', -, hnot⟩ := hrunning
  rw [hc] at hc'
  obtain rfl := KeelAccount.controller.inj (Option.some.inj hc')
  exact hnot hlocked

omit [Chain] in
/-- What turns the lock is a Borrow, or leaves the controller unlocked. -/
theorem TurnsLock.not_of_locked (hdata : data.head? ≠ some 15) (hafter : Locked w' ck) :
    ¬ TurnsLock data w w' ck := by
  intro hturns
  cases hturns with
  | locks hborrow => exact hdata hborrow
  | unlocks _ _ _ hc =>
    obtain ⟨c', hc', hlocked⟩ := hafter
    rw [hc] at hc'
    obtain rfl := KeelAccount.controller.inj (Option.some.inj hc')
    cases hlocked

/-- **Only a Borrow locks.** -/
theorem Effect.locked_before (h : Effect tx accounts data w w' es) (hdata : data.head? ≠ some 15)
    (hafter : Locked w' ck) : Locked w ck := by
  have hturns := TurnsLock.not_of_locked (w := w) hdata hafter
  obtain ⟨c', hc', hlocked⟩ := hafter
  have hchange := h.changes ck
  rw [hc'] at hchange
  generalize hold : w.keel ck = old at hchange
  cases hchange with
  | same => exact ⟨c', hold, hlocked⟩
  | newController _ _ hstatus => exact absurd hlocked hstatus
  | @setStatus c status _ _ _ _ _ hauthorized =>
    -- no permission allows to set this status
    have hstatus : status = .AtomicSwapLock := hlocked
    subst hstatus
    obtain ⟨_, _, _, _, hfalse, -⟩ := hauthorized
    exact hfalse.elim
  | lock _ _ hlock => exact absurd hlock hturns
  | unlock _ _ hunlock => exact absurd hunlock hturns

/-- **One instruction** that is no Borrow, and no Reset of a bridge, leaves a controller that
    is locked after it with what it holds. -/
theorem Effect.sameHoldings (h : Effect tx accounts data w w' es) (hdata : data.head? ≠ some 15)
    (hreset : ¬ tx.IsReset) (hafter : Locked w' ck) :
    SameHoldings ck w w' ∧ ∀ call, (call, ck) ∉ signedCalls es := by
  have hbefore := h.locked_before hdata hafter
  have hturns := TurnsLock.not_of_locked (w := w) hdata hafter
  have hrunning := hbefore.not_running
  refine ⟨h.holdings ?_ ?_ hrunning hturns fun hisReset => absurd hisReset hreset,
    fun call hcall => hrunning (h.signers hcall)⟩
  · obtain ⟨c, hc, hlocked⟩ := hbefore
    obtain ⟨c', hc', hlocked'⟩ := hafter
    have hchange := h.changes ck
    rw [hc] at hchange
    obtain ⟨status, hnew⟩ := hchange.controller_frame
    rw [hnew] at hc'
    obtain rfl := KeelAccount.controller.inj (Option.some.inj hc')
    have hsame : status = c.status := Eq.trans hlocked' hlocked.symm
    rw [hnew, hc, hsame]
  · obtain ⟨c, hc, -⟩ := hbefore
    exact ⟨c, hc⟩

/-! ## Runs -/

/-- The step is a Borrow. -/
def IsBorrow (s : Step World Move) : Prop :=
  ∃ tx accounts data, s.move = .call tx accounts (15 :: data)

/-- The step is no Borrow, and no Reset of a bridge. -/
structure Ordinary (s : Step World Move) : Prop where
  notBorrow : ¬ IsBorrow s
  notReset : ∀ tx accounts data, s.move = .call tx accounts data → ¬ tx.IsReset

omit [Chain] in
theorem Ordinary.head_ne {s : Step World Move} (h : Ordinary s)
    (hmove : s.move = .call tx accounts data) : data.head? ≠ some 15 := by
  intro hdata
  obtain ⟨rest, rfl⟩ := List.head?_eq_some_iff.mp hdata
  exact h.notBorrow ⟨tx, accounts, rest, hmove⟩

/-- What a step does not do to a locked controller. -/
structure LeavesAlone (ck : Pubkey) (s : Step World Move) : Prop where
  sameHoldings : SameHoldings ck s.before s.after
  signs : ∀ es, s.after.log = s.before.log ++ es → ∀ call, (call, ck) ∉ signedCalls es

theorem Moves.leavesAlone (h : Moves w m w') (hordinary : Ordinary ⟨w, m, w'⟩)
    (hafter : Locked w' ck) : Locked w ck ∧ LeavesAlone ck ⟨w, m, w'⟩ := by
  rcases h.cases with ⟨tx, accounts, data, es, rfl, heffect⟩ | ⟨-, hsame⟩
  · have hdata := hordinary.head_ne rfl
    obtain ⟨hsame, hsigns⟩ := heffect.sameHoldings hdata (hordinary.notReset _ _ _ rfl) hafter
    refine ⟨heffect.locked_before hdata hafter, hsame, ?_⟩
    intro es' hlog
    obtain rfl := List.append_cancel_left (hlog.symm.trans heffect.log)
    exact hsigns
  · refine ⟨?_, .of_keel hsame.keel, ?_⟩
    · unfold Locked at hafter ⊢
      rw [← hsame.keel]
      exact hafter
    · intro es hlog call
      have hsilent : w.log ++ es = w.log ++ [] := by
        rw [List.append_nil]
        exact hlog.symm.trans hsame.log
      rw [List.append_cancel_left hsilent]
      exact List.not_mem_nil

/-- **A run of ordinary steps** up to a state in which the controller is locked. The
    induction is from the end: only the last state is known to be locked. -/
theorem Moves.sameHoldings_run {steps : List (Step World Move)} (h : Trace Moves w steps w')
    (hordinary : ∀ s ∈ steps, Ordinary s) (hafter : Locked w' ck) :
    Locked w ck ∧ SameHoldings ck w w' ∧ ∀ s ∈ steps, LeavesAlone ck s := by
  induction h with
  | nil => exact ⟨hafter, .refl, fun _ hs => absurd hs List.not_mem_nil⟩
  | cons hmove _ ih =>
    obtain ⟨hhead, htail⟩ := List.forall_mem_cons.mp hordinary
    obtain ⟨hlocked, hsame, hrest⟩ := ih htail hafter
    obtain ⟨hlocked', hstep⟩ := hmove.leavesAlone hhead hlocked
    exact ⟨hlocked', hstep.sameHoldings.trans hsame, List.forall_mem_cons.mpr ⟨hstep, hrest⟩⟩

end AlmController
