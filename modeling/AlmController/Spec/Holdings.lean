import AlmController.Spec.Sound

/-!
# What a controller holds

Its permissions, reserves, integrations and oracles. An instruction that changes any of
them needs the controller to be running, or turns the lock of a swap, with two exceptions:
anyone may refresh an oracle, and anyone may reset the flag of a push over LayerZero. So the
holdings of a controller that does not run stay the same, up to the values of its oracles.
-/

namespace AlmController

open Prog

variable [Chain]

variable {tx : TxContext} {accounts : List AccountMeta} {data : List UInt8}
  {w w' w'' : World} {es : List LogEntry} {k ck : Pubkey} {old new : Option KeelAccount}

/-- The controller that a permission, a reserve or an integration is of. -/
def holderOf : Option KeelAccount → Option Pubkey
  | some (.permission p) => some p.controller
  | some (.reserve r) => some r.controller
  | some (.integration i) => some i.controller
  | _ => none

/-- The oracle is one of this controller, and told another value at most. -/
def Revised (ck : Pubkey) (old new : Option KeelAccount) : Prop :=
  ∃ o value slot, o.controller = ck ∧ old = some (.oracle o) ∧
    new = some (.oracle { o with value := value, lastUpdateSlot := slot })

/-- What a controller holds is the same in both states, up to the values of its oracles. -/
structure SameHoldings (ck : Pubkey) (w w' : World) : Prop where
  controller : w'.keel ck = w.keel ck
  account : ∀ k, holderOf (w.keel k) = some ck ∨ holderOf (w'.keel k) = some ck →
    w'.keel k = w.keel k
  oracle : ∀ k o, o.controller = ck →
    w.keel k = some (.oracle o) ∨ w'.keel k = some (.oracle o) → Revised ck (w.keel k) (w'.keel k)

omit [Chain] in
theorem SameHoldings.refl : SameHoldings ck w w := by
  refine ⟨rfl, fun _ _ => rfl, ?_⟩
  intro k o ho hk
  have hk : w.keel k = some (.oracle o) := hk.elim id id
  exact ⟨o, o.value, o.lastUpdateSlot, ho, hk, hk⟩

omit [Chain] in
theorem SameHoldings.trans (h : SameHoldings ck w w') (h' : SameHoldings ck w' w'') :
    SameHoldings ck w w'' := by
  refine ⟨h'.controller.trans h.controller, ?_, ?_⟩
  · intro k hk
    rcases hk with hk | hk
    · have hsame := h.account k (.inl hk)
      rw [← hsame] at hk
      exact (h'.account k (.inl hk)).trans hsame
    · have hsame := h'.account k (.inr hk)
      rw [hsame] at hk
      exact hsame.trans (h.account k (.inr hk))
  intro k o ho hk
  -- the oracle is there in the state between, whichever end it is known at
  obtain ⟨o₁, ho₁, hk₁⟩ : ∃ o₁, o₁.controller = ck ∧ w'.keel k = some (.oracle o₁) := by
    rcases hk with hk | hk
    · obtain ⟨o', value, slot, ho', -, hnew⟩ := h.oracle k o ho (.inl hk)
      exact ⟨{ o' with value := value, lastUpdateSlot := slot }, ho', hnew⟩
    · obtain ⟨o', value, slot, ho', hold, -⟩ := h'.oracle k o ho (.inr hk)
      exact ⟨o', ho', hold⟩
  obtain ⟨o', value, slot, ho', hold, hmid⟩ := h.oracle k o₁ ho₁ (.inr hk₁)
  obtain ⟨o'', value', slot', -, hmid', hnew⟩ := h'.oracle k o₁ ho₁ (.inl hk₁)
  rw [hmid] at hmid'
  obtain rfl := KeelAccount.oracle.inj (Option.some.inj hmid')
  exact ⟨o', value', slot', ho', hold, hnew⟩

omit [Chain] in
theorem SameHoldings.of_keel (h : w'.keel = w.keel) : SameHoldings ck w w' := by
  refine ⟨congrFun h ck, fun k _ => congrFun h k, ?_⟩
  intro k o ho hk
  rw [h] at hk ⊢
  have hk := hk.elim id id
  exact ⟨o, o.value, o.lastUpdateSlot, ho, hk, hk⟩

/-- The instruction resets no flag of the controller's that is set. -/
def ResetsNothing (tx : TxContext) (w : World) (ck : Pubkey) : Prop :=
  tx.IsReset → ∀ k i state, w.keel k = some (.integration i) → i.controller = ck →
    i.state = .LzBridge state → state.pushInFlight = false

/-- What belongs to a controller that does not run neither changes nor comes into being. -/
theorem Change.holding (h : Change tx accounts data w w' es k (w.keel k) new)
    (hcontroller : ∃ c, w.keel ck = some (.controller c)) (hrunning : ¬ Running w ck)
    (hturns : ¬ TurnsLock data w w' ck) (hidle : ResetsNothing tx w ck)
    (hheld : holderOf (w.keel k) = some ck ∨ holderOf new = some ck) : new = w.keel k := by
  have hreset := fun hisReset => hidle hisReset k
  generalize w.keel k = old at h hheld hreset ⊢
  -- what needs a running controller is of another one
  have hforeign : ∀ {ck'}, Running w ck' → ck' ≠ ck := by
    rintro ck' hrun rfl
    exact hrunning hrun
  have hforeign' : ∀ {ck'}, TurnsLock data w w' ck' → ck' ≠ ck := by
    rintro ck' hturn rfl
    exact hturns hturn
  have hother : ∀ {x}, holderOf old = some x → holderOf new = some x → x ≠ ck → new = old := by
    intro x hold hnew hne
    rw [hold, hnew] at hheld
    exact absurd (Option.some.inj (hheld.elim id id)) hne
  have hcreated : ∀ {x}, old = none → holderOf new = some x → x ≠ ck → new = old := by
    intro x hold hnew hne
    rw [hold, hnew] at hheld
    rcases hheld with hheld | hheld
    · cases hheld
    · exact absurd (Option.some.inj hheld) hne
  cases h with
  | same => rfl
  | @firstPermission p _ hfresh =>
    refine hcreated rfl rfl ?_
    rintro rfl
    obtain ⟨c, hc⟩ := hcontroller
    rw [hc] at hfresh
    cases hfresh
  | newPermission _ _ hrun => exact hcreated rfl rfl (hforeign hrun)
  | managePermission _ _ _ hrun _ _ _ _ _ hkept =>
    exact hother rfl (congrArg some hkept) (hforeign hrun)
  | suspendPermission _ _ _ hrun => exact hother rfl rfl (hforeign hrun)
  | newReserve _ _ hrun => exact hcreated rfl rfl (hforeign hrun)
  | manageReserve _ _ _ hrun _ hupdate =>
    obtain ⟨hkept, -⟩ := Reserve.update_frame hupdate
    exact hother rfl (congrArg some hkept) (hforeign hrun)
  | bookReserve _ hrun hbooked =>
    exact hother rfl (congrArg some hbooked.controller_eq) (hforeign hrun)
  | swapReserve _ _ _ hbooked _ hturn =>
    exact hother rfl (congrArg some hbooked.controller_eq) (hforeign' hturn)
  | newIntegration _ _ hrun => exact hcreated rfl rfl (hforeign hrun)
  | manageIntegration _ _ _ hrun _ hupdate =>
    obtain ⟨hkept, -⟩ := Integration.update_frame hupdate
    exact hother rfl (congrArg some hkept) (hforeign hrun)
  | bookIntegration _ _ hrun hbooked =>
    exact hother rfl (congrArg some hbooked.controller_eq) (hforeign hrun)
  | lendIntegration _ hrun hbooked =>
    exact hother rfl (congrArg some hbooked.controller_eq) (hforeign hrun)
  | repayIntegration _ _ _ hbooked _ _ hturn =>
    exact hother rfl (congrArg some hbooked.controller_eq) (hforeign' hturn)
  | @resetIntegration i state _ hisReset _ hstate =>
    -- the flag is clear, so clearing it changes nothing
    have hown : i.controller = ck := Option.some.inj (hheld.elim id id)
    have hflag := hreset hisReset i state rfl hown hstate
    have hsame : ({ state with pushInFlight := false } : LzBridgeState) = state := by
      rw [← hflag]
    rw [hsame, ← hstate]
  | _ => exact absurd (hheld.elim id id) nofun

/-- Its oracles are at most refreshed. -/
theorem Change.held_oracle (h : Change tx accounts data w w' es k old new)
    (hrunning : ¬ Running w ck) {o : Oracle} (ho : o.controller = ck)
    (hk : old = some (.oracle o) ∨ new = some (.oracle o)) : Revised ck old new := by
  have hforeign : ∀ {ck'}, Running w ck' → ck' ≠ ck := by
    rintro ck' hrun rfl
    exact hrunning hrun
  cases h with
  | same =>
    have hk := hk.elim id id
    exact ⟨o, o.value, o.lastUpdateSlot, ho, hk, hk⟩
  | newOracle _ hrun =>
    rcases hk with hk | hk
    · cases hk
    · obtain rfl := KeelAccount.oracle.inj (Option.some.inj hk)
      exact absurd ho (hforeign hrun)
  | updateOracle _ _ _ hrun hupdated =>
    rcases hk with hk | hk
    · obtain rfl := KeelAccount.oracle.inj (Option.some.inj hk)
      exact absurd ho (hforeign hrun)
    · obtain rfl := KeelAccount.oracle.inj (Option.some.inj hk)
      exact absurd (hupdated.controller.symm.trans ho) (hforeign hrun)
  | @refreshOracle o' value slot =>
    refine ⟨o', value, slot, ?_, rfl, rfl⟩
    rcases hk with hk | hk
    · obtain rfl := KeelAccount.oracle.inj (Option.some.inj hk)
      exact ho
    · obtain rfl := KeelAccount.oracle.inj (Option.some.inj hk)
      exact ho
  | _ => exact hk.elim nofun nofun

/-- **One instruction** on a controller that does not run. -/
theorem Effect.holdings (h : Effect tx accounts data w w' es) (hkept : w'.keel ck = w.keel ck)
    (hcontroller : ∃ c, w.keel ck = some (.controller c)) (hrunning : ¬ Running w ck)
    (hturns : ¬ TurnsLock data w w' ck) (hidle : ResetsNothing tx w ck) : SameHoldings ck w w' :=
  ⟨hkept, fun k hk => (h.changes k).holding hcontroller hrunning hturns hidle hk,
    fun k _ ho hk => (h.changes k).held_oracle hrunning ho hk⟩

end AlmController
