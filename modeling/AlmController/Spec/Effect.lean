import AlmController.Entrypoint
import AlmController.Spec.Governance
import AlmController.Spec.Integration
import AlmController.Spec.Oracle
import AlmController.Spec.Reserve
import AlmController.Spec.Swap

/-!
# Every instruction has an effect

The processors' effects come together behind the entrypoint. From here on the invariants
of the program are read off `Change`, and no processor is looked at to prove one.
-/

namespace AlmController

open Prog

variable [Chain]

variable {tx : TxContext} {accounts : List AccountMeta} {data : List UInt8} {w w' : World}
  {u : Unit}

/-! ## ResetLzPushInFlight -/

omit [Chain] in
theorem ResetLzPushInFlight.bind_integration {ctx : ResetLzPushInFlight}
    (h : ResetLzPushInFlight.bind accounts = some ctx) :
    accounts[1]? = some ctx.integration := by
  unfold bind at h
  split at h
  · obtain rfl := Option.some.inj h
    rfl
  · cases h

theorem processResetLzPushInFlight_effect
    (h : processResetLzPushInFlight tx accounts w = .ok (u, w')) :
    ∃ es, Effect tx accounts data w w' es := by
  simp only [processResetLzPushInFlight, bind_ok, fromAccounts_ok, ofExcept_ok, ofOption_ok,
    IntegrationState.lzBridge?_eq, save_ok, and_assoc, exists_and_left, exists_eq_left'] at h
  obtain ⟨-, ctx, hbind, _, hvalidate, i, _, hil, state, hstate, -, -, rfl⟩ := h
  obtain ⟨rfl, hi⟩ := Integration.loadAndCheck_at hil
  refine ⟨[], .of_save (s := {}) Extends.refl .nil rfl rfl (List.nil_subset _) ?_ (.inl rfl)
    rfl ?_⟩
  · exact fun _ hmem => absurd hmem List.not_mem_nil
  · intro hsilent
    rw [hi.keel]
    refine .resetIntegration (hsilent List.not_mem_nil) (validateInstruction_ok hvalidate) ?_ hstate
    rw [ResetLzPushInFlight.bind_integration hbind]
    rfl

/-! ## The entrypoint -/

/-- **Every successful instruction has an effect.** -/
theorem processInstruction_effect (hsigners : SignersPresent accounts)
    (h : processInstruction tx accounts data w = .ok (u, w')) :
    ∃ es, Effect tx accounts data w w' es := by
  unfold processInstruction at h
  split at h
  · exact (fail_ok.mp h).elim
  unfold dispatch at h
  split at h
  · exact (processEmitEvent_effect hsigners h).elim
  · exact processInitializeController_effect h
  · exact processManageController_effect h
  · exact processManagePermission_effect h
  · obtain ⟨ctx, es, hbind, hdone⟩ := processInitializeReserve_done h
    exact ⟨es, hdone.effect hbind⟩
  · exact processManageReserve_effect h
  · exact processInitializeIntegration_effect h
  · exact processManageIntegration_effect h
  · obtain ⟨ctx, es, -, hdone⟩ := processSyncReserve_done h
    exact ⟨es, hdone.effect⟩
  · obtain ⟨ctx, es, -, hdone⟩ := processSyncIntegration_done h
    exact ⟨es, hdone.effect⟩
  · obtain ⟨ctx, args, es, -, -, hdone⟩ := processPush_done h
    exact ⟨es, hdone.effect⟩
  · obtain ⟨ctx, args, es, -, -, hdone⟩ := processPull_done h
    exact ⟨es, hdone.effect⟩
  · exact processInitializeOracle_effect h
  · exact processUpdateOracle_effect h
  · exact processRefreshOracle_effect h
  · obtain ⟨ctx, args, es, -, -, hdone⟩ := processAtomicSwapBorrow_done h
    exact ⟨es, hdone.effect⟩
  · obtain ⟨ctx, es, -, hdone⟩ := processAtomicSwapRepay_done h
    exact ⟨es, hdone.effect⟩
  · exact processResetLzPushInFlight_effect h
  · exact processClaimRent_effect h
  · exact (fail_ok.mp h).elim

end AlmController
