import AlmController.Processor.Oracle
import AlmController.Spec.Change
import AlmController.Spec.Parts

/-!
# Effects: oracles

Oracles hold no funds: InitializeOracle and UpdateOracle need a running controller,
RefreshOracle needs nobody, and changes a value and the slot it is from.
-/

namespace AlmController

open Prog

variable [Chain]

variable {tx : TxContext} {accounts : List AccountMeta} {data : List UInt8} {w w' : World}
  {u : Unit}

omit [Chain] in
theorem readOnly_verifyOracleType {oracleType : UInt8} {priceFeed : AccountMeta} :
    ReadOnly (Oracle.verifyOracleType oracleType priceFeed) :=
  .bind .rejectIf fun _ => .bind .read fun _ => .bind .rejectIf fun _ =>
    .bind readOnly_readData fun _ => .pure

theorem processInitializeOracle_effect (h : processInitializeOracle accounts data w = .ok (u, w')) :
    ∃ es, Effect tx accounts (12 :: data) w w' es := by
  simp only [processInitializeOracle, Oracle.initAccount, bind_ok, fromAccounts_ok, rejectIf_ok,
    parseArgs_ok, pure_ok, Controller.rejectHalted_ok, and_assoc, exists_and_left,
    exists_eq_left', exists_const] at h
  obtain ⟨-, ctx, -, args, -, c, _, hcl, hfrozen, hlocked, _, _, htype, -, o, w₂,
    ⟨_, _, hinit, rfl, rfl⟩, hevent⟩ := h
  obtain ⟨rfl, hc⟩ := Controller.loadAndCheck_at hcl
  obtain rfl := readOnly_verifyOracleType htype
  obtain ⟨hfresh, -, calls, w₁, hcalls, rfl⟩ := initAccount_ok hinit
  obtain ⟨-, rfl⟩ := emitEvent_ok hevent
  refine ⟨_, .of_save (s := {}) hcalls.extends.addLog ?_ rfl rfl (List.nil_subset _) ?_ (.inl rfl)
    rfl ?_⟩
  · exact .append .of_unsigned (.singleton trivial)
  · exact fun _ hmem => absurd hmem List.not_mem_nil
  · intro hsilent
    rw [hfresh]
    exact .newOracle (hsilent List.not_mem_nil) (hc.running hfrozen hlocked) rfl

omit [Chain] in
theorem Oracle.updateFeed_ok {o o' : Oracle} {feedArgs : Option FeedArgs} {priceFeed : AccountMeta}
    (h : o.updateFeed feedArgs priceFeed w = .ok (o', w')) :
    w = w' ∧ o.Updated ⟨feedArgs⟩ o' := by
  unfold updateFeed at h
  split at h
  · obtain ⟨rfl, rfl⟩ := pure_ok.mp h
    exact ⟨rfl, rfl, fun hne => absurd rfl hne, fun _ => ⟨rfl, rfl, rfl, rfl⟩⟩
  · simp only [bind_ok, pure_ok] at h
    obtain ⟨_, _, htype, rfl, rfl⟩ := h
    exact ⟨readOnly_verifyOracleType htype, rfl, fun _ => rfl, nofun⟩

omit [Chain] in
/-- A new authority is all that changes besides the feed. -/
theorem Oracle.Updated.updateAuthority {o o' : Oracle} {args : UpdateOracleArgs}
    {newAuthority : AccountMeta} (h : o.Updated args o') :
    o.Updated args (o'.updateAuthority newAuthority) := by
  unfold Oracle.updateAuthority
  split
  · exact h
  · exact ⟨h.controller, h.restarted, h.kept⟩

omit [Chain] in
theorem UpdateOracle.bind_eq {ctx : UpdateOracle} (h : UpdateOracle.bind accounts = some ctx) :
    accounts[4]? = some ctx.oracle := by
  unfold bind at h
  split at h
  · obtain rfl := Option.some.inj h
    rfl
  · cases h

omit [Chain] in
theorem RefreshOracle.bind_eq {ctx : RefreshOracle} (h : RefreshOracle.bind accounts = some ctx) :
    accounts[0]? = some ctx.priceFeed ∧ accounts[1]? = some ctx.oracle := by
  unfold bind at h
  split at h
  · obtain rfl := Option.some.inj h
    exact ⟨rfl, rfl⟩
  · cases h

theorem processUpdateOracle_effect (h : processUpdateOracle accounts data w = .ok (u, w')) :
    ∃ es, Effect tx accounts (13 :: data) w w' es := by
  simp only [processUpdateOracle, bind_ok, fromAccounts_ok, parseArgs_ok, save_ok,
    Controller.rejectHalted_ok, and_assoc, exists_and_left, exists_eq_left', exists_const] at h
  obtain ⟨-, ctx, hbind, args, hargs, c, _, hcl, hfrozen, hlocked, o, _, hol, o', _, hfeed, h⟩ := h
  obtain ⟨rfl, hc⟩ := Controller.loadAndCheck_at hcl
  obtain ⟨rfl, ho, hcontroller, -⟩ := Oracle.loadAndCheck_at hol
  obtain ⟨rfl, hupdated⟩ := Oracle.updateFeed_ok hfeed
  obtain ⟨_, w₁, hevent, -, -, rfl⟩ := h
  obtain ⟨-, rfl⟩ := emitEvent_ok hevent
  refine ⟨_, .of_report ho.keel trivial ?_⟩
  intro hsilent
  refine .updateOracle hsilent (congrArg (13 :: ·) hargs) ?_ ?_
    hupdated.updateAuthority
  · rw [UpdateOracle.bind_eq hbind]
    rfl
  · rw [hcontroller _ rfl]
    exact hc.running hfrozen hlocked

theorem processRefreshOracle_effect (h : processRefreshOracle accounts w = .ok (u, w')) :
    ∃ es, Effect tx accounts (14 :: data) w w' es := by
  simp only [processRefreshOracle, bind_ok, fromAccounts_ok, rejectIf_ok, read_ok, save_ok,
    not_not, and_assoc, exists_and_left, exists_eq_left', exists_const] at h
  obtain ⟨-, ctx, hbind, o, _, hol, hsame, -, -, feed, _, hread, -, -, rfl⟩ := h
  obtain ⟨rfl, ho, -⟩ := Oracle.loadAndCheck_at hol
  obtain rfl := readOnly_readData hread
  refine ⟨[], .of_save (s := {}) Extends.refl .nil rfl rfl (List.nil_subset _) ?_ (.inl rfl)
    rfl ?_⟩
  · exact fun _ hmem => absurd hmem List.not_mem_nil
  · intro hsilent
    rw [ho.keel]
    obtain ⟨hfeed, horacle⟩ := RefreshOracle.bind_eq hbind
    refine .refreshOracle (hsilent List.not_mem_nil) rfl ?_ ?_
    · rw [hfeed, ← hsame]
      rfl
    · rw [horacle]
      rfl

end AlmController
