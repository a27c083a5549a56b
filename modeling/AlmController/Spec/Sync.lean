import AlmController.Spec.Lending

/-!
# Syncs

SyncIntegration looks at a lending position again. For Drift that is all; for Kamino
the Reserve is synced first, and the farm's rewards may be harvested, which are an
inflow of the Reserve when they are in its own mint.
-/

namespace AlmController

open Prog

variable [Chain]

/-- A lending position was given a new balance. -/
inductive Revalued (i : Integration) : IntegrationState → Prop
  | drift {balance : UInt64} {state : LendingState} :
      i.state = .Drift state → Revalued i (.Drift { state with balance := balance })
  | kamino {balance : UInt64} {state : LendingState} :
      i.state = .Kamino state → Revalued i (.Kamino { state with balance := balance })

/-- The vault is the associated account of its owner for the mint. -/
def IsVaultOf (vault owner mint : Pubkey) : Prop :=
  ∃ tokenProgram, associatedTokenAddress owner tokenProgram mint = some vault

/-- **What a sync of a Kamino position establishes.** -/
structure SyncKaminoRun (ctx : SyncIntegrationAccounts) (w w' : World) (i i' : Integration)
    (r r' : Reserve) (es : List LogEntry) : Prop where
  flow : FlowRun ctx.controller.pubkey ctx.integration.pubkey ctx.reserve.pubkey w w' i i' r r' es
  state : Revalued i i'.state
  config : i.config.protocol = some .Kamino
  movesNone : MovesNone es
  /-- The recorded balance is the vault's, as rewards go to it or elsewhere. -/
  tracked : TokenLaws → IsVaultOf r.vault ctx.controllerAuthority.pubkey r.mint →
    w'.bank.tokenAmount r.vault = r'.lastBalance.toNat

/-- **What a sync of a Drift position establishes.** -/
structure SyncDriftRun (ctx : SyncIntegrationAccounts) (w w' : World) (i i' : Integration)
    (es : List LogEntry) : Prop where
  grows : Extends w w' es
  within : Within { integrations := [ctx.integration.pubkey] } es
  unsigned : signedCalls es = []
  integration : Integration.Booked w.clock [] i i'
  state : Revalued i i'.state
  config : i.config.protocol = some .Drift

variable {c : Controller} {ctx : SyncIntegrationAccounts} {i i' : Integration} {r r' : Reserve}
  {w w' : World}

/-! ## Rewards -/

/-- Rewards in the reserve's own mint: what the vault has above the recorded balance is
    booked as an inflow, and the event on the reserve tells it. The two on the position, in
    and out again, cancel. -/
theorem bookRewards_run {vault mint : Pubkey}
    (h : bookRewards c i r ctx vault mint w = .ok ((i', r'), w')) :
    ∃ es, FlowRun ctx.controller.pubkey ctx.integration.pubkey ctx.reserve.pubkey w w' i i' r r'
        es ∧
      w'.bank = w.bank ∧ i'.state = i.state ∧ signedCalls es = [] ∧
      r'.lastBalance.toNat =
        r.lastBalance.toNat + (w.bank.tokenAmount vault - r.lastBalance.toNat) ∧
      ∀ m, position ctx.integration.pubkey m es = 0 := by
  simp only [bookRewards, bind_ok, read_ok, Reserve.recordInflow_ok, Integration.recordInflow_ok,
    pure_ok, Prod.mk.injEq, and_assoc, exists_and_left, exists_eq_left'] at h
  obtain ⟨t, _, ht, _, _, hevent, _, _, hevent', _, _, hevent'', r₁, hr, i₁, hi, hi', hr', rfl⟩ := h
  rw [hi'] at hi
  rw [hr'] at hr
  obtain ⟨rfl, -, ht⟩ := TokenAccount.fromAccountInfo_ok ht
  obtain ⟨-, rfl⟩ := emitEvent_ok hevent
  obtain ⟨-, rfl⟩ := emitEvent_ok hevent'
  obtain ⟨-, rfl⟩ := emitEvent_ok hevent''
  have hbr := Reserve.Booked.of_inflow hr
  have hbalance := hbr.balance
  rw [net_cons, net_nil, Flow.signed, UInt64.toNat_saturatingSub,
    ← Bank.tokenAmount_of_token? ht] at hbalance
  refine ⟨_, .of_settlement
    (.addLog (.addLog (.addLog (.addLog (.addLog .refl))))) ?_ (Integration.Booked.of_inflow hi) hbr
    ?_ ?_ ?_, rfl, Integration.updateRateLimitForInflow_state hi, rfl, by omega, ?_⟩
  · refine .cons ?_ (.cons ?_ (.cons ?_ (.cons (.tail _ (.head _)) (.singleton (.head _)))))
    · exact within_integrationEvent (.head _)
    · exact within_integrationEvent (.head _)
    · exact within_reserveEvent (.head _)
  · simp
  · simp
  · simp [AccountingDirection.signed, Flow.signed]
  · intro m
    simp only [List.nil_append, List.cons_append, position_cons, position_nil, signedDelta_flow,
      signedDelta_integrationEvent_position, signedDelta_reserveEvent_position, true_and, add_zero]
    split
    · exact add_neg_cancel _
    · rfl

/-- What a harvest did to the pair, and to a vault whose balance was recorded. -/
structure HarvestRun (ctx : SyncIntegrationAccounts) (w w' : World) (i i' : Integration)
    (r r' : Reserve) (es : List LogEntry) : Prop where
  flow : FlowRun ctx.controller.pubkey ctx.integration.pubkey ctx.reserve.pubkey w w' i i' r r' es
  state : i'.state = i.state
  movesNone : MovesNone es
  tracked : TokenLaws → IsVaultOf r.vault ctx.controllerAuthority.pubkey r.mint →
    w.bank.tokenAmount r.vault = r.lastBalance.toNat →
      w'.bank.tokenAmount r.vault = r'.lastBalance.toNat

theorem HarvestRun.refl : HarvestRun ctx w w i i r r [] :=
  ⟨.refl, rfl, .of_unsigned rfl, fun _ _ h => h⟩

theorem harvestRewards_run {innerCtx : SyncKaminoAccounts} {state : KaminoReserve}
    (hvault : innerCtx.reserveVault.pubkey = r.vault)
    (h : harvestRewards c i r ctx innerCtx state w = .ok ((i', r'), w')) :
    ∃ es, HarvestRun ctx w w' i i' r r' es ∧
      ∀ m, position ctx.integration.pubkey m es = 0 := by
  simp only [harvestRewards, bind_ok, ofOption_ok, rejectIf_ok, readData_ok, invoke_ok,
    invokeSigned_ok, ite_ok, and_assoc, exists_and_left, exists_eq_left', exists_const] at h
  obtain ⟨harvestCtx, _, haccounts, -, -, _, -, _, -, _, ⟨bank, hcreate, rfl⟩, _,
    ⟨_, -, bank', hharvest, rfl⟩, h⟩ := h
  obtain rfl := readOnly_harvestKaminoAccounts haccounts
  have hcalls : FlowRun ctx.controller.pubkey ctx.integration.pubkey ctx.reserve.pubkey _ _ i i r r
      _ := (FlowRun.of_invoke hcreate).trans (FlowRun.of_invokeSigned hharvest)
  rw [hvault] at h
  rcases h with ⟨hmint, h⟩ | ⟨hmint, h⟩
  · obtain ⟨es, hflow, hbank, hstate, hunsigned, hlast, hposition⟩ := bookRewards_run h
    refine ⟨_, ⟨hcalls.trans hflow, hstate, ?_, ?_⟩, ?_⟩
    · exact .append (.append (.of_unsigned rfl) (.of_signed rfl)) (.of_unsigned hunsigned)
    · intro laws hvaultOf htracked
      obtain ⟨tokenProgram, hata⟩ := hvaultOf
      -- the vault is an associated account of the owner, from which a harvest takes nothing
      have hup := laws.harvest_owner hharvest _ _ _ hata
      have hsame := laws.quiet rfl hcreate r.vault
      simp only [World.addLog_bank, World.setBank_bank] at hlast hup
      rw [hbank]
      simp only [World.addLog_bank, World.setBank_bank]
      omega
    · intro m
      rw [position_append, hposition]
      rfl
  · obtain ⟨⟨rfl, rfl⟩, rfl⟩ := by simpa only [pure_ok, Prod.mk.injEq] using h
    refine ⟨_, ⟨hcalls, rfl, .append (.of_unsigned rfl) (.of_signed rfl), ?_⟩, fun _ => rfl⟩
    intro laws hvaultOf htracked
    obtain ⟨tokenProgram, hata⟩ := hvaultOf
    have hsame := laws.quiet rfl hcreate r.vault
    have hsame' := laws.harvest_mint hharvest _ _ _ _ hata (Ne.symm hmint)
    simp only [World.addLog_bank, World.setBank_bank] at hsame' ⊢
    rw [hsame', hsame, htracked]

theorem maybeHarvest_run {innerCtx : SyncKaminoAccounts} {state : KaminoReserve}
    (hvault : innerCtx.reserveVault.pubkey = r.vault)
    (h : maybeHarvest c i r ctx innerCtx state w = .ok ((i', r'), w')) :
    ∃ es, HarvestRun ctx w w' i i' r r' es ∧
      ∀ m, position ctx.integration.pubkey m es = 0 := by
  rcases ite_ok.mp h with ⟨-, h⟩ | ⟨-, h⟩
  · exact harvestRewards_run hvault h
  · obtain ⟨⟨rfl, rfl⟩, rfl⟩ := by simpa only [pure_ok, Prod.mk.injEq] using h
    exact ⟨[], .refl, fun _ => rfl⟩

/-! ## The two protocols -/

omit [Chain] in
theorem SyncKaminoAccounts.checkedFromAccounts_ok {config : IntegrationConfig}
    {accounts : List AccountMeta} {innerCtx : SyncKaminoAccounts}
    (h : checkedFromAccounts config accounts r w = .ok (innerCtx, w')) :
    w = w' ∧ (∃ cfg, config = .Kamino cfg ∧ r.mint = cfg.reserveLiquidityMint) ∧
      innerCtx.reserveVault.pubkey = r.vault := by
  simp only [checkedFromAccounts, bind_ok, fromAccounts_ok, ofOption_ok, ofExcept_ok, rejectIf_ok,
    not_not, pure_ok, IntegrationConfig.kamino?_eq, KaminoConfig.checkAccounts, except_bind_ok,
    check_ok, exists_const] at h
  obtain ⟨_, _, ⟨-, -, rfl⟩, cfg, _, ⟨rfl, rfl⟩, _, ⟨⟨-, -, hmint, -⟩, rfl⟩, _, ⟨hvault, rfl⟩, rfl,
    rfl⟩ := h
  exact ⟨rfl, ⟨cfg, rfl, hmint⟩, hvault⟩

/-- Whatever is harvested, the events on the position tell its change. -/
theorem processSyncKamino_run (hk : pdaOf r.seeds = some ctx.reserve.pubkey)
    (h : processSyncKamino c i r ctx w = .ok ((i', r'), w')) :
    ∃ es, SyncKaminoRun ctx w w' i i' r r' es ∧
      TellsIf True w ctx.integration.pubkey i i' es := by
  simp only [processSyncKamino, bind_ok, ofExcept_ok, rejectIf_ok, read_ok, readData_ok, pure_ok,
    Prod.exists, Prod.mk.injEq, and_assoc, exists_and_left, exists_eq_left', exists_const] at h
  obtain ⟨innerCtx, _, haccounts, synced, w₁, hsync, -, state, -, _, -, -, harvested, r₁, w₂,
    hharvest, h⟩ := h
  obtain ⟨value, _, hreport, _, hset, hi', hr', rfl⟩ := h
  rw [hi'] at hset
  obtain ⟨rfl, ⟨config, hconfig, hmint⟩, hvault⟩ :=
    SyncKaminoAccounts.checkedFromAccounts_ok haccounts
  obtain ⟨-, -, t, ht, -, hsynced⟩ := Reserve.syncBalance_ok hk hsync
  obtain ⟨es₁, hsync⟩ := hsynced.run
  rw [← hsync.booked.vault_eq] at hvault
  obtain ⟨es₂, hharvest, hrewards⟩ := maybeHarvest_run hvault hharvest
  obtain ⟨es₃, hreport, state, hstate, -, htells⟩ := syncKaminoLiquidityValue_run hreport
  obtain ⟨state', hstate', rfl⟩ := Integration.setKaminoBalance_ok hset
  rw [hstate] at hstate'
  obtain rfl := IntegrationState.Kamino.inj hstate'
  subst hr'
  rw [hharvest.state] at hstate
  refine ⟨_, ⟨(FlowRun.of_sync hsync).trans
    (hharvest.flow.trans (hreport.flowRun.trans .of_state)), ?_, ?_, ?_, ?_⟩, ?_⟩
  · exact .kamino hstate
  · rw [hconfig]
    rfl
  · exact .append (.of_unsigned hsync.unsigned) <| .append hharvest.movesNone <|
      .append (.of_unsigned hreport.unsigned) (.of_unsigned rfl)
  · intro laws hata
    have hbefore : w₁.bank.tokenAmount r.vault = synced.lastBalance.toNat := by
      rw [hsync.bank, hsync.lastBalance]
      exact Bank.tokenAmount_of_token? ht
    have hafter := hharvest.tracked laws
    rw [hsync.booked.vault_eq, hsync.booked.mint_eq] at hafter
    rw [hreport.bank]
    exact hafter hata hbefore
  · intro marketMint _ _ _
    rw [hharvest.flow.reserve.mint_eq, hsync.booked.mint_eq, hmint] at htells
    refine .of_settlement (n := 0) (congrArg (IntegrationConfig.positionMint marketMint) hconfig)
      (congrArg IntegrationState.lending? hstate) rfl htells ?_ (add_zero _)
    intro m
    rw [position_append, position_append, position_append, hsync.position_eq_zero, hrewards,
      position_nil, ite_self, zero_add, zero_add]

theorem processSyncDrift_run (h : processSyncDrift c i ctx w = .ok (i', w')) :
    ∃ es, SyncDriftRun ctx w w' i i' es ∧ TellsIf True w ctx.integration.pubkey i i' es := by
  simp only [processSyncDrift, bind_ok, invoke_ok, ofExcept_ok] at h
  obtain ⟨innerCtx, _, haccounts, _, _, ⟨bank, hupdate, rfl⟩, value, _, hreport, hset, rfl⟩ := h
  have hconfigured : ∃ config, i.config = .Drift config ∧
      deriveAddress (driftSpotMarketSeeds config.spotMarketIndex) DRIFT_PROGRAM_ID =
        .ok innerCtx.spotMarket.pubkey := by
    simp only [SyncDriftAccounts.checkedFromAccounts, bind_ok, fromAccounts_ok, ofOption_ok,
      IntegrationConfig.drift?_eq, checkDerived_ok, pure_ok] at haccounts
    obtain ⟨_, _, -, config, _, ⟨hconfig, -⟩, _, _, -, _, _, ⟨hmarket, -⟩, _, _, -, _, _, -, _, _, -,
      rfl, -⟩ := haccounts
    exact ⟨config, hconfig, hmarket⟩
  obtain ⟨config, hconfig, haddress⟩ := hconfigured
  obtain rfl := readOnly_syncDriftAccounts haccounts
  obtain ⟨es, hreport, state, market, hstate, hmarket, -, htells⟩ := syncDriftBalance_run hreport
  obtain ⟨state', hstate', rfl⟩ := Integration.setDriftBalance_ok hset
  rw [hstate] at hstate'
  obtain rfl := IntegrationState.Drift.inj hstate'
  refine ⟨_, ⟨(Extends.refl.invoke hupdate).trans hreport.grows, ?_, ?_, .of_state, .drift hstate,
    ?_⟩, ?_⟩
  · exact (Within.singleton within_unsigned).append hreport.within
  · rw [signedCalls_append, hreport.unsigned]
    rfl
  · rw [hconfig]
    rfl
  · intro marketMint laws hmarkets _
    rw [(laws.markets hupdate hmarkets).market haddress hmarket] at htells
    refine .of_settlement (n := 0) (congrArg (IntegrationConfig.positionMint marketMint) hconfig)
      (congrArg IntegrationState.lending? hstate) rfl htells ?_ (add_zero _)
    intro m
    rw [position_append, ite_self, add_zero]
    exact zero_add _

end AlmController
