import AlmController.Spec.Protocol

/-!
# What the lending protocols' flows share

Kamino and Drift report a change of the position whenever they look at it, and settle
a deposit or a withdrawal by two events and two bookings, in this order on every path.

What the events add up to is the change of the recorded balance when the settlement's event
tells by how much the deposit or the withdrawal changed the value (`TellsChange`). Kamino's
does, for it is computed from the value. Drift's tells what the market's vault gained or
lost, which need not be the same.
-/

namespace AlmController

open Prog

variable [Chain]

variable {ck ik rk : Pubkey} {c : Controller} {authority mint : Pubkey} {w w' : World}
  {i i' : Integration} {r r' : Reserve}

/-! ## What the events tell -/

/-- The events on the integration are in one mint, and add up to this. -/
def AddUpTo (ik mint : Pubkey) (n : Int) (es : List LogEntry) : Prop :=
  ∀ m, position ik m es = if mint = m then n else 0

/-- The mint of a lending position, which for Drift is the market's. -/
def IntegrationConfig.positionMint (marketMint : UInt16 → Pubkey) :
    IntegrationConfig → Option Pubkey
  | .Kamino config => some config.reserveLiquidityMint
  | .Drift config => some (marketMint config.spotMarketIndex)
  | _ => none

/-- The state, when it is one of a lending protocol. -/
def IntegrationState.lending? : IntegrationState → Option LendingState
  | .Kamino state => some state
  | .Drift state => some state
  | _ => none

/-- The events in the position's mint add up to the change of its recorded balance. -/
def TellsChange (marketMint : UInt16 → Pubkey) (ik : Pubkey) (i i' : Integration)
    (es : List LogEntry) : Prop :=
  ∀ mint, i.config.positionMint marketMint = some mint → ∃ state state',
    i.state.lending? = some state ∧ i'.state.lending? = some state' ∧
      state.balance.toNat + position ik mint es = state'.balance.toNat

omit [Chain] in
/-- A sync takes the recorded balance to the value found, and the settlement from there to
    the value saved. -/
theorem TellsChange.of_settlement {marketMint : UInt16 → Pubkey} {es es₁ : List LogEntry}
    {state state' : LendingState} {found : UInt64} {n : Int}
    (hmint : i.config.positionMint marketMint = some mint)
    (hstate : i.state.lending? = some state) (hstate' : i'.state.lending? = some state')
    (hreport : AddUpTo ik mint (found.toNat - state.balance.toNat) es₁)
    (hes : ∀ m, position ik m es = position ik m es₁ + if mint = m then n else 0)
    (hsaved : found.toNat + n = state'.balance.toNat) :
    TellsChange marketMint ik i i' es := by
  intro mint' hmint'
  rw [hmint] at hmint'
  obtain rfl := Option.some.inj hmint'
  refine ⟨state, state', hstate, hstate', ?_⟩
  rw [hes, hreport, if_pos rfl, if_pos rfl, ← hsaved]
  ring

/-- The same, under the lending laws, and if the transfer made is exact. -/
def TellsIf (exact : Prop) (w : World) (ik : Pubkey) (i i' : Integration) (es : List LogEntry) :
    Prop :=
  ∀ marketMint, LendingLaws marketMint → w.bank.MarketsOf marketMint → exact →
    TellsChange marketMint ik i i' es

omit [Chain] in
/-- Other protocols' integrations are no positions. -/
theorem TellsChange.of_protocol {marketMint : UInt16 → Pubkey} {t : IntegrationType}
    {es : List LogEntry} (hconfig : i.config.protocol = some t) (hkamino : t ≠ .Kamino)
    (hdrift : t ≠ .Drift) : TellsChange marketMint ik i i' es := by
  intro mint hmint
  cases hcfg : i.config with
  | Kamino config =>
    rw [hcfg] at hconfig
    exact absurd (Option.some.inj hconfig).symm hkamino
  | Drift config =>
    rw [hcfg] at hconfig
    exact absurd (Option.some.inj hconfig).symm hdrift
  | _ =>
    rw [hcfg] at hmint
    cases hmint

/-- Both events of a flow with Drift are in the market's mint. -/
theorem TellsChange.of_drift {marketMint : UInt16 → Pubkey} {config : DriftConfig}
    {spotMarketIndex : UInt16} {spotMarket vault : Pubkey} {update call : Cpi}
    {signers : List Pubkey} {bank₁ bank : Bank} {market : SpotMarket} {t t' : TokenAccount}
    {state : LendingState} {found saved : UInt64} {n : Int} {es es₁ : List LogEntry}
    (laws : LendingLaws marketMint) (hmarkets : w.bank.MarketsOf marketMint)
    (hconfig : i.config = .Drift config) (hindex : spotMarketIndex = config.spotMarketIndex)
    (hupdate : Chain.invoke w.clock update [] w.bank = some bank₁)
    (hcall : Chain.invoke w.clock call signers bank₁ = some bank)
    (hmarketAddress : deriveAddress (driftSpotMarketSeeds spotMarketIndex) DRIFT_PROGRAM_ID =
      .ok spotMarket)
    (hvaultAddress : deriveAddress (driftSpotMarketVaultSeeds spotMarketIndex) DRIFT_PROGRAM_ID =
      .ok vault)
    (hmarket : (bank₁ spotMarket).data.spotMarket? = some market)
    (ht' : bank.token? vault = some t') (hmint : t.mint = t'.mint)
    (hstate : i.state = .Drift state)
    (hstate' : i'.state = .Drift { state with balance := saved })
    (hreport : AddUpTo ik market.mint (found.toNat - state.balance.toNat) es₁)
    (hes : ∀ m, position ik m es = position ik m es₁ + if t.mint = m then n else 0)
    (hsaved : found.toNat + n = saved.toNat) : TellsChange marketMint ik i i' es := by
  have hmarkets₁ : bank₁.MarketsOf marketMint := laws.markets hupdate hmarkets
  have hmarkets₂ : bank.MarketsOf marketMint := laws.markets hcall hmarkets₁
  rw [hmarkets₁.market hmarketAddress hmarket, hindex] at hreport
  rw [hmint, hmarkets₂.vault hvaultAddress ht', hindex] at hes
  exact .of_settlement (congrArg (IntegrationConfig.positionMint marketMint) hconfig)
    (congrArg IntegrationState.lending? hstate) (congrArg IntegrationState.lending? hstate')
    hreport hes hsaved

omit [Chain] in
/-- A value found after an invocation is the one of the accounts it left. -/
theorem driftValue_setBank {spotMarket user : Pubkey} {value : UInt64} {w₁ : World}
    (h : driftValue spotMarket user w' = .ok (value, w₁)) (hkeel : w'.keel = w.keel) :
    driftValue spotMarket user (w.setBank w'.bank) = .ok (value, w.setBank w'.bank) := by
  apply sees_driftValue h
  exact Prod.ext hkeel.symm rfl

/-! ## Reports -/

/-- A part that emitted events on the integration alone. -/
structure Reports (ck ik : Pubkey) (w w' : World) (es : List LogEntry) : Prop where
  grows : Extends w w' es
  bank : w'.bank = w.bank
  within : Within { integrations := [ik] } es
  unsigned : signedCalls es = []

namespace Reports

variable {es : List LogEntry}

theorem flowsOf_eq_nil (h : Reports ck ik w w' es) (id : LimiterId) : flowsOf id es = [] :=
  h.within.flowsOf_eq_nil List.not_mem_nil

theorem flowRun (h : Reports ck ik w w' es) : FlowRun ck ik rk w w' i i r r es := by
  refine .of_silent h.grows ?_ (h.flowsOf_eq_nil _) (h.flowsOf_eq_nil _)
    (h.within.ledger_eq_zero List.not_mem_nil)
  exact h.within.mono (List.nil_subset _) (List.nil_subset _) (List.Subset.refl _)
    (List.nil_subset _)

end Reports

/-- The event takes the recorded balance to the new one. -/
theorem emitLendingBalanceSyncEvent_run {prevBalance newBalance : UInt64} {u : Unit}
    (h : emitLendingBalanceSyncEvent c ik ck authority mint prevBalance newBalance w =
      .ok (u, w')) :
    ∃ es, Reports ck ik w w' es ∧ AddUpTo ik mint (newBalance.toNat - prevBalance.toNat) es := by
  rcases onlyIf_ok.mp h with ⟨hne, h⟩ | ⟨heq, rfl⟩
  · obtain ⟨-, rfl⟩ := emitEvent_ok h
    refine ⟨_, ⟨Extends.refl.addLog, rfl, .singleton ?_, rfl⟩, ?_⟩
    · exact within_integrationEvent (.head _)
    · intro m
      rw [List.nil_append, position_cons, position_nil, add_zero,
        signedDelta_integrationEvent_position]
      by_cases hm : mint = m
      · rw [if_pos ⟨rfl, hm⟩, if_pos hm]
        have hdiff := @UInt64.toNat_absDiff newBalance prevBalance
        split
        · rename_i hlt
          have hlt := UInt64.lt_iff_toNat_lt.mp hlt
          simp only [AccountingDirection.signed]
          omega
        · rename_i hle
          have hle := UInt64.le_iff_toNat_le.mp (UInt64.not_lt.mp hle)
          simp only [AccountingDirection.signed]
          omega
      · rw [if_neg fun hboth => hm hboth.2, if_neg hm]
  · refine ⟨[], ⟨.refl, rfl, .nil, rfl⟩, ?_⟩
    intro m
    rw [not_not.mp heq, sub_self, ite_self]
    rfl

theorem syncDriftBalance_run {spotMarket user : Pubkey} {balance : UInt64}
    (h : syncDriftBalance c i ik ck authority spotMarket user w = .ok (balance, w')) :
    ∃ es, Reports ck ik w w' es ∧ ∃ state market, i.state = .Drift state ∧
      (w.bank spotMarket).data.spotMarket? = some market ∧
      driftValue spotMarket user w = .ok (balance, w) ∧
      AddUpTo ik market.mint (balance.toNat - state.balance.toNat) es := by
  simp only [syncDriftBalance, bind_ok, ofOption_ok, readData_ok, pure_ok] at h
  obtain ⟨state, _, ⟨hstate, rfl⟩, market, _, ⟨hkeel, hmarket, rfl⟩, _, _, hbalance, _, _, hemit,
    rfl, rfl⟩ := h
  rw [IntegrationState.drift?_eq] at hstate
  obtain rfl := readOnly_getDriftLendingBalance hbalance
  obtain ⟨es, hreport, htells⟩ := emitLendingBalanceSyncEvent_run hemit
  refine ⟨es, hreport, state, market, hstate, hmarket, ?_, htells⟩
  exact bind_ok.mpr ⟨market, w, readData_ok.mpr ⟨hkeel, hmarket, rfl⟩, hbalance⟩

theorem syncKaminoLiquidityValue_run {kaminoReserve obligation : Pubkey} {balance : UInt64}
    (h : syncKaminoLiquidityValue c i ik ck authority mint kaminoReserve obligation w =
      .ok (balance, w')) :
    ∃ es, Reports ck ik w w' es ∧ ∃ state, i.state = .Kamino state ∧
      getKaminoLendingBalance kaminoReserve obligation w = .ok (balance, w) ∧
      AddUpTo ik mint (balance.toNat - state.balance.toNat) es := by
  simp only [syncKaminoLiquidityValue, bind_ok, ofOption_ok, pure_ok] at h
  obtain ⟨state, _, ⟨hstate, rfl⟩, _, _, hbalance, _, _, hemit, rfl, rfl⟩ := h
  rw [IntegrationState.kamino?_eq] at hstate
  obtain rfl := readOnly_getKaminoLendingBalance hbalance
  obtain ⟨es, hreport, htells⟩ := emitLendingBalanceSyncEvent_run hemit
  exact ⟨es, hreport, state, hstate, hbalance, htells⟩

/-- **How a deposit or a withdrawal is settled.** -/
theorem FlowRun.of_lending {action : AccountingAction} {value n : UInt64}
    {dir dir' : AccountingDirection} {d : FlowDirection} {state : IntegrationState}
    (hdir : dir'.signed n = Flow.signed (d, n))
    (hi : Integration.Booked w.clock [(d, n)] { i with state := state } i')
    (hr : Reserve.Booked w.clock [(d, n)] r r') :
    FlowRun ck ik rk w
      ((((w.addLog (.event (integrationEvent ck ik mint action value dir))).addLog
        (.event (reserveEvent ck rk mint action n dir'))).addLog
          (.flow i.limiterId d n)).addLog (.flow r.limiterId d n)) i i' r r'
      [.event (integrationEvent ck ik mint action value dir),
        .event (reserveEvent ck rk mint action n dir'), .flow i.limiterId d n,
        .flow r.limiterId d n] := by
  refine .of_settlement (.addLog (.addLog (.addLog (.addLog .refl)))) ?_
    (Integration.Booked.of_state.trans hi) hr ?_ ?_ ?_
  · refine .cons ?_ (.cons ?_ (.cons (.head _) (.singleton (.tail _ (.head _)))))
    · exact within_integrationEvent (.head _)
    · exact within_reserveEvent (.head _)
  · simp
  · simp
  · simp [hdir]

/-- **A deposit or a withdrawal, from start to end**: set-ups and reports around a sync,
    then the invocation, then the settlement. Under the laws the vault still holds the
    synced amount when the invocation is made. -/
theorem lending_run {t : TokenAccount} {w₀ w₁ w₂ w₃ : World} {es₀ es₁ es₂ es₃ : List LogEntry}
    {synced : Reserve} {call : Cpi} {signers : List Pubkey} {bank : Bank}
    {action : AccountingAction} {value n : UInt64} {dir dir' : AccountingDirection}
    {d : FlowDirection} {state : IntegrationState}
    (hbefore : Prepares ck w w₀ es₀) (ht : w₀.bank.token? r.vault = some t)
    (hsync : Reserve.SyncRun rk t.amount w₀ w₁ r synced es₁) (hafter : Prepares ck w₁ w₂ es₂)
    (hreport : Reports ck ik w₂ w₃ es₃)
    (hcall : Chain.invoke w₃.clock call signers w₃.bank = some bank)
    (hvault : call.vault? = some r.vault) (hdir : dir'.signed n = Flow.signed (d, n))
    (hi : Integration.Booked w.clock [(d, n)] { i with state := state } i')
    (hr : Reserve.Booked w.clock [(d, n)] synced r') :
    (∃ es, FlowRun ck ik rk w
        ((((((w₃.setBank bank).addLog (.cpi call (some ck))).addLog
          (.event (integrationEvent ck ik mint action value dir))).addLog
            (.event (reserveEvent ck rk mint action n dir'))).addLog
              (.flow i.limiterId d n)).addLog (.flow synced.limiterId d n)) i i' r r' es ∧
      MovesOnly r.vault es ∧ authorizedOut (flowsOf r.limiterId es) = Flow.authorized (d, n) ∧
      authorizedOut (flowsOf i.limiterId es) = Flow.authorized (d, n) ∧
      ∀ m, position ik m es = position ik m es₃ + if mint = m then dir.signed value else 0) ∧
    (r'.lastBalance.toNat : Int) = t.amount.toNat + Flow.signed (d, n) ∧
    (TokenLaws → w.bank.tokenAmount r.vault = t.amount.toNat ∧
      w₃.bank.tokenAmount r.vault = t.amount.toNat) := by
  have hclock : w₃.clock = w.clock := hreport.grows.clock.trans <| hafter.grows.clock.trans <|
    hsync.grows.clock.trans hbefore.grows.clock
  rw [← hclock] at hi hr
  have hsynci : flowsOf i.limiterId es₁ = [] := hsync.flowsOf_eq_nil nofun
  refine ⟨⟨_, hbefore.flowRun.trans ((FlowRun.of_sync hsync).trans (hafter.flowRun.trans
    (hreport.flowRun.trans ((FlowRun.of_invokeSigned hcall).trans (.of_lending hdir hi hr))))),
    ?_, ?_, ?_, ?_⟩, ?_, ?_⟩
  · exact .append (.of_prepares hbefore) <| .append (.of_unsigned hsync.unsigned) <|
      .append (.of_prepares hafter) <| .append (.of_unsigned hreport.unsigned) <|
        .append (.of_signed hvault) (.of_unsigned rfl)
  · rw [← hsync.booked.limiterId_eq]
    simp [hbefore.flowsOf_eq_nil, hafter.flowsOf_eq_nil, hreport.flowsOf_eq_nil,
      hsync.booked.limiterId_eq ▸ hsync.unauthorized]
  · simp [hbefore.flowsOf_eq_nil, hafter.flowsOf_eq_nil, hreport.flowsOf_eq_nil, hsynci]
  · intro m
    simp only [position_append, position_cons, position_nil, signedDelta_cpi, signedDelta_flow,
      signedDelta_integrationEvent_position, signedDelta_reserveEvent_position, true_and,
      hbefore.position_eq_zero, hafter.position_eq_zero, hsync.position_eq_zero, zero_add, add_zero]
  · rw [hr.balance, hsync.lastBalance, net_cons, net_nil, add_zero]
  · intro laws
    have htoken := Bank.tokenAmount_of_token? ht
    refine ⟨?_, ?_⟩
    · rw [← hbefore.amounts laws, htoken]
    · rw [hreport.bank, hafter.amounts laws, hsync.bank, htoken]

/-! ## New balances -/

omit [Chain] in
theorem Integration.setDriftBalance_ok {balance : UInt64}
    (h : i.setDriftBalance balance = .ok i') : ∃ state, i.state = .Drift state ∧
      i' = { i with state := .Drift { state with balance := balance } } := by
  simp only [setDriftBalance, except_bind_ok, okOr_ok, except_pure_ok,
    IntegrationState.drift?_eq] at h
  obtain ⟨state, hstate, rfl⟩ := h
  exact ⟨state, hstate, rfl⟩

omit [Chain] in
theorem Integration.setKaminoBalance_ok {balance : UInt64}
    (h : i.setKaminoBalance balance = .ok i') : ∃ state, i.state = .Kamino state ∧
      i' = { i with state := .Kamino { state with balance := balance } } := by
  simp only [setKaminoBalance, except_bind_ok, okOr_ok, except_pure_ok,
    IntegrationState.kamino?_eq] at h
  obtain ⟨state, hstate, rfl⟩ := h
  exact ⟨state, hstate, rfl⟩

/-! ## Accounts -/

theorem PushPullKaminoAccounts.checkedFromAccounts_ok {config : IntegrationConfig}
    {accounts : List AccountMeta} {innerCtx : PushPullKaminoAccounts}
    (h : checkedFromAccounts authority config accounts r w = .ok (innerCtx, w')) :
    w = w' ∧ (∃ cfg, config = .Kamino cfg ∧
        innerCtx.kaminoReserveLiquidityMint.pubkey = cfg.reserveLiquidityMint) ∧
      innerCtx.reserveVault.pubkey = r.vault := by
  simp only [checkedFromAccounts, bind_ok, fromAccounts_ok, ofOption_ok, ofExcept_ok, read_ok,
    rejectIf_ok, pure_ok, not_not, IntegrationConfig.kamino?_eq, KaminoConfig.checkAccounts,
    except_bind_ok, check_ok, exists_const] at h
  obtain ⟨_, _, ⟨-, -, rfl⟩, cfg, _, ⟨rfl, rfl⟩, _, ⟨⟨-, -, hmint, -⟩, rfl⟩, _, _, hderived, _, _,
    htoken, _, ⟨-, rfl⟩, _, ⟨-, rfl⟩, _, ⟨hvault, rfl⟩, _, ⟨-, rfl⟩, _, _, ⟨rfl, rfl⟩, _,
    ⟨-, rfl⟩, _, _, hfarm, rfl, rfl⟩ := h
  obtain rfl := readOnly_checkDerived hderived
  obtain rfl := readOnly_tokenAccount htoken
  obtain rfl := readOnly_checkObligationFarm hfarm
  exact ⟨rfl, ⟨cfg, rfl, hmint⟩, hvault⟩

theorem DriftConfig.checkAccounts_index {config : DriftConfig} {driftUser : Pubkey}
    {spotMarketIndex : UInt16} {u : Unit}
    (h : config.checkAccounts authority driftUser spotMarketIndex = .ok u) :
    spotMarketIndex = config.spotMarketIndex := by
  simp only [checkAccounts, except_bind_ok, check_ok, not_not] at h
  obtain ⟨_, -, _, -, hindex⟩ := h
  exact hindex

theorem PushDriftAccounts.checkedFromAccounts_ok {config : IntegrationConfig}
    {ctx : PushAccounts} {spotMarketIndex : UInt16} {innerCtx : PushDriftAccounts}
    (h : checkedFromAccounts config ctx spotMarketIndex w = .ok (innerCtx, w')) :
    w = w' ∧ bind ctx.remainingAccounts = some innerCtx ∧
      deriveAddress (driftSpotMarketVaultSeeds spotMarketIndex) DRIFT_PROGRAM_ID =
        .ok innerCtx.spotMarketVault.pubkey ∧
      ∃ cfg, config = .Drift cfg ∧ spotMarketIndex = cfg.spotMarketIndex := by
  simp only [checkedFromAccounts, bind_ok, fromAccounts_ok, ofOption_ok, ofExcept_ok, pure_ok,
    IntegrationConfig.drift?_eq, checkDerived_ok] at h
  obtain ⟨_, _, ⟨-, hbind, rfl⟩, cfg, _, ⟨rfl, rfl⟩, _, _, ⟨hcheck, rfl⟩, _, _, ⟨-, rfl⟩, _, _,
    ⟨-, rfl⟩, _, _, ⟨hvault, rfl⟩, rfl, rfl⟩ := h
  exact ⟨rfl, hbind, hvault, cfg, rfl, DriftConfig.checkAccounts_index hcheck⟩

theorem PullDriftAccounts.checkedFromAccounts_ok {config : IntegrationConfig}
    {ctx : PushAccounts} {spotMarketIndex : UInt16} {innerCtx : PullDriftAccounts}
    (h : checkedFromAccounts config ctx spotMarketIndex w = .ok (innerCtx, w')) :
    w = w' ∧ bind ctx.remainingAccounts = some innerCtx ∧
      deriveAddress (driftSpotMarketVaultSeeds spotMarketIndex) DRIFT_PROGRAM_ID =
        .ok innerCtx.spotMarketVault.pubkey ∧
      ∃ cfg, config = .Drift cfg ∧ spotMarketIndex = cfg.spotMarketIndex := by
  simp only [checkedFromAccounts, bind_ok, fromAccounts_ok, ofOption_ok, ofExcept_ok, pure_ok,
    IntegrationConfig.drift?_eq, checkDerived_ok] at h
  obtain ⟨_, _, ⟨-, hbind, rfl⟩, cfg, _, ⟨rfl, rfl⟩, _, _, ⟨hcheck, rfl⟩, _, _, ⟨-, rfl⟩, _, _,
    ⟨-, rfl⟩, _, _, ⟨hvault, rfl⟩, rfl, rfl⟩ := h
  exact ⟨rfl, hbind, hvault, cfg, rfl, DriftConfig.checkAccounts_index hcheck⟩

/-! ## Exact transfers

Drift keeps a position as a scaled balance, and its value is rounded down. So a deposit of a
hundred tokens may raise the value by one less. -/

/-- The deposit that a push makes. -/
def PushDriftAccounts.deposit (self : PushDriftAccounts) (authority : Pubkey)
    (spotMarketIndex : UInt16) (amount : UInt64) : DriftTransfer where
  state := self.state.pubkey
  user := self.user.pubkey
  userStats := self.userStats.pubkey
  authority := authority
  spotMarketVault := self.spotMarketVault.pubkey
  userTokenAccount := self.reserveVault.pubkey
  tokenProgram := self.tokenProgram.pubkey
  remainingAccounts := self.remainingAccounts.map AccountMeta.pubkey
  marketIndex := spotMarketIndex
  amount := amount
  reduceOnly := false

/-- The withdrawal that a pull makes. -/
def PullDriftAccounts.withdrawal (self : PullDriftAccounts) (authority : Pubkey)
    (spotMarketIndex : UInt16) (amount : UInt64) : DriftTransfer where
  state := self.state.pubkey
  user := self.user.pubkey
  userStats := self.userStats.pubkey
  authority := authority
  spotMarketVault := self.spotMarketVault.pubkey
  userTokenAccount := self.reserveVault.pubkey
  tokenProgram := self.tokenProgram.pubkey
  remainingAccounts := self.remainingAccounts.map AccountMeta.pubkey
  marketIndex := spotMarketIndex
  amount := amount
  reduceOnly := true

/-- The call, made once the interest has accrued, changes the value of the position by what
    the market's vault gains or loses. -/
def DriftTransfer.Exact (ix : DriftTransfer) (w : World) (call : Cpi)
    (signer spotMarket oracle : Pubkey) : Prop :=
  ∀ bank bank' value value',
    Chain.invoke w.clock (.updateSpotMarketCumulativeInterest ix.state spotMarket oracle
      ix.spotMarketVault) [] w.bank = some bank →
    Chain.invoke w.clock call [signer] bank = some bank' →
    driftValue spotMarket ix.user (w.setBank bank) = .ok (value, w.setBank bank) →
    driftValue spotMarket ix.user (w.setBank bank') = .ok (value', w.setBank bank') →
      (value'.toNat : Int) - value.toNat =
        bank'.tokenAmount ix.spotMarketVault - bank.tokenAmount ix.spotMarketVault

/-- If the push is one into Drift, its deposit is exact. -/
def DepositsExactly (w : World) (c : Controller) (ctx : PushAccounts) (args : PushArgs) : Prop :=
  ∀ innerCtx spotMarketIndex amount signer spotMarket oracle,
    args = .Drift spotMarketIndex amount →
    PushDriftAccounts.bind ctx.remainingAccounts = some innerCtx →
    authorityAddress ctx.controller.pubkey c = some signer →
    findSpotMarketAndOracle innerCtx.remainingAccounts spotMarketIndex w =
      .ok ((spotMarket, oracle), w) →
      (innerCtx.deposit ctx.controllerAuthority.pubkey spotMarketIndex amount).Exact w
        (.driftDeposit (innerCtx.deposit ctx.controllerAuthority.pubkey spotMarketIndex amount))
        signer spotMarket.pubkey oracle.pubkey

/-- If the pull is one out of Drift, its withdrawal is exact. -/
def WithdrawsExactly (w : World) (c : Controller) (ctx : PushAccounts) (args : PullArgs) : Prop :=
  ∀ innerCtx spotMarketIndex amount signer spotMarket oracle,
    args = .Drift spotMarketIndex amount →
    PullDriftAccounts.bind ctx.remainingAccounts = some innerCtx →
    authorityAddress ctx.controller.pubkey c = some signer →
    findSpotMarketAndOracle innerCtx.remainingAccounts spotMarketIndex w =
      .ok ((spotMarket, oracle), w) →
      (innerCtx.withdrawal ctx.controllerAuthority.pubkey spotMarketIndex amount).Exact w
        (.driftWithdraw (innerCtx.withdrawal ctx.controllerAuthority.pubkey spotMarketIndex amount)
          innerCtx.driftSigner.pubkey)
        signer spotMarket.pubkey oracle.pubkey

end AlmController
