import AlmController.Spec.Pull
import AlmController.Spec.Push
import AlmController.Spec.Written

/-!
# Where the funds go

The configuration of an integration names a destination: a token account, an address on another
chain, a position at a lending market. `Cpi.Obeys` compares what an invocation names with it.

Each processor is gone through once, and what it checked is compared with what it then invokes.
The configuration alone decides: nothing that the caller of a push or a pull passes along names
another destination.

The proofs follow the text of a processor from top to bottom, one rule for each line of it. A check
leaves its condition behind, a read leaves nothing, and a call that writes has to justify its entry;
a signed invocation does so by `Cpi.Obeys`. The same pass finds that every event is of an account
of the books, and that a reserve's event names its mint.
-/

namespace AlmController

open Prog

variable [Chain]

/-! ## Obeying a configuration -/

/-- The position is the one of this configuration, and the reserve's vault is on the other side. -/
structure KaminoLiquidityAccounts.Obeys (ix : KaminoLiquidityAccounts) (cfg : KaminoConfig)
    (authority : Pubkey) (r : Reserve) : Prop where
  owner : ix.owner = authority
  obligation : ix.obligation = cfg.obligation
  market : ix.lendingMarket = cfg.market
  reserve : ix.kaminoReserve = cfg.reserve
  mint : ix.reserveLiquidityMint = cfg.reserveLiquidityMint
  vault : ix.userLiquidity = r.vault

structure DriftTransfer.Obeys (ix : DriftTransfer) (cfg : DriftConfig) (authority : Pubkey)
    (r : Reserve) : Prop where
  signer : ix.authority = authority
  user : deriveAddress (driftUserSeeds authority cfg.subAccountId) DRIFT_PROGRAM_ID = .ok ix.user
  market : ix.marketIndex = cfg.spotMarketIndex
  marketVault : deriveAddress (driftSpotMarketVaultSeeds cfg.spotMarketIndex) DRIFT_PROGRAM_ID =
    .ok ix.spotMarketVault
  vault : ix.userTokenAccount = r.vault

/-- A transfer out of the reserve's vault, in the mint that the configuration names. -/
structure TransferChecked.Obeys (ix : TransferChecked) (mint authority : Pubkey) (r : Reserve) :
    Prop where
  vault : ix.fromAccount = r.vault
  named : ix.mint = mint
  own : r.mint = mint
  signer : ix.authority = authority

/-- **The invocation goes where the configuration says**, with the reserve's vault on this side.
    The caller is who signed for the instruction: a push over LayerZero pays out to him, for the
    Send that has to follow. -/
def Cpi.Obeys (config : IntegrationConfig) (authority caller : Pubkey) (r : Reserve)
    (call : Cpi) : Prop :=
  match config, call with
  | .SplTokenExternal cfg, .transferChecked ix =>
    ix.Obeys cfg.mint authority r ∧ ix.toAccount = cfg.tokenAccount ∧ ix.tokenProgram = cfg.program
  | .LzBridge cfg, .transferChecked ix =>
    ix.Obeys cfg.mint authority r ∧
      (TokenLaws → associatedTokenAddress caller ix.tokenProgram cfg.mint = some ix.toAccount)
  | .AtomicSwap cfg, .transferChecked ix => ix.Obeys cfg.inputToken authority r
  | .CctpBridge cfg, .depositForBurn ix =>
    ix.vault = r.vault ∧ ix.burnTokenMint = cfg.mint ∧ r.mint = cfg.mint ∧
      ix.controllerAuthority = authority ∧ ix.destinationDomain = cfg.destinationDomain ∧
      ix.mintRecipient = cfg.destinationAddress
  | .Kamino cfg, .kaminoDeposit accounts _ => accounts.Obeys cfg authority r
  | .Kamino cfg, .kaminoWithdraw accounts _ => accounts.Obeys cfg authority r
  | .Kamino cfg, .harvestReward ix =>
    ix.owner = authority ∧
      deriveAddress (obligationFarmSeeds ix.farmState cfg.obligation) KAMINO_FARMS_PROGRAM_ID =
        .ok ix.userState ∧ ix.rewardIndex < 10 ∧
      (TokenLaws → associatedTokenAddress authority ix.tokenProgram ix.rewardMint =
        some ix.userRewardAta)
  | .Drift cfg, .driftDeposit ix => ix.Obeys cfg authority r
  | .Drift cfg, .driftWithdraw ix _ => ix.Obeys cfg authority r ∧ ix.reduceOnly = true
  | _, call => call.isQuiet = true

variable {config : IntegrationConfig} {authority caller : Pubkey} {r : Reserve} {call : Cpi}

/-- What moves no tokens obeys every configuration. -/
theorem Cpi.Obeys.of_isQuiet (h : call.isQuiet = true) : call.Obeys config authority caller r := by
  unfold Cpi.Obeys
  split
  all_goals first | exact h | cases h

/-! ## Accounts of the lending protocols -/

theorem DriftConfig.checkAccounts_ok {cfg : DriftConfig} {user : Pubkey} {index : UInt16}
    {u : Unit} (h : cfg.checkAccounts authority user index = .ok u) :
    deriveAddress (driftUserSeeds authority cfg.subAccountId) DRIFT_PROGRAM_ID = .ok user ∧
      index = cfg.spotMarketIndex := by
  simp only [checkAccounts, except_bind_ok, check_ok, not_not, exists_const] at h
  obtain ⟨_, huser, rfl, hindex⟩ := h
  exact ⟨huser, hindex⟩

theorem PushDriftAccounts.checkedFromAccounts_config {ctx : PushAccounts}
    {spotMarketIndex : UInt16} {innerCtx : PushDriftAccounts} {w w' : World}
    (h : checkedFromAccounts config ctx spotMarketIndex w = .ok (innerCtx, w')) :
    ∃ cfg, config = .Drift cfg ∧
      deriveAddress (driftUserSeeds ctx.controllerAuthority.pubkey cfg.subAccountId)
        DRIFT_PROGRAM_ID = .ok innerCtx.user.pubkey ∧ spotMarketIndex = cfg.spotMarketIndex ∧
      deriveAddress (driftSpotMarketVaultSeeds cfg.spotMarketIndex) DRIFT_PROGRAM_ID =
        .ok innerCtx.spotMarketVault.pubkey := by
  simp only [checkedFromAccounts, bind_ok, fromAccounts_ok, ofOption_ok, ofExcept_ok, pure_ok,
    IntegrationConfig.drift?_eq, checkDerived_ok, and_assoc, exists_and_left, exists_eq_left',
    exists_const] at h
  obtain ⟨-, ctx, -, cfg, hconfig, _, hcheck, -, -, hvault, rfl, -⟩ := h
  obtain ⟨huser, rfl⟩ := DriftConfig.checkAccounts_ok hcheck
  exact ⟨cfg, hconfig, huser, rfl, hvault⟩

theorem PullDriftAccounts.checkedFromAccounts_config {ctx : PushAccounts}
    {spotMarketIndex : UInt16} {innerCtx : PullDriftAccounts} {w w' : World}
    (h : checkedFromAccounts config ctx spotMarketIndex w = .ok (innerCtx, w')) :
    ∃ cfg, config = .Drift cfg ∧
      deriveAddress (driftUserSeeds ctx.controllerAuthority.pubkey cfg.subAccountId)
        DRIFT_PROGRAM_ID = .ok innerCtx.user.pubkey ∧ spotMarketIndex = cfg.spotMarketIndex ∧
      deriveAddress (driftSpotMarketVaultSeeds cfg.spotMarketIndex) DRIFT_PROGRAM_ID =
        .ok innerCtx.spotMarketVault.pubkey := by
  simp only [checkedFromAccounts, bind_ok, fromAccounts_ok, ofOption_ok, ofExcept_ok, pure_ok,
    IntegrationConfig.drift?_eq, checkDerived_ok, and_assoc, exists_and_left, exists_eq_left',
    exists_const] at h
  obtain ⟨-, ctx, -, cfg, hconfig, _, hcheck, -, -, hvault, rfl, -⟩ := h
  obtain ⟨huser, rfl⟩ := DriftConfig.checkAccounts_ok hcheck
  exact ⟨cfg, hconfig, huser, rfl, hvault⟩

theorem PushPullKaminoAccounts.checkedFromAccounts_config {accounts : List AccountMeta}
    {innerCtx : PushPullKaminoAccounts} {w w' : World}
    (h : checkedFromAccounts authority config accounts r w = .ok (innerCtx, w')) :
    ∃ cfg, config = .Kamino cfg ∧ innerCtx.kaminoReserveLiquidityMint.pubkey = r.mint ∧
      (innerCtx.liquidityAccounts authority).Obeys cfg authority r := by
  simp only [checkedFromAccounts, bind_ok, fromAccounts_ok, ofOption_ok, ofExcept_ok, read_ok,
    rejectIf_ok, pure_ok, not_not, IntegrationConfig.kamino?_eq, KaminoConfig.checkAccounts,
    except_bind_ok, check_ok, and_assoc, exists_and_left, exists_eq_left', exists_const] at h
  obtain ⟨-, ctx, -, cfg, hconfig, hobligation, hreserve, hmint, hmarket, _, _, -, h⟩ := h
  obtain ⟨_, _, -, -, -, hvault, hown, -, _, _, -, rfl, -⟩ := h
  refine ⟨cfg, hconfig, hown, rfl, hobligation, ?_, hreserve, hmint, hvault⟩
  by_contra hne
  exact hmarket (decide_eq_true hne)

/-! ## The books of a flow -/

def PushAccounts.books (ctx : PushAccounts) (i : Integration) (r : Reserve) : Books where
  controller := ctx.controller.pubkey
  integrations := [(ctx.integration.pubkey, i)]
  reserves := [(ctx.reserveA.pubkey, r)]

def SyncIntegrationAccounts.books (ctx : SyncIntegrationAccounts) (i : Integration)
    (rs : List (Pubkey × Reserve)) : Books where
  controller := ctx.controller.pubkey
  integrations := [(ctx.integration.pubkey, i)]
  reserves := rs

/-- What a push or a pull may write. -/
abbrev FlowEntry (ctx : PushAccounts) (i : Integration) (r : Reserve) : LogEntry → Prop :=
  Entry (ctx.books i r)
    (Cpi.Obeys i.config ctx.controllerAuthority.pubkey ctx.authority.pubkey r)

section Flow

variable {ctx : PushAccounts} {c : Controller} {p : Permission} {i : Integration}

omit [Chain] in
theorem PushAccounts.mem_integrations :
    (ctx.integration.pubkey, i) ∈ (ctx.books i r).integrations := List.mem_singleton_self _

omit [Chain] in
theorem PushAccounts.mem_reserves : (ctx.reserveA.pubkey, r) ∈ (ctx.books i r).reserves :=
  List.mem_singleton_self _

/-- The end that three of the pushes share. -/
theorem writes_settlePush {vault mint : Pubkey} {action : AccountingAction} {amount n : UInt64}
    {i' : Integration} {r' : Reserve} (hi : i'.limiterId = i.limiterId)
    (hr : r'.limiterId = r.limiterId) (hmint : mint = r.mint) :
    Writes (FlowEntry ctx i r) (settlePush c ctx vault mint action amount n i' r') := by
  apply Follows.look .read
  intro w clock _ _
  apply Follows.look readOnly_tokenAccount
  intro w t _ _
  apply Follows.have_some
  intro delta _
  apply Follows.check
  intro _
  apply Follows.bind (writes_integrationOutflow PushAccounts.mem_integrations hi)
  intro w i₁ w₁ _ _
  apply Follows.bind (writes_reserveOutflow PushAccounts.mem_reserves hr)
  intro w r₁ w₁ _ _
  apply Follows.bind (writes_emitEvent (.reserveEvent PushAccounts.mem_reserves fun _ => hmint))
  intro w u w₁ _ _
  apply Follows.bind (writes_emitEvent (.integrationEvent PushAccounts.mem_integrations))
  intro w u w₁ _ _
  exact .pure

/-! ## External transfers and bridges -/

omit [Chain] in
/-- The accounts of an external transfer are those of the configuration. -/
theorem PushSplTokenExternalAccounts.checkedFromAccounts_config {accounts : List AccountMeta}
    {innerCtx : PushSplTokenExternalAccounts} {w w' : World}
    (h : checkedFromAccounts config accounts w = .ok (innerCtx, w')) :
    ∃ cfg, config = .SplTokenExternal cfg ∧ innerCtx.mint.pubkey = cfg.mint ∧
      innerCtx.recipientTokenAccount.pubkey = cfg.tokenAccount ∧
      innerCtx.tokenProgram.pubkey = cfg.program := by
  simp only [checkedFromAccounts, bind_ok, fromAccounts_ok, ofOption_ok, read_ok, rejectIf_ok,
    pure_ok, not_not, IntegrationConfig.splTokenExternal?_eq, and_assoc, exists_and_left,
    exists_eq_left', exists_const] at h
  obtain ⟨-, ctx, -, cfg, hconfig, hmint, -, -, hdestination, -, hprogram, rfl, -⟩ := h
  exact ⟨cfg, hconfig, hmint, hdestination, hprogram⟩

/-- Out of the vault, into the token account that the configuration names. -/
theorem writes_pushSplTokenExternal {args : PushArgs}
    (hk : pdaOf r.seeds = some ctx.reserveA.pubkey) :
    Writes (FlowEntry ctx i r) (processPushSplTokenExternal c p i r ctx args) := by
  apply Follows.have_some
  intro amount _
  apply Follows.check
  intro _
  apply Follows.check
  intro _
  apply Follows.look (fun _ _ _ h => (PushSplTokenExternalAccounts.checkedFromAccounts_ok h).1)
  intro w innerCtx _ haccounts
  obtain ⟨cfg, hconfig, hmint, hdestination, hprogram⟩ :=
    PushSplTokenExternalAccounts.checkedFromAccounts_config haccounts
  apply Follows.check
  intro hvault
  apply Follows.check
  intro hown
  rw [not_not] at hvault hown
  apply Follows.bind (writes_syncBalance hk PushAccounts.mem_reserves)
  intro w synced w₁ _ hsync
  have hid := Reserve.syncBalance_limiterId hk hsync
  apply Follows.bind (writes_invoke .unsigned)
  intro w u w₁ _ _
  apply Follows.look readOnly_mint
  intro w mint _ _
  apply Follows.bind
  · apply writes_invokeSigned
    apply Entry.signed
    rw [hconfig]
    exact ⟨⟨hvault, hmint, hown.symm.trans hmint, rfl⟩, hdestination, hprogram⟩
  · intro w u w₁ _ _
    exact writes_settlePush rfl hid hown

omit [Chain] in
theorem PushCctpBridgeAccounts.checkedFromAccounts_config {accounts : List AccountMeta}
    {innerCtx : PushCctpBridgeAccounts} {w w' : World}
    (h : checkedFromAccounts config accounts w = .ok (innerCtx, w')) :
    ∃ cfg, config = .CctpBridge cfg ∧ innerCtx.mint.pubkey = cfg.mint := by
  simp only [checkedFromAccounts, bind_ok, fromAccounts_ok, ofOption_ok, rejectIf_ok, pure_ok,
    not_not, IntegrationConfig.cctpBridge?_eq, and_assoc, exists_and_left, exists_eq_left',
    exists_const] at h
  obtain ⟨-, ctx, -, cfg, hconfig, hmint, -, -, rfl, -⟩ := h
  exact ⟨cfg, hconfig, hmint⟩

/-- Burnt out of the vault, for the domain and the recipient that the configuration names. -/
theorem writes_pushCctpBridge {args : PushArgs}
    (hk : pdaOf r.seeds = some ctx.reserveA.pubkey) :
    Writes (FlowEntry ctx i r) (processPushCctpBridge c p i r ctx args) := by
  apply Follows.have_some
  intro amount _
  apply Follows.check
  intro _
  apply Follows.check
  intro _
  apply Follows.look (fun _ _ _ h => (PushCctpBridgeAccounts.checkedFromAccounts_ok h).1)
  intro w innerCtx _ haccounts
  obtain ⟨cfg, hconfig, hmint⟩ := PushCctpBridgeAccounts.checkedFromAccounts_config haccounts
  apply Follows.have_some
  intro cfg' hcfg'
  rw [IntegrationConfig.cctpBridge?_eq] at hcfg'
  apply Follows.look readOnly_readData
  intro w localMint _ _
  apply Follows.check
  intro _
  apply Follows.look readOnly_readData
  intro w remoteTokenMessenger _ _
  apply Follows.check
  intro _
  apply Follows.check
  intro hvault
  apply Follows.check
  intro hown
  rw [not_not] at hvault hown
  apply Follows.bind (writes_syncBalance hk PushAccounts.mem_reserves)
  intro w synced w₁ _ hsync
  have hid := Reserve.syncBalance_limiterId hk hsync
  apply Follows.bind
  · apply writes_invokeSigned
    apply Entry.signed
    -- the configuration was read twice, once to check the mint and once for the destination
    rw [hcfg'] at hconfig ⊢
    obtain rfl := IntegrationConfig.CctpBridge.inj hconfig
    exact ⟨hvault, hmint, hown.symm.trans hmint, rfl, rfl, rfl⟩
  · intro w u w₁ _ _
    exact writes_settlePush rfl hid hown

omit [Chain] in
theorem PushLzBridgeAccounts.checkedFromAccounts_config {accounts : List AccountMeta}
    {innerCtx : PushLzBridgeAccounts} {w w' : World}
    (h : checkedFromAccounts config accounts w = .ok (innerCtx, w')) :
    ∃ cfg, config = .LzBridge cfg ∧ innerCtx.mint.pubkey = cfg.mint := by
  simp only [checkedFromAccounts, bind_ok, fromAccounts_ok, ofOption_ok, rejectIf_ok, pure_ok,
    not_not, IntegrationConfig.lzBridge?_eq, and_assoc, exists_and_left, exists_eq_left',
    exists_const] at h
  obtain ⟨-, ctx, -, cfg, hconfig, hmint, rfl, -⟩ := h
  exact ⟨cfg, hconfig, hmint⟩

/-- Out of the vault, into the associated token account of the caller: the Send that has to
    follow bridges from there. -/
theorem writes_pushLzBridge {tx : TxContext} {args : PushArgs}
    (hk : pdaOf r.seeds = some ctx.reserveA.pubkey) :
    Writes (FlowEntry ctx i r) (processPushLzBridge tx c p i r ctx args) := by
  apply Follows.have_some
  intro amount _
  apply Follows.check
  intro _
  apply Follows.check
  intro _
  apply Follows.look (fun _ _ _ h => (PushLzBridgeAccounts.checkedFromAccounts_ok h).1)
  intro w innerCtx _ haccounts
  obtain ⟨cfg, hconfig, hmint⟩ := PushLzBridgeAccounts.checkedFromAccounts_config haccounts
  apply Follows.have_some
  intro cfg' _
  apply Follows.have_some
  intro state _
  apply Follows.check
  intro _
  apply Follows.check
  intro hvault
  apply Follows.check
  intro hown
  rw [not_not] at hvault hown
  apply Follows.have_ok
  intro _ _
  apply Follows.bind (writes_syncBalance hk PushAccounts.mem_reserves)
  intro w synced w₁ _ hsync
  have hid := Reserve.syncBalance_limiterId hk hsync
  apply Follows.bind (writes_invoke .unsigned)
  intro w u w₁ _ hcreate
  obtain ⟨bank, hcreate, -⟩ := invoke_ok.mp hcreate
  apply Follows.look readOnly_mint
  intro w mint _ _
  apply Follows.bind
  · apply writes_invokeSigned
    apply Entry.signed
    rw [hconfig]
    refine ⟨⟨hvault, hmint, hown.symm.trans hmint, rfl⟩, ?_⟩
    -- the call before this one made the account, at the address of its owner and mint
    intro laws
    rw [← hmint]
    exact laws.createIdempotent hcreate
  · intro w u w₁ _ _
    exact writes_settlePush rfl hid hown

/-! ## Lending -/

section Positions

variable {b : Books} {pays : Cpi → Prop} {k marketMint position : Pubkey} {i' : Integration}

/-- A balance that is only looked up changes the state and tells the difference. -/
theorem writes_syncDriftBalance {spotMarket user : Pubkey} (hi : (k, i') ∈ b.integrations) :
    Writes (Entry b pays) (syncDriftBalance c i k b.controller authority spotMarket user) := by
  apply Follows.have_some
  intro state _
  apply Follows.look readOnly_readData
  intro w market _ _
  apply Follows.look readOnly_getDriftLendingBalance
  intro w balance _ _
  apply Follows.bind (writes_emitLendingBalanceSyncEvent hi)
  intro w u w₁ _ _
  exact .pure

theorem writes_syncKaminoLiquidityValue {mint kaminoReserve obligation : Pubkey}
    (hi : (k, i') ∈ b.integrations) :
    Writes (Entry b pays)
      (syncKaminoLiquidityValue c i k b.controller authority mint kaminoReserve obligation) := by
  apply Follows.have_some
  intro state _
  apply Follows.look readOnly_getKaminoLendingBalance
  intro w value _ _
  apply Follows.bind (writes_emitLendingBalanceSyncEvent hi)
  intro w u w₁ _ _
  exact .pure

omit [Chain] in
theorem Integration.setDriftBalance_limiterId {balance : UInt64}
    (h : i.setDriftBalance balance = .ok i') : i'.limiterId = i.limiterId := by
  obtain ⟨state, -, rfl⟩ := Integration.setDriftBalance_ok h
  rfl

omit [Chain] in
theorem Integration.setKaminoBalance_limiterId {balance : UInt64}
    (h : i.setKaminoBalance balance = .ok i') : i'.limiterId = i.limiterId := by
  obtain ⟨state, -, rfl⟩ := Integration.setKaminoBalance_ok h
  rfl

/-- A token account at a vault's address is of the reserve's mint. -/
theorem IsVaultOf.mint_eq {vault owner mint : Pubkey} {t : TokenAccount} {w w' : World}
    (h : IsVaultOf vault owner mint) (hw : w.bank.WellFormed)
    (ht : TokenAccount.fromAccountInfo vault w = .ok (t, w')) : t.mint = mint := by
  obtain ⟨tokenProgram, haddress⟩ := h
  obtain ⟨-, -, ht⟩ := TokenAccount.fromAccountInfo_ok ht
  exact hw _ _ _ _ _ haddress ht

end Positions

/-- Deposited for the user and the market configured, out of the vault. -/
theorem writes_pushDrift {args : PushArgs} (hk : pdaOf r.seeds = some ctx.reserveA.pubkey)
    (hv : TokenLaws → ∃ owner, IsVaultOf r.vault owner r.mint) :
    Writes (FlowEntry ctx i r) (processPushDrift c p i r ctx args) := by
  apply Follows.have_some
  intro ⟨spotMarketIndex, amount⟩ _
  apply Follows.check
  intro _
  apply Follows.check
  intro _
  apply Follows.look (fun _ _ _ h => (PushDriftAccounts.checkedFromAccounts_ok h).1)
  intro w innerCtx _ haccounts
  obtain ⟨cfg, hconfig, huser, hindex, hmarketVault⟩ :=
    PushDriftAccounts.checkedFromAccounts_config haccounts
  apply Follows.bind (writes_syncBalance hk PushAccounts.mem_reserves)
  intro w synced w₁ _ hsync
  have hid := Reserve.syncBalance_limiterId hk hsync
  obtain ⟨hvault, -⟩ := Reserve.syncBalance_ok hk hsync
  apply Follows.look readOnly_findSpotMarketAndOracle
  intro w ⟨spotMarketInfo, oracleInfo⟩ _ _
  apply Follows.bind (writes_invoke .unsigned)
  intro w u w₁ _ _
  apply Follows.bind (writes_syncDriftBalance PushAccounts.mem_integrations)
  intro w found w₁ _ _
  apply Follows.look readOnly_tokenAccount
  intro w reserveVaultBefore _ _
  apply Follows.look readOnly_tokenAccount
  intro w spotMarketVaultBefore _ _
  apply Follows.bind
  · apply writes_invokeSigned
    apply Entry.signed
    rw [hconfig]
    exact ⟨rfl, huser, hindex, hmarketVault, hvault⟩
  intro w u w₁ _ _
  apply Follows.look readOnly_tokenAccount
  intro w reserveVaultAfter hw hafter
  -- the events are told in the mint of the vault
  have hmint : TokenLaws → reserveVaultAfter.mint = r.mint := by
    intro laws
    obtain ⟨owner, hv⟩ := hv laws
    rw [hvault] at hafter
    exact hv.mint_eq (hw laws) hafter
  apply Follows.have_some
  intro delta _
  apply Follows.check
  intro _
  apply Follows.look readOnly_tokenAccount
  intro w spotMarketVaultAfter _ _
  apply Follows.have_some
  intro value _
  apply Follows.bind (writes_emitEvent (.integrationEvent PushAccounts.mem_integrations))
  intro w u w₁ _ _
  apply Follows.bind (writes_emitEvent (.reserveEvent PushAccounts.mem_reserves hmint))
  intro w u w₁ _ _
  apply Follows.have_some
  intro state _
  apply Follows.look readOnly_readData
  intro w market _ _
  apply Follows.look readOnly_getDriftLendingBalance
  intro w balance _ _
  apply Follows.have_ok
  intro deposited hset
  apply Follows.look .read
  intro w clock _ _
  apply Follows.bind (writes_integrationOutflow PushAccounts.mem_integrations
    (Integration.setDriftBalance_limiterId hset))
  intro w i₁ w₁ _ _
  apply Follows.bind (writes_reserveOutflow PushAccounts.mem_reserves hid)
  intro w r₁ w₁ _ _
  exact .pure

/-- Withdrawn from the same position into the vault, with `reduce_only` set. -/
theorem writes_pullDrift {args : PullArgs} (hk : pdaOf r.seeds = some ctx.reserveA.pubkey)
    (hv : TokenLaws → ∃ owner, IsVaultOf r.vault owner r.mint) :
    Writes (FlowEntry ctx i r) (processPullDrift c p i r ctx args) := by
  apply Follows.have_some
  intro ⟨spotMarketIndex, amount⟩ _
  apply Follows.check
  intro _
  apply Follows.check
  intro _
  apply Follows.look (fun _ _ _ h => (PullDriftAccounts.checkedFromAccounts_ok h).1)
  intro w innerCtx _ haccounts
  obtain ⟨cfg, hconfig, huser, hindex, hmarketVault⟩ :=
    PullDriftAccounts.checkedFromAccounts_config haccounts
  apply Follows.bind (writes_syncBalance hk PushAccounts.mem_reserves)
  intro w synced w₁ _ hsync
  have hid := Reserve.syncBalance_limiterId hk hsync
  obtain ⟨hvault, -⟩ := Reserve.syncBalance_ok hk hsync
  apply Follows.look readOnly_findSpotMarketAndOracle
  intro w ⟨spotMarketInfo, oracleInfo⟩ _ _
  apply Follows.bind (writes_invoke .unsigned)
  intro w u w₁ _ _
  apply Follows.bind (writes_syncDriftBalance PushAccounts.mem_integrations)
  intro w found w₁ _ _
  apply Follows.look readOnly_tokenAccount
  intro w spotMarketVaultBefore _ _
  apply Follows.bind
  · apply writes_invokeSigned
    apply Entry.signed
    rw [hconfig]
    exact ⟨⟨rfl, huser, hindex, hmarketVault, hvault⟩, rfl⟩
  intro w u w₁ _ _
  apply Follows.look readOnly_tokenAccount
  intro w reserveVaultAfter hw hafter
  have hmint : TokenLaws → reserveVaultAfter.mint = r.mint := by
    intro laws
    obtain ⟨owner, hv⟩ := hv laws
    rw [hvault] at hafter
    exact hv.mint_eq (hw laws) hafter
  apply Follows.look readOnly_tokenAccount
  intro w spotMarketVaultAfter _ _
  apply Follows.bind (writes_emitEvent (.integrationEvent PushAccounts.mem_integrations))
  intro w u w₁ _ _
  apply Follows.bind (writes_emitEvent (.reserveEvent PushAccounts.mem_reserves hmint))
  intro w u w₁ _ _
  apply Follows.have_some
  intro state _
  apply Follows.look readOnly_readData
  intro w market _ _
  apply Follows.look readOnly_getDriftLendingBalance
  intro w balance _ _
  apply Follows.have_ok
  intro withdrawn hset
  apply Follows.look .read
  intro w clock _ _
  apply Follows.bind (writes_integrationInflow PushAccounts.mem_integrations
    (Integration.setDriftBalance_limiterId hset))
  intro w i₁ w₁ _ _
  apply Follows.bind (writes_reserveInflow PushAccounts.mem_reserves hid)
  intro w r₁ w₁ _ _
  exact .pure

/-- Deposited for the obligation configured, out of the vault. -/
theorem writes_pushKamino {args : PushArgs} (hk : pdaOf r.seeds = some ctx.reserveA.pubkey) :
    Writes (FlowEntry ctx i r) (processPushKamino c p i r ctx args) := by
  apply Follows.look .read
  intro w clock _ _
  apply Follows.have_some
  intro amount _
  apply Follows.check
  intro _
  apply Follows.check
  intro _
  apply Follows.look (fun _ _ _ h => (PushPullKaminoAccounts.checkedFromAccounts_ok h).1)
  intro w innerCtx _ haccounts
  obtain ⟨cfg, hconfig, hown, hobeys⟩ := PushPullKaminoAccounts.checkedFromAccounts_config haccounts
  apply Follows.look .read
  intro w _ _ _
  apply Follows.check
  intro _
  apply Follows.bind (SetsUp.writes (b := ctx.books i r) setsUp_reopenObligation
    fun _ hquiet => .of_isQuiet hquiet)
  intro w u w₁ _ _
  apply Follows.bind (writes_syncBalance hk PushAccounts.mem_reserves)
  intro w synced w₁ _ hsync
  have hid := Reserve.syncBalance_limiterId hk hsync
  apply Follows.bind (writes_syncKaminoLiquidityValue PushAccounts.mem_integrations)
  intro w found w₁ _ _
  apply Follows.look readOnly_tokenAccount
  intro w vaultBefore _ _
  apply Follows.look readOnly_getKaminoLendingBalance
  intro w liquidityValueBefore _ _
  apply Follows.bind
  · apply writes_invokeSigned
    apply Entry.signed
    rw [hconfig]
    exact hobeys
  intro w u w₁ _ _
  apply Follows.look readOnly_tokenAccount
  intro w vaultAfter _ _
  apply Follows.look readOnly_getKaminoLendingBalance
  intro w liquidityValueAfter _ _
  apply Follows.bind (writes_emitEvent (.integrationEvent PushAccounts.mem_integrations))
  intro w u w₁ _ _
  apply Follows.bind (writes_emitEvent (.reserveEvent PushAccounts.mem_reserves fun _ => hown))
  intro w u w₁ _ _
  apply Follows.have_ok
  intro deposited hset
  apply Follows.bind (writes_integrationOutflow PushAccounts.mem_integrations
    (Integration.setKaminoBalance_limiterId hset))
  intro w i₁ w₁ _ _
  apply Follows.bind (writes_reserveOutflow PushAccounts.mem_reserves hid)
  intro w r₁ w₁ _ _
  exact .pure

/-- Withdrawn from it, into the vault. -/
theorem writes_pullKamino {args : PullArgs} (hk : pdaOf r.seeds = some ctx.reserveA.pubkey) :
    Writes (FlowEntry ctx i r) (processPullKamino c p i r ctx args) := by
  apply Follows.look .read
  intro w clock _ _
  apply Follows.have_some
  intro amount _
  apply Follows.check
  intro _
  apply Follows.check
  intro _
  apply Follows.look (fun _ _ _ h => (PushPullKaminoAccounts.checkedFromAccounts_ok h).1)
  intro w innerCtx _ haccounts
  obtain ⟨cfg, hconfig, hown, hobeys⟩ := PushPullKaminoAccounts.checkedFromAccounts_config haccounts
  apply Follows.look .read
  intro w _ _ _
  apply Follows.check
  intro _
  apply Follows.bind (writes_syncBalance hk PushAccounts.mem_reserves)
  intro w synced w₁ _ hsync
  have hid := Reserve.syncBalance_limiterId hk hsync
  apply Follows.bind (writes_syncKaminoLiquidityValue PushAccounts.mem_integrations)
  intro w found w₁ _ _
  apply Follows.look readOnly_readData
  intro w kaminoReserveState _ _
  apply Follows.have_ok
  intro collateralAmount _
  apply Follows.look readOnly_tokenAccount
  intro w vaultBefore _ _
  apply Follows.bind
  · apply writes_invokeSigned
    apply Entry.signed
    rw [hconfig]
    exact hobeys
  intro w u w₁ _ _
  apply Follows.look readOnly_tokenAccount
  intro w vaultAfter _ _
  apply Follows.look readOnly_getKaminoLendingBalance
  intro w liquidityValueAfter _ _
  apply Follows.bind (writes_emitEvent (.integrationEvent PushAccounts.mem_integrations))
  intro w u w₁ _ _
  apply Follows.bind (writes_emitEvent (.reserveEvent PushAccounts.mem_reserves fun _ => hown))
  intro w u w₁ _ _
  apply Follows.have_ok
  intro withdrawn hset
  apply Follows.bind (writes_integrationInflow PushAccounts.mem_integrations
    (Integration.setKaminoBalance_limiterId hset))
  intro w i₁ w₁ _ _
  apply Follows.bind (writes_reserveInflow PushAccounts.mem_reserves hid)
  intro w r₁ w₁ _ _
  exact .pure

/-! ## Every push, and every pull -/

/-- **Every push.** -/
theorem writes_pushProtocol {tx : TxContext} {args : PushArgs}
    (hk : pdaOf r.seeds = some ctx.reserveA.pubkey)
    (hv : TokenLaws → ∃ owner, IsVaultOf r.vault owner r.mint) :
    Writes (FlowEntry ctx i r) (processPushProtocol tx c p i r ctx args) := by
  cases args with
  | SplTokenExternal => exact writes_pushSplTokenExternal hk
  | CctpBridge => exact writes_pushCctpBridge hk
  | LzBridge => exact writes_pushLzBridge hk
  | Drift => exact writes_pushDrift hk hv
  | Kamino => exact writes_pushKamino hk

/-- **Every pull.** Three of the protocols have none. -/
theorem writes_pullProtocol {args : PullArgs} (hk : pdaOf r.seeds = some ctx.reserveA.pubkey)
    (hv : TokenLaws → ∃ owner, IsVaultOf r.vault owner r.mint) :
    Writes (FlowEntry ctx i r) (processPullProtocol c p i r ctx args) := by
  cases args with
  | SplTokenExternal => exact .fail
  | CctpBridge => exact .fail
  | LzBridge => exact .fail
  | Drift => exact writes_pullDrift hk hv
  | Kamino => exact writes_pullKamino hk

end Flow

/-! ## Syncs -/

/-- What a sync may write. Nobody has to be allowed to call for one, so what it signs moves no
    funds of the controller. -/
abbrev SyncEntry (ctx : SyncIntegrationAccounts) (i : Integration) (r : Reserve) : LogEntry → Prop :=
  Entry (ctx.books i [(ctx.reserve.pubkey, r)]) fun call =>
    call.movesFunds = false ∧
      call.Obeys i.config ctx.controllerAuthority.pubkey ctx.payer.pubkey r

section Sync

variable {ctx : SyncIntegrationAccounts} {c : Controller} {i i' : Integration} {r' : Reserve}

omit [Chain] in
theorem SyncIntegrationAccounts.mem_integrations {rs : List (Pubkey × Reserve)} :
    (ctx.integration.pubkey, i) ∈ (ctx.books i rs).integrations := List.mem_singleton_self _

omit [Chain] in
theorem SyncIntegrationAccounts.mem_reserves :
    (ctx.reserve.pubkey, r) ∈ (ctx.books i [(ctx.reserve.pubkey, r)]).reserves :=
  List.mem_singleton_self _

theorem HarvestKaminoAccounts.checkedFromAccounts_ok {obligation : Pubkey}
    {accounts : List AccountMeta} {harvestCtx : HarvestKaminoAccounts} {w w' : World}
    (h : checkedFromAccounts obligation accounts w = .ok (harvestCtx, w')) :
    deriveAddress (obligationFarmSeeds harvestCtx.kaminoReserveFarm.pubkey obligation)
      KAMINO_FARMS_PROGRAM_ID = .ok harvestCtx.obligationFarm.pubkey := by
  simp only [checkedFromAccounts, bind_ok, fromAccounts_ok, checkDerived_ok, pure_ok, and_assoc,
    exists_and_left, exists_eq_left', exists_const] at h
  obtain ⟨-, ctx, -, hfarm, -, -, -, rfl, -⟩ := h
  exact hfarm

omit [Chain] in
theorem SyncKaminoAccounts.checkedFromAccounts_config {accounts : List AccountMeta}
    {innerCtx : SyncKaminoAccounts} {w w' : World}
    (h : checkedFromAccounts config accounts r w = .ok (innerCtx, w')) :
    ∃ cfg, config = .Kamino cfg ∧ innerCtx.obligation.pubkey = cfg.obligation := by
  simp only [checkedFromAccounts, bind_ok, fromAccounts_ok, ofOption_ok, ofExcept_ok, rejectIf_ok,
    pure_ok, IntegrationConfig.kamino?_eq, KaminoConfig.checkAccounts, except_bind_ok, check_ok,
    not_not, and_assoc, exists_and_left, exists_eq_left', exists_const] at h
  obtain ⟨-, ctx, -, cfg, hconfig, hobligation, -, -, -, -, rfl, -⟩ := h
  exact ⟨cfg, hconfig, hobligation⟩

/-- Rewards in the mint of the reserve are booked as an inflow of both. -/
theorem writes_bookRewards {vault mint : Pubkey} (hi : i'.limiterId = i.limiterId)
    (hr : r'.limiterId = r.limiterId) (hmint : mint = r.mint) :
    Writes (SyncEntry ctx i r) (bookRewards c i' r' ctx vault mint) := by
  apply Follows.look .read
  intro w clock _ _
  apply Follows.look readOnly_tokenAccount
  intro w t _ _
  apply Follows.bind
    (writes_emitEvent (.integrationEvent SyncIntegrationAccounts.mem_integrations))
  intro w u w₁ _ _
  apply Follows.bind
    (writes_emitEvent (.integrationEvent SyncIntegrationAccounts.mem_integrations))
  intro w u w₁ _ _
  apply Follows.bind
    (writes_emitEvent (.reserveEvent SyncIntegrationAccounts.mem_reserves fun _ => hmint))
  intro w u w₁ _ _
  apply Follows.bind (writes_reserveInflow SyncIntegrationAccounts.mem_reserves hr)
  intro w r₁ w₁ _ _
  apply Follows.bind (writes_integrationInflow SyncIntegrationAccounts.mem_integrations hi)
  intro w i₁ w₁ _ _
  exact .pure

omit [Chain] in
theorem FarmState.findRewardIndex_lt {state : FarmState} {mint tokenProgram : Pubkey} {n : Nat}
    (h : state.findRewardIndex mint tokenProgram = some n) : n < 10 := by
  obtain ⟨hlt, -⟩ := List.findIdx?_eq_some_iff_getElem.mp h
  rw [Vector.length_toList] at hlt
  exact hlt

/-- A harvest is for the farm of the obligation configured, into an account that was made for it
    just before. -/
theorem writes_maybeHarvest {innerCtx : SyncKaminoAccounts} {state : KaminoReserve}
    {cfg : KaminoConfig} (hconfig : i.config = .Kamino cfg)
    (hobligation : innerCtx.obligation.pubkey = cfg.obligation)
    (hr : r'.limiterId = r.limiterId) (hmint : r'.mint = r.mint) :
    Writes (SyncEntry ctx i r) (maybeHarvest c i r' ctx innerCtx state) := by
  apply Follows.ite _ fun _ => .pure
  intro _
  apply Follows.look readOnly_harvestKaminoAccounts
  intro w harvestCtx _ haccounts
  have hfarm := HarvestKaminoAccounts.checkedFromAccounts_ok haccounts
  apply Follows.check
  intro _
  apply Follows.look readOnly_readData
  intro w farmState _ _
  apply Follows.have_some
  intro rewardIndex hindex
  apply Follows.bind (writes_invoke .unsigned)
  intro w u w₁ _ hcreate
  obtain ⟨bank, hcreate, -⟩ := invoke_ok.mp hcreate
  apply Follows.bind
  · apply writes_invokeSigned
    apply Entry.signed
    rw [hconfig]
    refine ⟨rfl, rfl, ?_, FarmState.findRewardIndex_lt hindex,
      fun laws => laws.createIdempotent hcreate⟩
    rw [← hobligation]
    exact hfarm
  · intro w u w₁ _ _
    by_cases hsame : harvestCtx.rewardsMint.pubkey = r'.mint
    · rw [if_pos hsame]
      exact writes_bookRewards rfl hr (hsame.trans hmint)
    · rw [if_neg hsame]
      exact .pure

/-- The sync of a Kamino integration, harvest included. -/
theorem writes_syncKamino (hk : pdaOf r.seeds = some ctx.reserve.pubkey) :
    Writes (SyncEntry ctx i r) (processSyncKamino c i r ctx) := by
  apply Follows.look (fun _ _ _ h => (SyncKaminoAccounts.checkedFromAccounts_ok h).1)
  intro w innerCtx _ haccounts
  obtain ⟨cfg, hconfig, hobligation⟩ := SyncKaminoAccounts.checkedFromAccounts_config haccounts
  apply Follows.bind (writes_syncBalance hk SyncIntegrationAccounts.mem_reserves)
  intro w synced w₁ _ hsync
  have hid := Reserve.syncBalance_limiterId hk hsync
  apply Follows.look readOnly_readData
  intro w state _ _
  apply Follows.look .read
  intro w clock _ _
  apply Follows.have_ok
  intro isStale _
  apply Follows.check
  intro _
  apply Follows.bind (writes_maybeHarvest hconfig hobligation hid (LimiterId.reserve.inj hid).2)
  intro w harvested w₁ _ _
  apply Follows.bind
    (writes_syncKaminoLiquidityValue SyncIntegrationAccounts.mem_integrations)
  intro w value w₁ _ _
  apply Follows.have_ok
  intro updated _
  exact .pure

/-- The sync of a Drift integration signs for nothing. -/
theorem writes_syncDrift {b : Books} {pays : Cpi → Prop} (hb : b.controller = ctx.controller.pubkey)
    (hi : (ctx.integration.pubkey, i) ∈ b.integrations) :
    Writes (Entry b pays) (processSyncDrift c i ctx) := by
  apply Follows.look readOnly_syncDriftAccounts
  intro w innerCtx _ _
  apply Follows.bind (writes_invoke .unsigned)
  intro w u w₁ _ _
  rw [← hb]
  apply Follows.bind (writes_syncDriftBalance hi)
  intro w value w₁ _ _
  exact .of_readOnly .ofExcept

end Sync

end AlmController
