import AlmController.Spec.Access
import AlmController.Spec.Parts

/-!
# Coherent configurations

A configuration is checked once, when its integration is created, against accounts that the
manager names. Most of what is checked then is about the configuration alone, and so it is true
for good: a token account is the recipient's, a position is the controller's. What is not, the
oracle of a swap, is about an account of this program, which cannot go away or change its mints.

`IntegrationConfig.Coherent` is what is left of the checks.
-/

namespace AlmController

open Prog

variable [Chain]

variable {w w' : World} {ck authority : Pubkey} {ctx : InitializeIntegrationAccounts}
  {args : InitializeIntegrationArgs} {c : Controller} {config : IntegrationConfig}
  {state : IntegrationState}

/-- The oracle is of the controller at `ck`, and quotes what goes into the swap in what comes out,
    or the other way round if the swap says so. -/
structure AtomicSwapConfig.QuotedBy (cfg : AtomicSwapConfig) (ck : Pubkey) (o : Oracle) : Prop where
  controller : o.controller = ck
  base : o.baseMint = if cfg.oraclePriceInverted then cfg.outputToken else cfg.inputToken
  quote : o.quoteMint = if cfg.oraclePriceInverted then cfg.inputToken else cfg.outputToken

/-- **The configuration fits the controller** at `ck` with this authority: what it names is what
    the program derives, and a swap has an oracle for its two tokens. -/
def IntegrationConfig.Coherent (w : World) (ck authority : Pubkey) : IntegrationConfig → Prop
  | .Undefined _ => False
  | .SplTokenExternal cfg =>
    cfg.program ∈ [TOKEN_PROGRAM_ID, TOKEN_2022_PROGRAM_ID] ∧
      (TokenLaws →
        associatedTokenAddress cfg.recipient cfg.program cfg.mint = some cfg.tokenAccount) ∧
      cfg.padding = 0
  | .CctpBridge cfg =>
    cfg.cctpTokenMessengerMinter = CCTP_TOKEN_MESSENGER_MINTER_PROGRAM_ID ∧
      cfg.cctpMessageTransmitter = CCTP_MESSAGE_TRANSMITTER_PROGRAM_ID ∧ cfg.padding = 0
  | .LzBridge cfg =>
    deriveAddress [OFT_PEER_CONFIG_SEED, cfg.oftStore.bytes, u32BytesBe cfg.destinationEid]
      cfg.program = .ok cfg.peerConfig ∧ cfg.padding = 0
  | .AtomicSwap cfg =>
    cfg.inputToken ≠ cfg.outputToken ∧
      (∃ o, w.keel cfg.oracle = some (.oracle o) ∧ cfg.QuotedBy ck o) ∧ cfg.padding = 0
  | .Drift cfg =>
    (∃ user,
      deriveAddress (driftUserSeeds authority cfg.subAccountId) DRIFT_PROGRAM_ID = .ok user) ∧
      (∃ market, deriveAddress (driftSpotMarketSeeds cfg.spotMarketIndex) DRIFT_PROGRAM_ID =
        .ok market) ∧ cfg.padding = 0
  | .Kamino cfg =>
    deriveAddress (vanillaObligationSeeds cfg.obligationId authority cfg.market)
      KAMINO_LEND_PROGRAM_ID = .ok cfg.obligation ∧ cfg.padding = 0

/-- Only the oracles matter, and of them what never changes. -/
theorem IntegrationConfig.Coherent.mono (h : config.Coherent w ck authority)
    (horacles : ∀ ⦃k o⦄, w.keel k = some (.oracle o) → ∃ o', w'.keel k = some (.oracle o') ∧
      o'.controller = o.controller ∧ o'.baseMint = o.baseMint ∧ o'.quoteMint = o.quoteMint) :
    config.Coherent w' ck authority := by
  cases config with
  | AtomicSwap cfg =>
    obtain ⟨hne, ⟨o, ho, hquoted⟩, hpadding⟩ := h
    obtain ⟨o', ho', hcontroller, hbase, hquote⟩ := horacles ho
    exact ⟨hne, ⟨o', ho', hcontroller.trans hquoted.controller, hbase.trans hquoted.base,
      hquote.trans hquoted.quote⟩, hpadding⟩
  | _ => exact h

/-! ## What each protocol checks -/

omit [Chain] in
/-- The check of an account struct that asks for an address. -/
theorem AccountsHold.isKey {specs : List AccountSpec} {accounts : List AccountMeta} {n : Nat}
    {spec : AccountSpec} {account : AccountMeta} {keys : List Pubkey}
    (h : AccountsHold specs accounts w) (hspec : specs[n]? = some spec)
    (ha : accounts[n]? = some account) (hkeys : spec.pubkey = some keys) :
    account.pubkey ∈ keys := by
  obtain ⟨hn, rfl⟩ := List.getElem?_eq_some_iff.mp hspec
  exact (h.holds hn ha).pubkey keys hkeys

theorem deriveAddress_of_find {seeds : List (List UInt8)} {program k : Pubkey} {bump : UInt8}
    (h : findAddress seeds program = .ok (k, bump)) : deriveAddress seeds program = .ok k := by
  rw [deriveAddress, h]
  rfl

omit [Chain] in
theorem InitializeSplTokenExternalAccounts.bind_tokenProgram {accounts : List AccountMeta}
    {innerCtx : InitializeSplTokenExternalAccounts} (h : bind accounts = some innerCtx) :
    accounts[3]? = some innerCtx.tokenProgram := by
  unfold bind at h
  split at h
  · obtain rfl := Option.some.inj h
    rfl
  · cases h

omit [Chain] in
theorem InitializeCctpBridgeAccounts.bind_programs {accounts : List AccountMeta}
    {innerCtx : InitializeCctpBridgeAccounts} (h : bind accounts = some innerCtx) :
    accounts[3]? = some innerCtx.cctpMessageTransmitter ∧
      accounts[4]? = some innerCtx.cctpTokenMessengerMinter := by
  unfold bind at h
  split at h
  · obtain rfl := Option.some.inj h
    exact ⟨rfl, rfl⟩
  · cases h

/-- The recipient's account is checked by having it created. -/
theorem processInitializeSplTokenExternal_coherent
    (h : processInitializeSplTokenExternal ctx w = .ok ((config, state), w')) :
    config.Coherent w ck authority := by
  simp only [processInitializeSplTokenExternal, bind_ok, fromAccounts_ok, invoke_ok, pure_ok,
    Prod.mk.injEq, and_assoc, exists_and_left, exists_eq_left'] at h
  obtain ⟨haccounts, innerCtx, hbind, _, _, -, _, _, -, _, _, ⟨bank, hinvoke, -⟩, rfl, -⟩ := h
  have hget := InitializeSplTokenExternalAccounts.bind_tokenProgram hbind
  exact ⟨haccounts.isKey rfl hget rfl, fun laws => laws.createIdempotent hinvoke, rfl⟩

theorem processInitializeCctpBridge_coherent
    (h : processInitializeCctpBridge ctx args w = .ok ((config, state), w')) :
    config.Coherent w ck authority := by
  simp only [processInitializeCctpBridge, InitializeCctpBridgeAccounts.checkedFromAccounts, bind_ok,
    fromAccounts_ok, pure_ok, Prod.mk.injEq, and_assoc, exists_and_left, exists_eq_left'] at h
  obtain ⟨haccounts, _, _, ⟨innerCtx, hbind, _, _, -, rfl, -⟩, h⟩ := h
  obtain ⟨_, _, -, _, _, -, _, _, -, _, _, -, _, _, -, rfl, -⟩ := h
  obtain ⟨htransmitter, hminter⟩ := InitializeCctpBridgeAccounts.bind_programs hbind
  exact ⟨List.mem_singleton.mp (haccounts.isKey rfl hminter rfl),
    List.mem_singleton.mp (haccounts.isKey rfl htransmitter rfl), rfl⟩

theorem processInitializeLzBridge_coherent
    (h : processInitializeLzBridge ctx args w = .ok ((config, state), w')) :
    config.Coherent w ck authority := by
  simp only [processInitializeLzBridge, bind_ok, ofExcept_ok, rejectIf_ok, pure_ok, not_not,
    Prod.mk.injEq, Prod.exists, and_assoc, exists_and_left, exists_eq_left', exists_const] at h
  obtain ⟨innerCtx, _, -, destination, eid, _, -, _, _, -, -, -, k, bump, hfind, rfl, h⟩ := h
  obtain ⟨_, _, -, rfl, -⟩ := h
  exact ⟨deriveAddress_of_find hfind, rfl⟩

/-- The oracle is the controller's, and quotes the two tokens of the swap. -/
theorem processInitializeAtomicSwap_coherent
    (h : processInitializeAtomicSwap ctx args w = .ok ((config, state), w')) :
    config.Coherent w ctx.controller.pubkey authority := by
  simp only [processInitializeAtomicSwap, bind_ok, fromAccounts_ok, rejectIf_ok, read_ok,
    ofOption_ok, pure_ok, not_or, Prod.mk.injEq, and_assoc, exists_and_left, exists_eq_left',
    exists_const] at h
  obtain ⟨-, innerCtx, -, hne, o, _, hol, ⟨slippage, staleness, expiry, inverted⟩, -, -, -, h⟩ := h
  obtain ⟨rfl, ho, hcontroller, -⟩ := Oracle.loadAndCheck_at hol
  obtain ⟨_, _, -, _, _, -, _, _, -, _, _, -, hinverted, hstraight, rfl, -⟩ := h
  cases inverted with
  | true =>
    obtain ⟨hbase, hquote⟩ := not_or.mp (not_and.mp hinverted rfl)
    rw [not_not] at hbase hquote
    exact ⟨hne, ⟨o, ho.keel, hcontroller _ rfl, hbase.symm, hquote.symm⟩, rfl⟩
  | false =>
    obtain ⟨hquote, hbase⟩ := not_or.mp (not_and.mp hstraight rfl)
    rw [not_not] at hbase hquote
    exact ⟨hne, ⟨o, ho.keel, hcontroller _ rfl, hbase.symm, hquote.symm⟩, rfl⟩

theorem processInitializeDrift_coherent
    (h : processInitializeDrift ctx args c w = .ok ((config, state), w')) :
    config.Coherent w ck ctx.controllerAuthority.pubkey := by
  simp only [processInitializeDrift, InitializeDriftAccounts.checkedFromAccounts, bind_ok,
    fromAccounts_ok, checkDerived_ok, pure_ok, Prod.mk.injEq, and_assoc, exists_and_left,
    exists_eq_left', exists_const] at h
  obtain ⟨⟨sub, index⟩, _, -, -, _, _, ⟨innerCtx, -, _, _, -, huser, -, -, hmarket, rfl, -⟩, h⟩ := h
  obtain ⟨_, _, -, _, _, -, _, _, -, _, _, -, _, _, -, _, _, -, rfl, -⟩ := h
  exact ⟨⟨_, huser⟩, ⟨_, hmarket⟩, rfl⟩

theorem processInitializeKamino_coherent
    (h : processInitializeKamino ctx args c w = .ok ((config, state), w')) :
    config.Coherent w ck ctx.controllerAuthority.pubkey := by
  simp only [processInitializeKamino, InitializeKaminoAccounts.checkedFromAccounts, bind_ok,
    fromAccounts_ok, checkDerived_ok, pure_ok, Prod.mk.injEq, and_assoc, exists_and_left,
    exists_eq_left', exists_const] at h
  obtain ⟨id, _, -, -, _, _, ⟨innerCtx, -, _, _, -, _, _, -, _, _, -, hobligation, h'⟩, h⟩ := h
  obtain ⟨-, -, -, _, _, -, rfl, -⟩ := h'
  obtain ⟨_, _, -, _, _, -, _, _, -, _, _, -, _, _, -, _, _, -, _, _, -, rfl, -⟩ := h
  exact ⟨hobligation, rfl⟩

/-- **What InitializeIntegration writes is coherent.** -/
theorem processInitializeProtocol_coherent
    (h : processInitializeProtocol ctx args c w = .ok ((config, state), w')) :
    config.Coherent w ctx.controller.pubkey ctx.controllerAuthority.pubkey := by
  unfold processInitializeProtocol at h
  cases htype : args.integrationType with
  | SplTokenExternal =>
    rw [htype] at h
    exact processInitializeSplTokenExternal_coherent h
  | CctpBridge =>
    rw [htype] at h
    exact processInitializeCctpBridge_coherent h
  | LzBridge =>
    rw [htype] at h
    exact processInitializeLzBridge_coherent h
  | AtomicSwap =>
    rw [htype] at h
    exact processInitializeAtomicSwap_coherent h
  | Drift =>
    rw [htype] at h
    exact processInitializeDrift_coherent h
  | Kamino =>
    rw [htype] at h
    exact processInitializeKamino_coherent h

end AlmController
