import AlmController.Spec.Lending

/-!
# Pushes

What each protocol's own part of Push did, when it succeeded. The five differ in the
invocation that takes the tokens and in how the amount is measured; what they establish
about the Integration, the Reserve and its vault is the same, `PushRun`.
-/

namespace AlmController

open Prog

variable [Chain]

/-! ## What a push establishes -/

/-- How a push may change the state of its Integration. -/
inductive PushedState (tx : TxContext) (ctx : PushAccounts) (i : Integration) :
    PushArgs → IntegrationState → Prop
  | splTokenExternal {amount : UInt64} :
      PushedState tx ctx i (.SplTokenExternal amount) i.state
  | cctpBridge {amount : UInt64} : PushedState tx ctx i (.CctpBridge amount) i.state
  /-- Only a push over LayerZero goes in flight, when none is and its Send follows. -/
  | lzBridge {amount : UInt64} {innerCtx : PushLzBridgeAccounts} {config : LzBridgeConfig}
      {state : LzBridgeState} :
      PushLzBridgeAccounts.bind ctx.remainingAccounts = some innerCtx →
      i.config = .LzBridge config → i.state = .LzBridge state → state.pushInFlight = false →
      verifySendIxInTx tx ctx.authority.pubkey innerCtx config ctx.integration.pubkey amount =
        .ok () →
      PushedState tx ctx i (.LzBridge amount) (.LzBridge { state with pushInFlight := true })
  | drift {spotMarketIndex : UInt16} {amount balance : UInt64} {state : LendingState} :
      i.state = .Drift state →
      PushedState tx ctx i (.Drift spotMarketIndex amount) (.Drift { state with balance := balance })
  | kamino {amount balance : UInt64} {state : LendingState} :
      i.state = .Kamino state →
      PushedState tx ctx i (.Kamino amount) (.Kamino { state with balance := balance })

/-- **What every push establishes.** -/
structure PushRun (tx : TxContext) (ctx : PushAccounts) (args : PushArgs) (p : Permission)
    (w w' : World) (i i' : Integration) (r r' : Reserve) (es : List LogEntry) : Prop where
  flow : FlowRun ctx.controller.pubkey ctx.integration.pubkey ctx.reserveA.pubkey w w' i i' r r' es
  state : PushedState tx ctx i args i'.state
  config : i.config.protocol = some args.protocol
  allowed : p.mayPush i args
  movesOnly : MovesOnly r.vault es
  /-- The recorded balance is the vault's. -/
  tracked : TokenLaws → w'.bank.tokenAmount r.vault = r'.lastBalance.toNat
  /-- What the vault lost was booked, under the limit, on both accounts. -/
  metered : TokenLaws →
    (w.bank.tokenAmount r.vault : Int) - w'.bank.tokenAmount r.vault ≤
      authorizedOut (flowsOf r.limiterId es) ∧
    (w.bank.tokenAmount r.vault : Int) - w'.bank.tokenAmount r.vault ≤
      authorizedOut (flowsOf i.limiterId es)

/-! ## The end that three of them share -/

/-- What `settlePush` establishes: exactly the amount left, and both accounts booked it. -/
theorem settlePush_run {c : Controller} {ctx : PushAccounts} {vault mint : Pubkey}
    {action : AccountingAction} {amount postSyncBalance : UInt64} {i i' : Integration}
    {r r' : Reserve} {w w' : World}
    (h : settlePush c ctx vault mint action amount postSyncBalance i r w = .ok ((i', r'), w')) :
    ∃ es, FlowRun ctx.controller.pubkey ctx.integration.pubkey ctx.reserveA.pubkey w w' i i' r r'
        es ∧
      w'.bank = w.bank ∧ i'.state = i.state ∧ signedCalls es = [] ∧
      flowsOf i.limiterId es = [(.outflow false, amount)] ∧
      flowsOf r.limiterId es = [(.outflow false, amount)] ∧
      postSyncBalance.toNat = w'.bank.tokenAmount vault + amount.toNat ∧
      r.lastBalance.toNat = r'.lastBalance.toNat + amount.toNat := by
  simp only [settlePush, bind_ok, read_ok, ofOption_ok, rejectIf_ok, not_not,
    Integration.recordOutflow_ok, Reserve.recordOutflow_ok, pure_ok, Prod.mk.injEq,
    UInt64.checkedSub_eq_some] at h
  obtain ⟨_, _, ⟨rfl, rfl⟩, t, _, ht, delta, _, ⟨hdelta, rfl⟩, _, _, ⟨rfl, rfl⟩, _, _, ⟨hi, rfl⟩,
    _, _, ⟨hr, rfl⟩, _, _, hevent, _, _, hevent', ⟨hi', hr'⟩, rfl⟩ := h
  rw [hi'] at hi
  rw [hr'] at hr
  obtain ⟨rfl, -, ht⟩ := TokenAccount.fromAccountInfo_ok ht
  obtain ⟨-, rfl⟩ := emitEvent_ok hevent
  obtain ⟨-, rfl⟩ := emitEvent_ok hevent'
  have hbi := Integration.Booked.of_outflow hi
  have hbr := Reserve.Booked.of_outflow hr
  have hstate := Integration.updateRateLimitForOutflow_state hi
  have hbalance := hbr.balance
  rw [net_cons, net_nil, Flow.signed] at hbalance
  refine ⟨_, .of_settlement (.addLog (.addLog (.addLog (.addLog .refl)))) ?_ hbi hbr ?_ ?_ ?_, rfl,
    hstate, rfl, ?_, ?_, ?_, ?_⟩
  · refine .cons (.head _) (.cons (.tail _ (.head _)) (.cons ?_ (.singleton ?_)))
    · exact within_reserveEvent (.head _)
    · exact within_integrationEvent (.head _)
  · simp
  · simp
  · simp [AccountingDirection.signed, Flow.signed]
  · simp
  · simp
  · show postSyncBalance.toNat = _
    rw [hdelta]
    congr 1
    exact (Bank.tokenAmount_of_token? ht).symm
  · omega

/-- Sync, then invocations, then `settlePush`: all that the external transfer and the two
    bridges have to establish about balances. No law is needed, for the vault is read
    again at the end. -/
theorem settledPush_run {c : Controller} {ctx : PushAccounts} {mint : Pubkey} {t : TokenAccount}
    {action : AccountingAction} {amount : UInt64} {i i' : Integration} {state : IntegrationState}
    {r r' synced : Reserve} {w w₁ w₂ w' : World} {es₁ es₂ : List LogEntry}
    (ht : w.bank.token? r.vault = some t)
    (hsync : Reserve.SyncRun ctx.reserveA.pubkey t.amount w w₁ r synced es₁)
    (hcalls : FlowRun ctx.controller.pubkey ctx.integration.pubkey ctx.reserveA.pubkey w₁ w₂ i i
      synced synced es₂)
    (hflowi : flowsOf i.limiterId es₂ = []) (hflowr : flowsOf r.limiterId es₂ = [])
    (hmoves : MovesOnly r.vault es₂)
    (h : settlePush c ctx r.vault mint action amount synced.lastBalance { i with state := state }
      synced w₂ = .ok ((i', r'), w')) :
    ∃ es, FlowRun ctx.controller.pubkey ctx.integration.pubkey ctx.reserveA.pubkey w w' i i' r r'
        es ∧
      i'.state = state ∧ MovesOnly r.vault es ∧
      w'.bank.tokenAmount r.vault = r'.lastBalance.toNat ∧
      (w.bank.tokenAmount r.vault : Int) - w'.bank.tokenAmount r.vault ≤
        authorizedOut (flowsOf r.limiterId es) ∧
      (w.bank.tokenAmount r.vault : Int) - w'.bank.tokenAmount r.vault ≤
        authorizedOut (flowsOf i.limiterId es) := by
  obtain ⟨es₃, hsettle, -, hstate, hunsigned, hsi, hsr, hpost, hlast⟩ := settlePush_run h
  rw [Integration.limiterId_with_state] at hsi
  rw [hsync.booked.limiterId_eq] at hsr
  have hbefore : w.bank.tokenAmount r.vault = synced.lastBalance.toNat := by
    rw [hsync.lastBalance]
    exact Bank.tokenAmount_of_token? ht
  have hsynci : flowsOf i.limiterId es₁ = [] := hsync.flowsOf_eq_nil nofun
  refine ⟨es₁ ++ (es₂ ++ ([] ++ es₃)),
    (FlowRun.of_sync hsync).trans (hcalls.trans (FlowRun.of_state.trans hsettle)), hstate, ?_, ?_,
    ?_, ?_⟩
  · exact .append (.of_unsigned hsync.unsigned)
      (hmoves.append (.append (.of_unsigned rfl) (.of_unsigned hunsigned)))
  · omega
  · simp only [flowsOf_append, authorizedOut_append, hsync.unauthorized, hflowr, hsr, hbefore,
      authorizedOut_cons, flowsOf_nil, authorizedOut_nil, Flow.authorized]
    omega
  · simp only [flowsOf_append, authorizedOut_append, hsynci, hflowi, hsi, hbefore,
      authorizedOut_cons, flowsOf_nil, authorizedOut_nil, Flow.authorized]
    omega

/-! ## External transfer -/

omit [Chain] in
theorem PushSplTokenExternalAccounts.checkedFromAccounts_ok {config : IntegrationConfig}
    {accounts : List AccountMeta} {innerCtx : PushSplTokenExternalAccounts} {w w' : World}
    (h : checkedFromAccounts config accounts w = .ok (innerCtx, w')) :
    w = w' ∧ config.protocol = some .SplTokenExternal := by
  simp only [checkedFromAccounts, bind_ok, fromAccounts_ok, ofOption_ok, read_ok, rejectIf_ok,
    pure_ok, IntegrationConfig.splTokenExternal?_eq] at h
  obtain ⟨_, _, ⟨-, -, rfl⟩, _, _, ⟨rfl, rfl⟩, _, _, ⟨-, rfl⟩, _, _, ⟨-, rfl⟩, _, _, ⟨-, rfl⟩,
    _, _, ⟨-, rfl⟩, _, _, ⟨-, rfl⟩, _, _, ⟨-, rfl⟩, _, _, ⟨-, rfl⟩, -, rfl⟩ := h
  exact ⟨rfl, rfl⟩

/-- One transfer to somewhere else, between the sync and the settlement. -/
theorem processPushSplTokenExternal_run {tx : TxContext} {c : Controller} {p : Permission}
    {ctx : PushAccounts} {args : PushArgs} {i i' : Integration} {r r' : Reserve} {w w' : World}
    (hk : pdaOf r.seeds = some ctx.reserveA.pubkey)
    (h : processPushSplTokenExternal c p i r ctx args w = .ok ((i', r'), w')) :
    ∃ es, PushRun tx ctx args p w w' i i' r r' es := by
  simp only [processPushSplTokenExternal, bind_ok, ofOption_ok, rejectIf_ok, not_not, invoke_ok,
    Controller.transferTokens, invokeSigned_ok, PushArgs.splTokenExternal?_eq, and_assoc,
    exists_and_left, exists_eq_left', exists_const] at h
  obtain ⟨amount, rfl, -, hallowed, innerCtx, _, haccounts, hvault, -, synced, _, hsync, _,
    ⟨_, hcreate, rfl⟩, mint, _, hmint, _, ⟨_, -, _, htransfer, rfl⟩, h⟩ := h
  obtain ⟨rfl, hconfig⟩ := PushSplTokenExternalAccounts.checkedFromAccounts_ok haccounts
  obtain ⟨-, -, t, ht, -, hsynced⟩ := Reserve.syncBalance_ok hk hsync
  obtain ⟨es, hsync⟩ := hsynced.run
  obtain rfl := readOnly_mint hmint
  rw [hvault] at htransfer h
  obtain ⟨es, hflow, hstate, hmoves, htracked, hmetered⟩ := settledPush_run ht hsync
    ((FlowRun.of_invoke hcreate).trans (FlowRun.of_invokeSigned htransfer)) rfl rfl
    (.append (.of_unsigned rfl) (.of_signed rfl)) h
  refine ⟨es, hflow, ?_, hconfig, hallowed, hmoves, fun _ => htracked, fun _ => hmetered⟩
  rw [hstate]
  exact .splTokenExternal

/-! ## CCTP bridge -/

omit [Chain] in
theorem PushCctpBridgeAccounts.checkedFromAccounts_ok {config : IntegrationConfig}
    {accounts : List AccountMeta} {innerCtx : PushCctpBridgeAccounts} {w w' : World}
    (h : checkedFromAccounts config accounts w = .ok (innerCtx, w')) :
    w = w' ∧ config.protocol = some .CctpBridge := by
  simp only [checkedFromAccounts, bind_ok, fromAccounts_ok, ofOption_ok, rejectIf_ok, pure_ok,
    IntegrationConfig.cctpBridge?_eq] at h
  obtain ⟨_, _, ⟨-, -, rfl⟩, _, _, ⟨rfl, rfl⟩, _, _, ⟨-, rfl⟩, _, _, ⟨-, rfl⟩, _, _, ⟨-, rfl⟩,
    -, rfl⟩ := h
  exact ⟨rfl, rfl⟩

/-- One burn, likewise. -/
theorem processPushCctpBridge_run {tx : TxContext} {c : Controller} {p : Permission}
    {ctx : PushAccounts} {args : PushArgs} {i i' : Integration} {r r' : Reserve} {w w' : World}
    (hk : pdaOf r.seeds = some ctx.reserveA.pubkey)
    (h : processPushCctpBridge c p i r ctx args w = .ok ((i', r'), w')) :
    ∃ es, PushRun tx ctx args p w w' i i' r r' es := by
  simp only [processPushCctpBridge, bind_ok, ofOption_ok, rejectIf_ok, not_not, readData_ok,
    invokeSigned_ok, PushArgs.cctpBridge?_eq, and_assoc, exists_and_left, exists_eq_left',
    exists_const] at h
  obtain ⟨amount, rfl, -, hallowed, innerCtx, _, haccounts, config, -, -, _, -, -, -, _, -, -,
    hvault, -, synced, _, hsync, _, ⟨_, -, _, hburn, rfl⟩, h⟩ := h
  obtain ⟨rfl, hconfig⟩ := PushCctpBridgeAccounts.checkedFromAccounts_ok haccounts
  obtain ⟨-, -, t, ht, -, hsynced⟩ := Reserve.syncBalance_ok hk hsync
  obtain ⟨es, hsync⟩ := hsynced.run
  rw [hvault] at hburn h
  obtain ⟨es, hflow, hstate, hmoves, htracked, hmetered⟩ := settledPush_run ht hsync
    (FlowRun.of_invokeSigned hburn) rfl rfl (.of_signed rfl) h
  refine ⟨es, hflow, ?_, hconfig, ?_, hmoves, fun _ => htracked, fun _ => hmetered⟩
  · rw [hstate]
    exact .cctpBridge
  · exact or_iff_not_and_not.mpr hallowed

/-! ## LayerZero bridge -/

omit [Chain] in
theorem PushLzBridgeAccounts.checkedFromAccounts_ok {config : IntegrationConfig}
    {accounts : List AccountMeta} {innerCtx : PushLzBridgeAccounts} {w w' : World}
    (h : checkedFromAccounts config accounts w = .ok (innerCtx, w')) :
    w = w' ∧ bind accounts = some innerCtx := by
  simp only [checkedFromAccounts, bind_ok, fromAccounts_ok, ofOption_ok, rejectIf_ok,
    pure_ok] at h
  obtain ⟨_, _, ⟨-, hbind, rfl⟩, _, _, ⟨-, rfl⟩, _, _, ⟨-, rfl⟩, rfl, rfl⟩ := h
  exact ⟨rfl, hbind⟩

/-- One transfer to the caller; the flag is set, so that nothing else is pushed before the Reset. -/
theorem processPushLzBridge_run {tx : TxContext} {c : Controller} {p : Permission}
    {ctx : PushAccounts} {args : PushArgs} {i i' : Integration} {r r' : Reserve} {w w' : World}
    (hk : pdaOf r.seeds = some ctx.reserveA.pubkey)
    (h : processPushLzBridge tx c p i r ctx args w = .ok ((i', r'), w')) :
    ∃ es, PushRun tx ctx args p w w' i i' r r' es := by
  simp only [processPushLzBridge, bind_ok, ofOption_ok, ofExcept_ok, rejectIf_ok, not_not,
    invoke_ok, Controller.transferTokens, invokeSigned_ok, PushArgs.lzBridge?_eq,
    IntegrationConfig.lzBridge?_eq, IntegrationState.lzBridge?_eq, Bool.not_eq_true, and_assoc,
    exists_and_left, exists_eq_left', exists_const] at h
  obtain ⟨amount, rfl, -, hallowed, innerCtx, _, haccounts, config, hconfig, state, hstate,
    hinFlight, hvault, -, _, hsend, synced, _, hsync, _, ⟨_, hcreate, rfl⟩, mint, _, hmint, _,
    ⟨_, -, _, htransfer, rfl⟩, h⟩ := h
  obtain ⟨rfl, hbind⟩ := PushLzBridgeAccounts.checkedFromAccounts_ok haccounts
  obtain ⟨-, -, t, ht, -, hsynced⟩ := Reserve.syncBalance_ok hk hsync
  obtain ⟨es, hsync⟩ := hsynced.run
  obtain rfl := readOnly_mint hmint
  rw [hvault] at htransfer h
  obtain ⟨es, hflow, hstate', hmoves, htracked, hmetered⟩ := settledPush_run ht hsync
    ((FlowRun.of_invoke hcreate).trans (FlowRun.of_invokeSigned htransfer)) rfl rfl
    (.append (.of_unsigned rfl) (.of_signed rfl)) h
  refine ⟨es, hflow, ?_, ?_, ?_, hmoves, fun _ => htracked, fun _ => hmetered⟩
  · rw [hstate']
    exact .lzBridge hbind hconfig hstate hinFlight hsend
  · rw [hconfig]
    rfl
  · exact or_iff_not_and_not.mpr hallowed

/-! ## Lending -/

/-- Drift is told the amount, and what left is measured at the vault, after a refresh of the
    market that may have moved something too. -/
theorem processPushDrift_run {tx : TxContext} {c : Controller} {p : Permission}
    {ctx : PushAccounts} {args : PushArgs} {i i' : Integration} {r r' : Reserve} {w w' : World}
    (hk : pdaOf r.seeds = some ctx.reserveA.pubkey)
    (h : processPushDrift c p i r ctx args w = .ok ((i', r'), w')) :
    ∃ es, PushRun tx ctx args p w w' i i' r r' es ∧
      TellsIf (DepositsExactly w c ctx args) w ctx.integration.pubkey i i' es := by
  simp only [processPushDrift, bind_ok, ofOption_ok, ofExcept_ok, rejectIf_ok, read_ok, not_not,
    invoke_ok, invokeSigned_ok, readData_ok, pure_ok, Integration.recordOutflow_ok,
    Reserve.recordOutflow_ok, UInt64.checkedSub_eq_some, Prod.mk.injEq, and_assoc,
    exists_and_left, exists_eq_left', exists_const] at h
  obtain ⟨⟨spotMarketIndex, amount⟩, hargs, -, hallowed, innerCtx, _, haccounts, synced, w₁, hsync,
    ⟨spotMarket, oracle⟩, _, hfind, _, ⟨bank₁, hupdate, rfl⟩, h⟩ := h
  obtain ⟨found, w₂, hreport, tb, _, hbefore, mb, _, hmarketBefore, _,
    ⟨signer, hsigner, bank, hdeposit, rfl⟩, ta, _, hafter, delta, hdelta, -, h⟩ := h
  obtain ⟨ma, _, hmarketAfter, value, hvalue, _, _, hevent, _, _, hevent', _, -, hkeel, market,
    hmarket, balance, _, hbalance, deposited, hset, h⟩ := h
  obtain ⟨i₁, hi, r₁, hr, hi', hr', rfl⟩ := h
  rw [hi'] at hi
  rw [hr'] at hr
  rw [PushArgs.drift?_eq] at hargs
  subst hargs
  obtain ⟨rfl, hbind, hvaultAddress, config, hconfig, hindex⟩ :=
    PushDriftAccounts.checkedFromAccounts_ok haccounts
  obtain ⟨hvault, -, t, ht, -, hsynced⟩ := Reserve.syncBalance_ok hk hsync
  obtain ⟨es₁, hsync⟩ := hsynced.run
  obtain rfl := readOnly_findSpotMarketAndOracle hfind
  obtain ⟨es₂, hreport, state, market₁, hstate, hmarket₁, hfound, htells⟩ :=
    syncDriftBalance_run hreport
  obtain ⟨rfl, -, htb⟩ := TokenAccount.fromAccountInfo_ok hbefore
  obtain ⟨rfl, -, hmb⟩ := TokenAccount.fromAccountInfo_ok hmarketBefore
  obtain ⟨rfl, -, hta⟩ := TokenAccount.fromAccountInfo_ok hafter
  obtain ⟨rfl, -, hma⟩ := TokenAccount.fromAccountInfo_ok hmarketAfter
  obtain ⟨-, rfl⟩ := emitEvent_ok hevent
  obtain ⟨-, rfl⟩ := emitEvent_ok hevent'
  have hsaved : driftValue spotMarket.pubkey innerCtx.user.pubkey _ = .ok (balance, _) :=
    bind_ok.mpr ⟨market, _, readData_ok.mpr ⟨hkeel, hmarket, rfl⟩, hbalance⟩
  obtain rfl := readOnly_getDriftLendingBalance hbalance
  obtain ⟨state', hstate', rfl⟩ := Integration.setDriftBalance_ok hset
  rw [hstate] at hstate'
  obtain rfl := IntegrationState.Drift.inj hstate'
  have hi'state := Integration.updateRateLimitForOutflow_state hi
  have htaVault := hta
  rw [hvault] at htb hta
  have hclock : w₂.clock = w.clock := hreport.grows.clock.trans hsync.grows.clock
  have hdir : AccountingDirection.signed .Debit delta = Flow.signed (.outflow false, delta) := rfl
  simp only [World.addLog_clock, World.setBank_clock, hclock] at hi hr
  obtain ⟨⟨es, hflow, hmoves, houtr, houti, hes⟩, hlast, hamounts⟩ := lending_run .refl ht hsync
    (.of_unsigned rfl hupdate) hreport hdeposit (congrArg some hvault) hdir (.of_outflow hi)
    (.of_outflow hr)
  have hbank : bank.tokenAmount r.vault = ta.amount.toNat := Bank.tokenAmount_of_token? hta
  have hbefore : w₂.bank.tokenAmount r.vault = tb.amount.toNat := Bank.tokenAmount_of_token? htb
  simp only [Flow.signed] at hlast
  refine ⟨es, ⟨hflow, ?_, ?_, hallowed, hmoves, ?_, ?_⟩, ?_⟩
  · rw [hi'state]
    exact .drift hstate
  · rw [hconfig]
    rfl
  · intro laws
    obtain ⟨-, hstill⟩ := hamounts laws
    show bank.tokenAmount r.vault = _
    omega
  · intro laws
    obtain ⟨hstart, hstill⟩ := hamounts laws
    show (_ : Int) - bank.tokenAmount r.vault ≤ _ ∧ (_ : Int) - bank.tokenAmount r.vault ≤ _
    simp only [houtr, houti, Flow.authorized]
    omega
  · -- the deposit's event tells what the market's vault gained
    intro marketMint laws hmarkets hexact
    rw [hsync.grows.clock, hsync.bank] at hupdate
    rw [hclock, hreport.bank] at hdeposit
    have hw₂ : w₂.keel = w.keel := hreport.grows.keel.trans hsync.grows.keel
    have hchanged : (balance.toNat : Int) - found.toNat =
        bank.tokenAmount innerCtx.spotMarketVault.pubkey -
          bank₁.tokenAmount innerCtx.spotMarketVault.pubkey :=
      hexact innerCtx spotMarketIndex amount signer spotMarket oracle rfl hbind hsigner
        (sees_findSpotMarketAndOracle hfind w (Prod.ext hsync.grows.keel.symm hsync.bank.symm))
        bank₁ bank found balance hupdate hdeposit (driftValue_setBank hfound hsync.grows.keel)
        (driftValue_setBank hsaved hw₂)
    have hgained : bank.tokenAmount innerCtx.spotMarketVault.pubkey = ma.amount.toNat :=
      Bank.tokenAmount_of_token? hma
    rw [hreport.bank] at hmb
    have hheld : bank₁.tokenAmount innerCtx.spotMarketVault.pubkey = mb.amount.toNat :=
      Bank.tokenAmount_of_token? hmb
    refine .of_drift laws hmarkets hconfig hindex hupdate hdeposit
      (findSpotMarketAndOracle_ok hfind) hvaultAddress hmarket₁ hma
      (laws.driftDeposit_mint hdeposit htaVault hma) hstate hi'state htells hes ?_
    show (found.toNat : Int) + value.toNat = balance.toNat
    omega

/-- What is booked is what left the vault; that the value of the position rose is only told. -/
theorem processPushKamino_run {tx : TxContext} {c : Controller} {p : Permission}
    {ctx : PushAccounts} {args : PushArgs} {i i' : Integration} {r r' : Reserve} {w w' : World}
    (hk : pdaOf r.seeds = some ctx.reserveA.pubkey)
    (h : processPushKamino c p i r ctx args w = .ok ((i', r'), w')) :
    ∃ es, PushRun tx ctx args p w w' i i' r r' es ∧
      TellsIf True w ctx.integration.pubkey i i' es := by
  simp only [processPushKamino, bind_ok, ofOption_ok, ofExcept_ok, rejectIf_ok, read_ok, not_not,
    invokeSigned_ok, pure_ok, Integration.recordOutflow_ok, Reserve.recordOutflow_ok,
    PushArgs.kamino?_eq, Prod.mk.injEq, and_assoc, exists_and_left, exists_eq_left',
    exists_const] at h
  obtain ⟨amount, rfl, -, hallowed, innerCtx, _, haccounts, -, _, w₀, hreopen, synced, w₁, hsync,
    found, w₂, hreport, tb, _, hbefore, h⟩ := h
  obtain ⟨valueBefore, _, hvalue, _, ⟨_, -, bank, hdeposit, rfl⟩, ta, _, hafter, valueAfter, _,
    hvalue', _, _, hevent, _, _, hevent', deposited, hset, h⟩ := h
  obtain ⟨i₁, hi, r₁, hr, hi', hr', rfl⟩ := h
  rw [hi'] at hi
  rw [hr'] at hr
  obtain ⟨rfl, ⟨config, hconfig, hmint⟩, hvault⟩ :=
    PushPullKaminoAccounts.checkedFromAccounts_ok haccounts
  obtain ⟨es₀, hreopen⟩ := setsUp_reopenObligation hreopen
  obtain ⟨-, -, t, ht, -, hsynced⟩ := Reserve.syncBalance_ok hk hsync
  obtain ⟨es₁, hsync⟩ := hsynced.run
  obtain ⟨es₂, hreport, state, hstate, hfound, htells⟩ := syncKaminoLiquidityValue_run hreport
  obtain ⟨rfl, -, htb⟩ := TokenAccount.fromAccountInfo_ok hbefore
  have hvalueBefore := hvalue
  obtain rfl := readOnly_getKaminoLendingBalance hvalue
  obtain ⟨rfl, -, hta⟩ := TokenAccount.fromAccountInfo_ok hafter
  have hvalueAfter := hvalue'
  obtain rfl := readOnly_getKaminoLendingBalance hvalue'
  obtain ⟨-, rfl⟩ := emitEvent_ok hevent
  obtain ⟨-, rfl⟩ := emitEvent_ok hevent'
  obtain ⟨state', hstate', rfl⟩ := Integration.setKaminoBalance_ok hset
  rw [hstate] at hstate'
  obtain rfl := IntegrationState.Kamino.inj hstate'
  have hi'state := Integration.updateRateLimitForOutflow_state hi
  rw [hvault] at htb hta
  have hdir : AccountingDirection.signed .Debit (tb.amount.saturatingSub ta.amount) =
    Flow.signed (.outflow false, tb.amount.saturatingSub ta.amount) := rfl
  obtain ⟨⟨es, hflow, hmoves, houtr, houti, hes⟩, hlast, hamounts⟩ := lending_run hreopen ht hsync
    .refl hreport hdeposit (congrArg some hvault) hdir (.of_outflow hi) (.of_outflow hr)
  have hbank : bank.tokenAmount r.vault = ta.amount.toNat := Bank.tokenAmount_of_token? hta
  have hbefore : w₂.bank.tokenAmount r.vault = tb.amount.toNat := Bank.tokenAmount_of_token? htb
  simp only [Flow.signed, UInt64.toNat_saturatingSub] at hlast
  refine ⟨es, ⟨hflow, ?_, ?_, hallowed, hmoves, ?_, ?_⟩, ?_⟩
  · rw [hi'state]
    exact .kamino hstate
  · rw [hconfig]
    rfl
  · intro laws
    obtain ⟨-, hstill⟩ := hamounts laws
    have hdown : bank.tokenAmount innerCtx.reserveVault.pubkey ≤
      w₂.bank.tokenAmount innerCtx.reserveVault.pubkey := laws.kaminoDeposit hdeposit
    rw [hvault] at hdown
    show bank.tokenAmount r.vault = _
    omega
  · intro laws
    obtain ⟨hstart, hstill⟩ := hamounts laws
    show (_ : Int) - bank.tokenAmount r.vault ≤ _ ∧ (_ : Int) - bank.tokenAmount r.vault ≤ _
    simp only [houtr, houti, Flow.authorized, UInt64.toNat_saturatingSub]
    omega
  · -- the value before the deposit is the one that the sync found
    intro marketMint laws _ _
    have hsame := sees_getKaminoLendingBalance hfound w₂
      (Prod.ext hreport.grows.keel hreport.bank)
    rw [hvalueBefore] at hsame
    obtain rfl := (Prod.mk.inj (Except.ok.inj hsame)).1
    have hgrew := UInt64.le_iff_toNat_le.mp (laws.kaminoDeposit_value hdeposit hvalueBefore
      (sees_getKaminoLendingBalance hvalueAfter (w₂.setBank bank) rfl))
    rw [hmint] at htells hes
    refine .of_settlement (congrArg (IntegrationConfig.positionMint marketMint) hconfig)
      (congrArg IntegrationState.lending? hstate) (congrArg IntegrationState.lending? hi'state)
      htells hes ?_
    show (valueBefore.toNat : Int) + (valueAfter.saturatingSub valueBefore).toNat =
      valueAfter.toNat
    rw [UInt64.toNat_saturatingSub]
    omega

/-- **Every push.** -/
theorem processPushProtocol_run {tx : TxContext} {c : Controller} {p : Permission}
    {ctx : PushAccounts} {args : PushArgs} {i i' : Integration} {r r' : Reserve} {w w' : World}
    (hk : pdaOf r.seeds = some ctx.reserveA.pubkey)
    (h : processPushProtocol tx c p i r ctx args w = .ok ((i', r'), w')) :
    ∃ es, PushRun tx ctx args p w w' i i' r r' es ∧
      TellsIf (DepositsExactly w c ctx args) w ctx.integration.pubkey i i' es := by
  cases args with
  | SplTokenExternal =>
    obtain ⟨es, hrun⟩ := processPushSplTokenExternal_run hk h
    exact ⟨es, hrun, fun _ _ _ _ => .of_protocol hrun.config nofun nofun⟩
  | CctpBridge =>
    obtain ⟨es, hrun⟩ := processPushCctpBridge_run hk h
    exact ⟨es, hrun, fun _ _ _ _ => .of_protocol hrun.config nofun nofun⟩
  | LzBridge =>
    obtain ⟨es, hrun⟩ := processPushLzBridge_run hk h
    exact ⟨es, hrun, fun _ _ _ _ => .of_protocol hrun.config nofun nofun⟩
  | Drift => exact processPushDrift_run hk h
  | Kamino =>
    obtain ⟨es, hrun, htells⟩ := processPushKamino_run hk h
    exact ⟨es, hrun, fun marketMint laws hmarkets _ => htells marketMint laws hmarkets trivial⟩

end AlmController
