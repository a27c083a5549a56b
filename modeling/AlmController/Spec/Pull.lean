import AlmController.Spec.Lending

/-!
# Pulls

What the two lending protocols' own parts of Pull did, when they succeeded. A pull
books an inflow, so there is nothing to meter; the recorded balance still follows the
vault, because a withdrawal only raises it. What klend or Drift takes for the tokens is
not said here: see `processPull_redeems` for the shares that a Kamino Pull gives up.
-/

namespace AlmController

open Prog

variable [Chain]

/-- How a pull may change the state of its Integration. -/
inductive PulledState (i : Integration) : PullArgs → IntegrationState → Prop
  | drift {spotMarketIndex : UInt16} {amount balance : UInt64} {state : LendingState} :
      i.state = .Drift state →
      PulledState i (.Drift spotMarketIndex amount) (.Drift { state with balance := balance })
  | kamino {amount balance : UInt64} {state : LendingState} :
      i.state = .Kamino state →
      PulledState i (.Kamino amount) (.Kamino { state with balance := balance })

/-- **What every pull establishes.** -/
structure PullRun (ctx : PushAccounts) (args : PullArgs) (p : Permission) (w w' : World)
    (i i' : Integration) (r r' : Reserve) (es : List LogEntry) : Prop where
  flow : FlowRun ctx.controller.pubkey ctx.integration.pubkey ctx.reserveA.pubkey w w' i i' r r' es
  state : PulledState i args i'.state
  config : i.config.protocol = some args.protocol
  allowed : p.mayPull i
  movesOnly : MovesOnly r.vault es
  /-- The recorded balance is the vault's. -/
  tracked : TokenLaws → w'.bank.tokenAmount r.vault = r'.lastBalance.toNat

variable {c : Controller} {p : Permission} {ctx : PushAccounts} {args : PullArgs}
  {i i' : Integration} {r r' : Reserve} {w w' : World}

theorem processPullKamino_run (hk : pdaOf r.seeds = some ctx.reserveA.pubkey)
    (h : processPullKamino c p i r ctx args w = .ok ((i', r'), w')) :
    ∃ es, PullRun ctx args p w w' i i' r r' es ∧
      TellsIf True w ctx.integration.pubkey i i' es := by
  simp only [processPullKamino, bind_ok, ofOption_ok, ofExcept_ok, rejectIf_ok, read_ok, not_not,
    readData_ok, invokeSigned_ok, pure_ok, Integration.recordInflow_ok, Reserve.recordInflow_ok,
    PullArgs.kamino?_eq, Prod.mk.injEq, and_assoc, exists_and_left, exists_eq_left',
    exists_const] at h
  obtain ⟨amount, rfl, -, hallowed, innerCtx, _, haccounts, -, synced, w₁, hsync, found, w₂,
    hreport, -, _, -, collateral, -, tb, _, hbefore, h⟩ := h
  obtain ⟨_, ⟨_, -, bank, hwithdraw, rfl⟩, ta, _, hafter, valueAfter, _, hvalue, _, _, hevent, _, _,
    hevent', withdrawn, hset, i₁, hi, r₁, hr, hi', hr', rfl⟩ := h
  rw [hi'] at hi
  rw [hr'] at hr
  obtain ⟨rfl, ⟨config, hconfig, hmint⟩, hvault⟩ :=
    PushPullKaminoAccounts.checkedFromAccounts_ok haccounts
  obtain ⟨-, -, t, ht, -, hsynced⟩ := Reserve.syncBalance_ok hk hsync
  obtain ⟨es₁, hsync⟩ := hsynced.run
  obtain ⟨es₂, hreport, state, hstate, hfound, htells⟩ := syncKaminoLiquidityValue_run hreport
  obtain ⟨rfl, -, htb⟩ := TokenAccount.fromAccountInfo_ok hbefore
  obtain ⟨rfl, -, hta⟩ := TokenAccount.fromAccountInfo_ok hafter
  have hvalueAfter := hvalue
  obtain rfl := readOnly_getKaminoLendingBalance hvalue
  obtain ⟨-, rfl⟩ := emitEvent_ok hevent
  obtain ⟨-, rfl⟩ := emitEvent_ok hevent'
  obtain ⟨state', hstate', rfl⟩ := Integration.setKaminoBalance_ok hset
  rw [hstate] at hstate'
  obtain rfl := IntegrationState.Kamino.inj hstate'
  have hi'state := Integration.updateRateLimitForInflow_state hi
  rw [hvault] at htb hta
  have hdir : AccountingDirection.signed .Credit (ta.amount.saturatingSub tb.amount) =
    Flow.signed (.inflow, ta.amount.saturatingSub tb.amount) := rfl
  obtain ⟨⟨es, hflow, hmoves, -, -, hes⟩, hlast, hamounts⟩ := lending_run .refl ht hsync .refl
    hreport hwithdraw (congrArg some hvault) hdir (.of_inflow hi) (.of_inflow hr)
  have hbank : bank.tokenAmount r.vault = ta.amount.toNat := Bank.tokenAmount_of_token? hta
  have hbefore : w₂.bank.tokenAmount r.vault = tb.amount.toNat := Bank.tokenAmount_of_token? htb
  simp only [Flow.signed, UInt64.toNat_saturatingSub] at hlast
  refine ⟨es, ⟨hflow, ?_, ?_, or_iff_not_and_not.mpr hallowed, hmoves, ?_⟩, ?_⟩
  · rw [hi'state]
    exact .kamino hstate
  · rw [hconfig]
    rfl
  · intro laws
    obtain ⟨-, hstill⟩ := hamounts laws
    have hup : w₂.bank.tokenAmount innerCtx.reserveVault.pubkey ≤
      bank.tokenAmount innerCtx.reserveVault.pubkey := laws.kaminoWithdraw hwithdraw
    rw [hvault] at hup
    show bank.tokenAmount r.vault = _
    omega
  · intro marketMint laws _ _
    have hvalueBefore := sees_getKaminoLendingBalance hfound w₂
      (Prod.ext hreport.grows.keel hreport.bank)
    have hshrank := UInt64.le_iff_toNat_le.mp (laws.kaminoWithdraw_value hwithdraw hvalueBefore
      (sees_getKaminoLendingBalance hvalueAfter (w₂.setBank bank) rfl))
    rw [hmint] at htells hes
    refine .of_settlement (congrArg (IntegrationConfig.positionMint marketMint) hconfig)
      (congrArg IntegrationState.lending? hstate) (congrArg IntegrationState.lending? hi'state)
      htells hes ?_
    show (found.toNat : Int) + -(found.saturatingSub valueAfter).toNat = valueAfter.toNat
    rw [UInt64.toNat_saturatingSub]
    omega

theorem processPullDrift_run (hk : pdaOf r.seeds = some ctx.reserveA.pubkey)
    (h : processPullDrift c p i r ctx args w = .ok ((i', r'), w')) :
    ∃ es, PullRun ctx args p w w' i i' r r' es ∧
      TellsIf (WithdrawsExactly w c ctx args) w ctx.integration.pubkey i i' es := by
  simp only [processPullDrift, bind_ok, ofOption_ok, ofExcept_ok, rejectIf_ok, read_ok,
    invoke_ok, invokeSigned_ok, readData_ok, pure_ok, Integration.recordInflow_ok,
    Reserve.recordInflow_ok, Prod.mk.injEq, and_assoc, exists_and_left, exists_eq_left',
    exists_const] at h
  obtain ⟨⟨spotMarketIndex, amount⟩, hargs, -, hallowed, innerCtx, _, haccounts, synced, w₁, hsync,
    ⟨spotMarket, oracle⟩, _, hfind, _, ⟨bank₁, hupdate, rfl⟩, found, w₂, hreport, h⟩ := h
  obtain ⟨mb, _, hmarketBefore, _, ⟨signer, hsigner, bank, hwithdraw, rfl⟩, ta, _, hafter, ma, _,
    hmarketAfter, _, _, hevent, _, _, hevent', h⟩ := h
  obtain ⟨_, -, hkeel, market, hmarket, balance, _, hbalance, withdrawn, hset, i₁, hi, r₁, hr, hi',
    hr', rfl⟩ := h
  rw [hi'] at hi
  rw [hr'] at hr
  rw [PullArgs.drift?_eq] at hargs
  subst hargs
  obtain ⟨rfl, hbind, hvaultAddress, config, hconfig, hindex⟩ :=
    PullDriftAccounts.checkedFromAccounts_ok haccounts
  obtain ⟨hvault, -, t, ht, -, hsynced⟩ := Reserve.syncBalance_ok hk hsync
  obtain ⟨es₁, hsync⟩ := hsynced.run
  obtain rfl := readOnly_findSpotMarketAndOracle hfind
  obtain ⟨es₂, hreport, state, market₁, hstate, hmarket₁, hfound, htells⟩ :=
    syncDriftBalance_run hreport
  obtain ⟨rfl, -, hmb⟩ := TokenAccount.fromAccountInfo_ok hmarketBefore
  obtain ⟨rfl, -, hta⟩ := TokenAccount.fromAccountInfo_ok hafter
  obtain ⟨rfl, -, hma⟩ := TokenAccount.fromAccountInfo_ok hmarketAfter
  obtain ⟨-, rfl⟩ := emitEvent_ok hevent
  obtain ⟨-, rfl⟩ := emitEvent_ok hevent'
  have hsaved : driftValue spotMarket.pubkey innerCtx.user.pubkey _ = .ok (balance, _) :=
    bind_ok.mpr ⟨market, _, readData_ok.mpr ⟨hkeel, hmarket, rfl⟩, hbalance⟩
  obtain rfl := readOnly_getDriftLendingBalance hbalance
  obtain ⟨state', hstate', rfl⟩ := Integration.setDriftBalance_ok hset
  rw [hstate] at hstate'
  obtain rfl := IntegrationState.Drift.inj hstate'
  have hi'state := Integration.updateRateLimitForInflow_state hi
  have htaVault := hta
  rw [hvault] at hta
  have hclock : w₂.clock = w.clock := hreport.grows.clock.trans hsync.grows.clock
  have hdir : AccountingDirection.signed .Credit (ta.amount.saturatingSub synced.lastBalance) =
    Flow.signed (.inflow, ta.amount.saturatingSub synced.lastBalance) := rfl
  simp only [World.addLog_clock, World.setBank_clock, hclock] at hi hr
  obtain ⟨⟨es, hflow, hmoves, -, -, hes⟩, hlast, hamounts⟩ := lending_run .refl ht hsync
    (.of_unsigned rfl hupdate) hreport hwithdraw (congrArg some hvault) hdir (.of_inflow hi)
    (.of_inflow hr)
  have hbank : bank.tokenAmount r.vault = ta.amount.toNat := Bank.tokenAmount_of_token? hta
  simp only [Flow.signed, UInt64.toNat_saturatingSub, hsync.lastBalance] at hlast
  refine ⟨es, ⟨hflow, ?_, ?_, or_iff_not_and_not.mpr hallowed, hmoves, ?_⟩, ?_⟩
  · rw [hi'state]
    exact .drift hstate
  · rw [hconfig]
    rfl
  · intro laws
    obtain ⟨-, hstill⟩ := hamounts laws
    have hup : w₂.bank.tokenAmount innerCtx.reserveVault.pubkey ≤
      bank.tokenAmount innerCtx.reserveVault.pubkey := laws.driftWithdraw hwithdraw
    rw [hvault] at hup
    show bank.tokenAmount r.vault = _
    omega
  · -- the withdrawal's event tells what the market's vault lost
    intro marketMint laws hmarkets hexact
    rw [hsync.grows.clock, hsync.bank] at hupdate
    have hshrank := laws.driftWithdraw_value hwithdraw (findSpotMarketAndOracle_ok hfind)
      (sees_driftValue hfound w₂ (Prod.ext hreport.grows.keel hreport.bank))
      (sees_driftValue hsaved (w₂.setBank bank) rfl)
    have hshrank := UInt64.le_iff_toNat_le.mp hshrank
    rw [hclock, hreport.bank] at hwithdraw
    have hw₂ : w₂.keel = w.keel := hreport.grows.keel.trans hsync.grows.keel
    have hchanged : (balance.toNat : Int) - found.toNat =
        bank.tokenAmount innerCtx.spotMarketVault.pubkey -
          bank₁.tokenAmount innerCtx.spotMarketVault.pubkey :=
      hexact innerCtx spotMarketIndex amount signer spotMarket oracle rfl hbind hsigner
        (sees_findSpotMarketAndOracle hfind w (Prod.ext hsync.grows.keel.symm hsync.bank.symm))
        bank₁ bank found balance hupdate hwithdraw (driftValue_setBank hfound hsync.grows.keel)
        (driftValue_setBank hsaved hw₂)
    have hleft : bank.tokenAmount innerCtx.spotMarketVault.pubkey = ma.amount.toNat :=
      Bank.tokenAmount_of_token? hma
    rw [hreport.bank] at hmb
    have hheld : bank₁.tokenAmount innerCtx.spotMarketVault.pubkey = mb.amount.toNat :=
      Bank.tokenAmount_of_token? hmb
    refine .of_drift laws hmarkets hconfig hindex hupdate hwithdraw
      (findSpotMarketAndOracle_ok hfind) hvaultAddress hmarket₁ hma
      (laws.driftWithdraw_mint hwithdraw htaVault hma) hstate hi'state htells hes ?_
    show (found.toNat : Int) + -(mb.amount.saturatingSub ma.amount).toNat = balance.toNat
    rw [UInt64.toNat_saturatingSub]
    omega

/-- **Every pull.** -/
theorem processPullProtocol_run (hk : pdaOf r.seeds = some ctx.reserveA.pubkey)
    (h : processPullProtocol c p i r ctx args w = .ok ((i', r'), w')) :
    ∃ es, PullRun ctx args p w w' i i' r r' es ∧
      TellsIf (WithdrawsExactly w c ctx args) w ctx.integration.pubkey i i' es := by
  cases args with
  | SplTokenExternal => exact absurd h (by simp [processPullProtocol, fail_ok])
  | CctpBridge => exact absurd h (by simp [processPullProtocol, fail_ok])
  | LzBridge => exact absurd h (by simp [processPullProtocol, fail_ok])
  | Kamino =>
    obtain ⟨es, hrun, htells⟩ := processPullKamino_run hk h
    exact ⟨es, hrun, fun marketMint laws hmarkets _ => htells marketMint laws hmarkets trivial⟩
  | Drift => exact processPullDrift_run hk h

end AlmController
