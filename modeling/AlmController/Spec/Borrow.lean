import AlmController.Spec.Access
import AlmController.Spec.Introspection

/-!
# Borrow

What a successful AtomicSwapBorrow established. It syncs both Reserves, lends tokens of
the first one, books them as an outflow, and locks the Controller; the transaction
around it ends in the Repay of the same swap.

Two of the four accounts it saves are Reserves, and they are different ones when their
mints are. What is said about the flows of each assumes that.

`BorrowParties` is who was involved, `BorrowRun` what the log and the vaults say of the run, and
`BorrowCharges` how the accounts that were saved came about. Only the second needs an argument: a
sync moves no token, so what the two vaults held at the start is what was read before the transfer,
and what Repay will compare with.
-/

namespace AlmController

open Prog

variable [Chain]

/-- Everyone involved in a Borrow: active, in their places, and signed for. -/
structure BorrowParties (ctx : AtomicSwapBorrow) (w : World) (c : Controller) (p : Permission)
    (i : Integration) (rA rB : Reserve) : Prop where
  signer : ctx.authority.isSigner = true
  controller : c.At w ctx.controller.pubkey ctx.controllerAuthority.pubkey
  controllerActive : c.isActive
  permission : p.At w ctx.controller.pubkey ctx.permission.pubkey ctx.authority.pubkey
  allowed : p.mayExecuteSwap
  integration : i.At w ctx.controller.pubkey ctx.integration.pubkey
  integrationActive : i.status = .Active
  reserveA : rA.At w ctx.controller.pubkey ctx.reserveA.pubkey
  reserveAActive : rA.status = .Active
  vaultA : rA.vault = ctx.vaultA.pubkey
  reserveB : rB.At w ctx.controller.pubkey ctx.reserveB.pubkey
  reserveBActive : rB.status = .Active
  vaultB : rB.vault = ctx.vaultB.pubkey

/-- **What a Borrow establishes.** -/
structure BorrowRun (tx : TxContext) (ctx : AtomicSwapBorrow) (amount : UInt64) (w w₁ : World)
    (i i' : Integration) (cfg : AtomicSwapConfig) (idle lent : AtomicSwapState)
    (rA rA' rB rB' : Reserve) (es : List LogEntry) : Prop where
  grows : Extends w w₁ es
  within : Within
    { limiters := [i.limiterId, rA.limiterId, rB.limiterId]
      reserves := [ctx.reserveA.pubkey, ctx.reserveB.pubkey]
      controllers := [ctx.controller.pubkey] } es
  config : i.config = .AtomicSwap cfg
  state : i.state = .AtomicSwap idle
  notStarted : ¬ idle.hasSwapStarted
  inputToken : cfg.inputToken = rA.mint
  outputToken : cfg.outputToken = rB.mint
  /-- What it left for Repay. -/
  state' : i'.state = .AtomicSwap lent
  amountBorrowed : lent.amountBorrowed = amount
  amount_ne : amount ≠ 0
  balanceA : lent.lastBalanceA.toNat = w.bank.tokenAmount rA.vault
  balanceB : lent.lastBalanceB.toNat = w.bank.tokenAmount rB.vault
  repayFollows : tx.RepayFollows ctx.integration.pubkey ctx.recipientTokenAccountA.pubkey
    ctx.recipientTokenAccountB.pubkey rA.vault rB.vault
  integration : Integration.Booked w.clock (flowsOf i.limiterId es) i i'
  reserveA : ∃ flows, Reserve.Booked w.clock flows rA rA' ∧
    (rA.mint ≠ rB.mint → flows = flowsOf rA.limiterId es)
  reserveB : ∃ flows, Reserve.Booked w.clock flows rB rB' ∧
    (rA.mint ≠ rB.mint → flows = flowsOf rB.limiterId es)
  /-- No event tells what was lent. -/
  ledgerA : rA.mint ≠ rB.mint → ctx.reserveA.pubkey ≠ ctx.reserveB.pubkey →
    ledger ctx.reserveA.pubkey es = net (flowsOf rA.limiterId es) + amount.toNat
  ledgerB : rA.mint ≠ rB.mint → ctx.reserveA.pubkey ≠ ctx.reserveB.pubkey →
    ledger ctx.reserveB.pubkey es = net (flowsOf rB.limiterId es)
  movesOnly : MovesOnly rA.vault es
  /-- The amount was booked, under the limit, on both accounts. -/
  metered : authorizedOut (flowsOf rA.limiterId es) = amount.toNat ∧
    authorizedOut (flowsOf i.limiterId es) = amount.toNat
  moved : TokenLaws →
    w.bank.tokenAmount rA.vault = w₁.bank.tokenAmount rA.vault + amount.toNat
  kept : TokenLaws → rA.mint ≠ rB.mint →
    w₁.bank.tokenAmount rB.vault = w.bank.tokenAmount rB.vault
  trackedA : TokenLaws → w₁.bank.tokenAmount rA.vault = rA'.lastBalance.toNat
  trackedB : TokenLaws → rA.mint ≠ rB.mint →
    w₁.bank.tokenAmount rB.vault = rB'.lastBalance.toNat

/-- What was lent is not zero, which is how a swap is told to have started. -/
theorem BorrowRun.started {tx : TxContext} {ctx : AtomicSwapBorrow} {amount : UInt64}
    {w w₁ : World} {i i' : Integration} {cfg : AtomicSwapConfig} {idle lent : AtomicSwapState}
    {rA rA' rB rB' : Reserve} {es : List LogEntry}
    (h : BorrowRun tx ctx amount w w₁ i i' cfg idle lent rA rA' rB rB' es) :
    lent.hasSwapStarted := by
  have hne := h.amount_ne
  rw [← h.amountBorrowed] at hne
  exact UInt64.pos_iff_ne_zero.mpr hne

/-- How the accounts came to be what a Borrow saved: synced, refreshed, and charged. -/
structure BorrowCharges (ctx : AtomicSwapBorrow) (c : Controller) (amount : UInt64) (w : World)
    (i i' : Integration) (idle lent : AtomicSwapState) (rA rA' rB rB' : Reserve) : Prop where
  synced : ∃ sA wA wB,
    rA.syncBalance ctx.vaultA ctx.controllerAuthority.pubkey ctx.controller.pubkey c w =
      .ok (sA, wA) ∧
    rB.syncBalance ctx.vaultB ctx.controllerAuthority.pubkey ctx.controller.pubkey c wA =
      .ok (rB', wB) ∧
    sA.updateForOutflow w.clock amount false = .ok rA'
  refreshed : ∃ refreshed, i.refreshRateLimit w.clock = .ok refreshed ∧
    Integration.updateRateLimitForOutflow { refreshed with state := .AtomicSwap lent } w.clock
      amount = .ok i'
  padding : lent.padding = idle.padding

/-- A Borrow leaves all three limiters refreshed. -/
theorem BorrowCharges.isRefreshed {ctx : AtomicSwapBorrow} {c : Controller} {p : Permission}
    {amount : UInt64} {w : World} {i i' : Integration} {idle lent : AtomicSwapState}
    {rA rA' rB rB' : Reserve} (hparties : BorrowParties ctx w c p i rA rB)
    (h : BorrowCharges ctx c amount w i i' idle lent rA rA' rB rB') :
    rA'.toRateLimit.IsRefreshed w.clock ∧ rB'.toRateLimit.IsRefreshed w.clock ∧
      i'.toRateLimit.IsRefreshed w.clock := by
  obtain ⟨sA, wA, wB, hsyncA, hsyncB, hcharge⟩ := h.synced
  obtain ⟨refreshed, -, hlend⟩ := h.refreshed
  obtain ⟨-, -, _, -, -, hsyncedA⟩ := Reserve.syncBalance_ok hparties.reserveA.seeds hsyncA
  obtain ⟨-, -, _, -, -, hsyncedB⟩ := Reserve.syncBalance_ok hparties.reserveB.seeds hsyncB
  obtain ⟨_, hrunA⟩ := hsyncedA.run
  refine ⟨?_, hrunA.grows.clock ▸ hsyncedB.isRefreshed, ?_⟩
  · simp only [Reserve.updateForOutflow, except_bind_ok, except_pure_ok] at hcharge
    obtain ⟨l, hl, _, -, rfl⟩ := hcharge
    obtain ⟨hrefreshed, _, rfl, -⟩ := RateLimit.outflow_ok hl
    exact hrefreshed
  · simp only [Integration.updateRateLimitForOutflow, except_bind_ok, except_pure_ok] at hlend
    obtain ⟨l, hl, rfl⟩ := hlend
    obtain ⟨hrefreshed, _, rfl, -⟩ := RateLimit.outflow_ok hl
    exact hrefreshed

/-- **What a successful Borrow did**, up to the saving of the four accounts. -/
inductive BorrowDone (tx : TxContext) (ctx : AtomicSwapBorrow) (amount : UInt64) (w : World) :
    World → List LogEntry → Prop
  | done {c : Controller} {p : Permission} {i i' : Integration} {cfg : AtomicSwapConfig}
      {idle lent : AtomicSwapState} {rA rA' rB rB' : Reserve} {w₁ : World}
      {es : List LogEntry} :
      BorrowParties ctx w c p i rA rB →
        BorrowRun tx ctx amount w w₁ i i' cfg idle lent rA rA' rB rB' es →
        BorrowCharges ctx c amount w i i' idle lent rA rA' rB rB' →
          BorrowDone tx ctx amount w
            ((((w₁.setKeel ctx.reserveA.pubkey (.reserve rA')).setKeel ctx.reserveB.pubkey
              (.reserve rB')).setKeel ctx.integration.pubkey (.integration i')).setKeel
                ctx.controller.pubkey (.controller { c with status := .AtomicSwapLock })) es

omit [Chain] in
theorem AtomicSwapBorrow.bind_eq {accounts : List AccountMeta} {ctx : AtomicSwapBorrow}
    (h : AtomicSwapBorrow.bind accounts = some ctx) : ∃ rest,
      accounts = ctx.controller :: ctx.controllerAuthority :: ctx.authority :: ctx.permission ::
        ctx.integration :: ctx.reserveA :: ctx.vaultA :: ctx.mintA :: ctx.reserveB ::
        ctx.vaultB :: ctx.recipientTokenAccountA :: ctx.recipientTokenAccountB ::
        ctx.tokenProgramA :: ctx.sysvarInstruction :: ctx.programId :: rest := by
  unfold bind at h
  split at h
  · rename_i rest
    obtain rfl := Option.some.inj h
    exact ⟨rest, rfl⟩
  · cases h

/-- The part of a Borrow after both syncs: a signed transfer out of vault A, and the
    outflow booked on Reserve A and on the Integration. -/
structure Lending (ck : Pubkey) (ix : TransferChecked) (w w₁ : World) (i i' : Integration)
    (rA rA' : Reserve) : Prop where
  grows : Extends w w₁
    [.cpi (.transferChecked ix) (some ck), .flow rA.limiterId (.outflow false) ix.amount,
      .flow i.limiterId (.outflow false) ix.amount]
  integration : Integration.Booked w.clock [(.outflow false, ix.amount)] i i'
  reserve : Reserve.Booked w.clock [(.outflow false, ix.amount)] rA rA'
  moved : TokenLaws → ix.toAccount ≠ rA.vault →
    w.bank.tokenAmount rA.vault = w₁.bank.tokenAmount rA.vault + ix.amount.toNat
  others : TokenLaws → ∀ k t, w.bank.token? k = some t → t.mint ≠ rA.mint →
    k ≠ rA.vault → w₁.bank.tokenAmount k = w.bank.tokenAmount k

theorem Lending.of_transfer (ck : Pubkey) {ix : TransferChecked} {w : World}
    {i i' : Integration} {rA rA' : Reserve} {signers : List Pubkey} {bank : Bank}
    (hvault : ix.fromAccount = rA.vault) (hmint : ix.mint = rA.mint)
    (htransfer : Chain.invoke w.clock (.transferChecked ix) signers w.bank = some bank)
    (hi : Integration.Booked w.clock [(.outflow false, ix.amount)] i i')
    (hr : rA.updateForOutflow w.clock ix.amount false = .ok rA') :
    Lending ck ix w
      ((((w.setBank bank).addLog (.cpi (.transferChecked ix) (some ck))).addLog
        (.flow rA.limiterId (.outflow false) ix.amount)).addLog
          (.flow i.limiterId (.outflow false) ix.amount)) i i' rA rA' := by
  refine ⟨.addLog (.addLog (Extends.refl.invoke htransfer)), hi, .of_outflow hr, ?_, ?_⟩
  · intro laws hne
    rw [← hvault] at hne ⊢
    exact (laws.transfer_debit htransfer (Ne.symm hne)).symm
  · intro laws k t ht hmint' hne
    obtain ⟨_, destination, -, hdestination, -, hto⟩ := laws.transfer_mint htransfer
    refine laws.transfer_frame htransfer k (hvault ▸ hne) ?_
    -- the destination holds the mint transferred, and `k` does not
    intro heq
    subst heq
    rw [ht] at hdestination
    obtain rfl := Option.some.inj hdestination
    exact hmint' (hto.trans hmint)

section Entries

variable {ck kA kB : Pubkey} {nA nB : UInt64} {ix : TransferChecked} {w wA wB w₁ : World}
  {i i' : Integration} {rA sA rA' rB sB : Reserve} {esA esB : List LogEntry}

/-- What a Borrow adds to the log. -/
def borrowEntries (ck : Pubkey) (ix : TransferChecked) (i : Integration) (rA : Reserve)
    (esA esB : List LogEntry) : List LogEntry :=
  esA ++ (esB ++ [.cpi (.transferChecked ix) (some ck), .flow rA.limiterId (.outflow false) ix.amount,
    .flow i.limiterId (.outflow false) ix.amount])

/-- The three parts of a Borrow, read off its entries. -/
theorem borrowEntries_within (hsyncA : Reserve.SyncRun kA nA w wA rA sA esA)
    (hsyncB : Reserve.SyncRun kB nB wA wB rB sB esB) :
    Within
      { limiters := [i.limiterId, rA.limiterId, rB.limiterId]
        reserves := [kA, kB]
        controllers := [ck] } (borrowEntries ck ix i rA esA esB) := by
  refine .append (hsyncA.within_of_mem (.tail _ (.head _)) (.head _)) (.append
    (hsyncB.within_of_mem (.tail _ (.tail _ (.head _))) (.tail _ (.head _))) ?_)
  exact .cons (within_signed (.head _)) (.cons (.tail _ (.head _)) (.singleton (.head _)))

/-- The syncs say nothing of the integration. -/
theorem borrowEntries_integration (hsyncA : Reserve.SyncRun kA nA w wA rA sA esA)
    (hsyncB : Reserve.SyncRun kB nB wA wB rB sB esB) :
    flowsOf i.limiterId (borrowEntries ck ix i rA esA esB) = [(.outflow false, ix.amount)] := by
  have hA : flowsOf i.limiterId esA = [] := hsyncA.flowsOf_eq_nil nofun
  have hB : flowsOf i.limiterId esB = [] := hsyncB.flowsOf_eq_nil nofun
  simp [borrowEntries, hA, hB]

/-- The sync of the second reserve says nothing of the first, when their mints differ, -/
theorem borrowEntries_reserveA (hsyncB : Reserve.SyncRun kB nB wA wB rB sB esB)
    (hne : rA.mint ≠ rB.mint) :
    flowsOf rA.limiterId (borrowEntries ck ix i rA esA esB) =
      flowsOf rA.limiterId esA ++ [(.outflow false, ix.amount)] := by
  simp [borrowEntries, hsyncB.flowsOf_eq_nil (Reserve.limiterId_ne hne)]

/-- and neither the first one nor the loan of the second. -/
theorem borrowEntries_reserveB (hsyncA : Reserve.SyncRun kA nA w wA rA sA esA)
    (hne : rA.mint ≠ rB.mint) :
    flowsOf rB.limiterId (borrowEntries ck ix i rA esA esB) = flowsOf rB.limiterId esB := by
  simp [borrowEntries, hsyncA.flowsOf_eq_nil (Reserve.limiterId_ne hne.symm),
    flowsOf_cons_flow_of_ne (Reserve.limiterId_ne hne)]

/-- What a sync finds is not authorized, so the loan is all that is. -/
theorem borrowEntries_authorizedA (hsyncA : Reserve.SyncRun kA nA w wA rA sA esA)
    (hsyncB : Reserve.SyncRun kB nB wA wB rB sB esB) :
    authorizedOut (flowsOf rA.limiterId (borrowEntries ck ix i rA esA esB)) = ix.amount.toNat := by
  have hB : authorizedOut (flowsOf rA.limiterId esB) = 0 := by
    by_cases hid : rA.limiterId = rB.limiterId
    · rw [hid]
      exact hsyncB.unauthorized
    · rw [hsyncB.flowsOf_eq_nil hid]
      rfl
  simp [borrowEntries, hsyncA.unauthorized, hB, Flow.authorized]

omit [Chain] in
theorem borrowEntries_ledger (k : Pubkey) :
    ledger k (borrowEntries ck ix i rA esA esB) = ledger k esA + ledger k esB := by
  simp [borrowEntries]

/-- The loan is the one transfer that is signed for. -/
theorem borrowEntries_movesOnly (hsyncA : Reserve.SyncRun kA nA w wA rA sA esA)
    (hsyncB : Reserve.SyncRun kB nB wA wB rB sB esB) :
    MovesOnly ix.fromAccount (borrowEntries ck ix i rA esA esB) := by
  refine .append (.of_unsigned hsyncA.unsigned) (.append (.of_unsigned hsyncB.unsigned) ?_)
  exact .append (.of_signed rfl) (.of_unsigned rfl)

end Entries

/-- **The parts of a Borrow, put together.** -/
theorem BorrowRun.of_parts {tx : TxContext} {ctx : AtomicSwapBorrow} {ix : TransferChecked}
    {w wA wB w₁ : World} {i refreshed i' : Integration} {cfg : AtomicSwapConfig}
    {idle lent : AtomicSwapState} {rA sA rA' rB sB : Reserve} {tA tB : TokenAccount}
    {esA esB : List LogEntry}
    (hsyncA : Reserve.SyncRun ctx.reserveA.pubkey tA.amount w wA rA sA esA)
    (hsyncB : Reserve.SyncRun ctx.reserveB.pubkey tB.amount wA wB rB sB esB)
    (htA : wB.bank.token? rA.vault = some tA) (htB : wB.bank.token? rB.vault = some tB)
    (hmintA : tA.mint = rA.mint) (hmintB : tB.mint = rB.mint)
    (hsource : ix.fromAccount = rA.vault)
    (hrecipient : ix.toAccount = ctx.recipientTokenAccountA.pubkey)
    (hrefresh : i.refreshRateLimit w.clock = .ok refreshed)
    (hconfig : refreshed.config = .AtomicSwap cfg) (hidle : refreshed.state = .AtomicSwap idle)
    (hnotStarted : ¬ idle.hasSwapStarted) (hinput : cfg.inputToken = sA.mint)
    (houtput : cfg.outputToken = sB.mint) (hlent : i'.state = .AtomicSwap lent)
    (hamount : lent.amountBorrowed = ix.amount) (hne : ix.amount ≠ 0)
    (hbalanceA : lent.lastBalanceA = tA.amount) (hbalanceB : lent.lastBalanceB = tB.amount)
    (hrepay : tx.RepayFollows ctx.integration.pubkey ctx.recipientTokenAccountA.pubkey
      ctx.recipientTokenAccountB.pubkey rA.vault rB.vault)
    (hlending : Lending ctx.controller.pubkey ix wB w₁ i i' sA rA') :
    BorrowRun tx ctx ix.amount w w₁ i i' cfg idle lent rA rA' rB sB
      (borrowEntries ctx.controller.pubkey ix i rA esA esB) := by
  have hclock : wB.clock = w.clock := hsyncB.grows.clock.trans hsyncA.grows.clock
  -- nothing has moved a token before the transfer, so all reads agree
  have hbank : wB.bank = w.bank := hsyncB.bank.trans hsyncA.bank
  have hgrows := hsyncA.grows.trans (hsyncB.grows.trans hlending.grows)
  have hreserve := hlending.reserve
  have hinteg := hlending.integration
  rw [hclock] at hreserve hinteg
  have hreserveB := hsyncB.booked
  rw [hsyncA.grows.clock] at hreserveB
  rw [hsyncA.booked.limiterId_eq] at hgrows
  rw [hsyncA.booked.mint_eq] at hinput
  rw [hsyncB.booked.mint_eq] at houtput
  have hmoved := fun laws => hlending.moved laws
  rw [hsyncA.booked.vault_eq, hrecipient, hbank] at hmoved
  have hothers := fun laws => hlending.others laws rB.vault tB htB
  rw [hsyncA.booked.vault_eq, hsyncA.booked.mint_eq, hmintB, hbank] at hothers
  have hreadA : w.bank.tokenAmount rA.vault = tA.amount.toNat := by
    rw [← hbank]
    exact Bank.tokenAmount_of_token? htA
  have hreadB : w.bank.tokenAmount rB.vault = tB.amount.toNat := by
    rw [← hbank]
    exact Bank.tokenAmount_of_token? htB
  -- an account is of one mint, so two reserves of different mints have two vaults
  have hvaults : rA.mint ≠ rB.mint → rB.vault ≠ rA.vault := by
    intro hmints heq
    rw [heq, htA] at htB
    obtain rfl := Option.some.inj htB
    exact hmints (hmintA.symm.trans hmintB)
  have hkept : TokenLaws → rA.mint ≠ rB.mint →
      w₁.bank.tokenAmount rB.vault = w.bank.tokenAmount rB.vault :=
    fun laws hmints => hothers laws hmints.symm (hvaults hmints)
  simp only [Integration.refreshRateLimit, except_bind_ok, except_pure_ok] at hrefresh
  obtain ⟨_, -, rfl⟩ := hrefresh
  refine ⟨hgrows, borrowEntries_within hsyncA hsyncB, hconfig, hidle, hnotStarted, hinput, houtput,
    hlent, hamount, hne, ?_, ?_, hrepay, ?_, ⟨_, hsyncA.booked.trans hreserve, ?_⟩,
    ⟨_, hreserveB, ?_⟩, ?_, ?_, ?_, ?_, ?_, hkept, ?_, ?_⟩
  · rw [hbalanceA, hreadA]
  · rw [hbalanceB, hreadB]
  · rw [borrowEntries_integration hsyncA hsyncB]
    exact hinteg
  · exact fun hmints => (borrowEntries_reserveA hsyncB hmints).symm
  · exact fun hmints => (borrowEntries_reserveB hsyncA hmints).symm
  · intro hmints hkeys
    rw [borrowEntries_ledger, hsyncA.ledger, hsyncB.ledger_eq_zero hkeys,
      borrowEntries_reserveA hsyncB hmints, net_append, net_cons, net_nil, Flow.signed]
    ring
  · intro hmints hkeys
    rw [borrowEntries_ledger, hsyncB.ledger, hsyncA.ledger_eq_zero hkeys.symm,
      borrowEntries_reserveB hsyncA hmints, zero_add]
  · rw [← hsource]
    exact borrowEntries_movesOnly hsyncA hsyncB
  · refine ⟨borrowEntries_authorizedA hsyncA hsyncB, ?_⟩
    rw [borrowEntries_integration hsyncA hsyncB]
    simp [Flow.authorized]
  · exact fun laws => hmoved laws hrepay.notVaultA
  · intro laws
    have hlast := hreserve.balance
    have hmoved := hmoved laws hrepay.notVaultA
    simp only [hsyncA.lastBalance, net_cons, net_nil, Flow.signed] at hlast
    omega
  · intro laws hmints
    rw [hkept laws hmints, hreadB, hsyncB.lastBalance]

/-- **Every Borrow that succeeds.** Its checks give the parties, its two syncs and its transfer
    the run. -/
theorem processAtomicSwapBorrow_done {tx : TxContext} {accounts : List AccountMeta}
    {data : List UInt8} {w w' : World} {u : Unit}
    (h : processAtomicSwapBorrow tx accounts data w = .ok (u, w')) :
    ∃ ctx args es, AtomicSwapBorrow.bind accounts = some ctx ∧
      data = Borsh.write (args : AtomicSwapBorrowArgs) ∧
        BorrowDone tx ctx args.amount w w' es := by
  simp only [processAtomicSwapBorrow, Controller.transferTokens, bind_ok, fromAccounts_ok,
    parseArgs_ok, rejectIf_ok, read_ok, ofExcept_ok, ofOption_ok,
    IntegrationConfig.atomicSwap?_eq, IntegrationState.atomicSwap?_eq, invokeSigned_ok,
    Reserve.recordOutflow_ok, Integration.recordOutflow_ok, pure_ok, not_not, not_or, and_assoc,
    exists_and_left, exists_eq_left', exists_const] at h
  obtain ⟨haccounts, ctx, hbind, args, hargs, c, _, hcl, hactive, p, _, hpl, hallowed, h⟩ := h
  obtain ⟨rA, _, hrAl, hvaultA, hmintA, hstatusA, rB, _, hrBl, hvaultB, hstatusB, h⟩ := h
  obtain ⟨sA, wA, hsyncedA, sB, wB, hsyncedB, i, _, hil, histatus, refreshed, hrefresh, h⟩ := h
  obtain ⟨cfg, hconfig, idle, hidle, hinput, houtput, hnotStarted, -, tA, _, htA, tB, _, htB, h⟩ := h
  obtain ⟨hmintTA, hmintTB, ra, _, hra, rb, _, hrb, -, hne, mint, _, hmint, _,
    ⟨_, -, bank, htransfer, rfl⟩, _, hverify, h⟩ := h
  obtain ⟨rA', hlendA, _, _, hsaveA, _, _, hsaveB, i', hlendI, _, _, hsaveI, _, _, hlock, -, rfl⟩ := h
  -- the four saves, and what was loaded before them
  obtain ⟨-, -, rfl⟩ := save_ok.mp hsaveA
  obtain ⟨-, -, rfl⟩ := save_ok.mp hsaveB
  obtain ⟨-, -, rfl⟩ := save_ok.mp hsaveI
  obtain ⟨-, rfl, -, -, rfl⟩ := Controller.updateAndSave_ok.mp hlock
  obtain ⟨rfl, hc⟩ := Controller.loadAndCheck_at hcl
  obtain ⟨rfl, hp⟩ := Permission.loadAndCheck_at hpl
  obtain ⟨rfl, hrA⟩ := Reserve.loadAndCheck_at hrAl
  obtain ⟨rfl, hrB⟩ := Reserve.loadAndCheck_at hrBl
  obtain ⟨-, -, t, ht, -, hsyncA⟩ := Reserve.syncBalance_ok hrA.seeds hsyncedA
  obtain ⟨esA, hsyncA⟩ := hsyncA.run
  obtain ⟨-, -, t', ht', -, hsyncB⟩ := Reserve.syncBalance_ok hrB.seeds hsyncedB
  obtain ⟨esB, hsyncB⟩ := hsyncB.run
  obtain ⟨rfl, hi⟩ := Integration.loadAndCheck_at hil
  obtain ⟨rfl, -, htA⟩ := TokenAccount.fromAccountInfo_ok htA
  obtain ⟨rfl, -, htB⟩ := TokenAccount.fromAccountInfo_ok htB
  obtain rfl := readOnly_tokenAccount hra
  obtain rfl := readOnly_tokenAccount hrb
  obtain rfl := readOnly_mint hmint
  have hbank : wB.bank = w.bank := hsyncB.bank.trans hsyncA.bank
  have hclock : wB.clock = w.clock := hsyncB.grows.clock.trans hsyncA.grows.clock
  have hkeel : wB.keel = w.keel := hsyncB.grows.keel.trans hsyncA.grows.keel
  have hparties : BorrowParties ctx w c p i rA rB :=
    ⟨haccounts.isSigner (n := 2) rfl (by obtain ⟨_, rfl⟩ := AtomicSwapBorrow.bind_eq hbind; rfl)
      (.head _), hc, hactive, hp, hallowed, ⟨hkeel ▸ hi.keel, hi.controller, hi.seeds⟩, histatus,
      hrA, hstatusA, hvaultA, hrB, hstatusB, hvaultB⟩
  -- the vaults were read by a sync and again by the Borrow, with nothing in between
  rw [← hvaultA] at htA
  rw [← hvaultB] at htB
  have htA' := htA
  have htB' := htB
  rw [hbank, ht] at htA'
  rw [hsyncB.bank, ht'] at htB'
  obtain rfl := Option.some.inj htA'
  obtain rfl := Option.some.inj htB'
  -- what the transaction around it was found to end in
  have hrepay := verifyRepayIxInTx_ok hverify
  rw [← hvaultA, ← hvaultB] at hrepay
  rw [hsyncA.booked.mint_eq] at hmintTA
  rw [hsyncB.booked.mint_eq] at hmintTB
  have hlending := Lending.of_transfer ctx.controller.pubkey (hsyncA.booked.vault_eq.trans hvaultA).symm
    (hsyncA.booked.mint_eq.trans hmintA).symm htransfer
    ((Integration.Booked.of_refresh (hclock ▸ hrefresh)).trans (.trans .of_state (.of_outflow
      (hclock ▸ hlendI)))) (hclock ▸ hlendA)
  have hcharges : BorrowCharges ctx c args.amount w i i' idle _ rA rA' rB sB :=
    ⟨⟨sA, wA, wB, hsyncedA, hsyncedB, hlendA⟩, ⟨refreshed, hrefresh, hlendI⟩, rfl⟩
  have hdone := BorrowDone.done hparties (BorrowRun.of_parts hsyncA hsyncB htA htB hmintTA hmintTB
    hvaultA.symm rfl hrefresh hconfig hidle hnotStarted hinput houtput
    (Integration.updateRateLimitForOutflow_state hlendI) rfl hne rfl rfl hrepay hlending) hcharges
  simp only [Integration.refreshRateLimit, except_bind_ok, except_pure_ok] at hrefresh
  obtain ⟨_, -, rfl⟩ := hrefresh
  exact ⟨ctx, args, _, hbind, hargs, hdone⟩

end AlmController
