import AlmController.Spec.Errors
import AlmController.Spec.Introspection

/-!
# Repay

What a successful AtomicSwapRepay established. It unlocks the Controller, takes back
what is left of the tokens lent and the tokens of the second Reserve, both measured at
the vaults, and compares the price with the oracle.

The event on Reserve A reports what was finally spent, and saturates: when more comes
back than was lent it says nothing was spent, while the recorded balance gains all of
it.
-/

namespace AlmController

open Prog

variable [Chain]

/-! ## A transfer into a vault -/

/-- The transfer that a payer makes into a vault. -/
def repayTransfer (payer payerAccount vault mint tokenProgram : Pubkey) (amount : UInt64)
    (decimals : UInt8) : TransferChecked where
  fromAccount := payerAccount
  mint := mint
  toAccount := vault
  authority := payer
  amount := amount
  decimals := decimals
  tokenProgram := tokenProgram

/-- The transfer went through, and its destination now has `delta` more than `balance`. -/
structure Receives (clock : Clock) (ix : TransferChecked) (balance delta : UInt64)
    (bank bank' : Bank) : Prop where
  invoke : Chain.invoke clock (.transferChecked ix) [] bank = some bank'
  gained : bank'.tokenAmount ix.toAccount = balance.toNat + delta.toNat

theorem repayTokens_ok {payer payerAccount vault mint tokenProgram : Pubkey}
    {amount balance delta : UInt64} {w w' : World}
    (h : repayTokens payer payerAccount vault mint tokenProgram amount balance w =
      .ok (delta, w')) :
    ∃ decimals bank,
      Receives w.clock (repayTransfer payer payerAccount vault mint tokenProgram amount decimals)
        balance delta w.bank bank ∧
      w' = (w.setBank bank).addLog (.cpi (.transferChecked
        (repayTransfer payer payerAccount vault mint tokenProgram amount decimals)) none) := by
  simp only [repayTokens, bind_ok, invoke_ok, ofOption_ok, UInt64.checkedSub_eq_some] at h
  obtain ⟨m, _, hm, _, _, ⟨bank, hinvoke, rfl⟩, t, _, ht, hdelta, rfl⟩ := h
  obtain rfl := readOnly_mint hm
  obtain ⟨rfl, -, ht⟩ := TokenAccount.fromAccountInfo_ok ht
  refine ⟨m.decimals, bank, ⟨hinvoke, ?_⟩, rfl⟩
  rw [← hdelta]
  exact Bank.tokenAmount_of_token? ht

/-- A transfer moves no account of another mint. -/
theorem Receives.others {clock : Clock} {ix : TransferChecked} {balance delta : UInt64}
    {bank bank' : Bank} (h : Receives clock ix balance delta bank bank') (laws : TokenLaws)
    {k : Pubkey} (hk : ∀ t, bank.token? k = some t → t.mint ≠ ix.mint) :
    bank'.tokenAmount k = bank.tokenAmount k := by
  obtain ⟨source, destination, hsource, hdestination, hfrom, hto⟩ := laws.transfer_mint h.invoke
  refine laws.transfer_frame h.invoke k ?_ ?_
  · intro heq
    subst heq
    exact hk source hsource hfrom
  · intro heq
    subst heq
    exact hk destination hdestination hto

/-! ## The tokens lent -/

/-- How the tokens lent came back: not at all, or by a transfer of the excess. -/
inductive InputRepaid (ctx : AtomicSwapRepay) (clock : Clock) (excess balance delta : UInt64)
    (bank : Bank) : Bank → List LogEntry → Prop
  | spent : excess = 0 → delta = 0 → InputRepaid ctx clock excess balance delta bank bank []
  | returned {decimals : UInt8} {bank' : Bank} {ix : TransferChecked} :
      0 < excess →
      ix = repayTransfer ctx.payer.pubkey ctx.payerAccountA.pubkey ctx.vaultA.pubkey
        ctx.mintA.pubkey ctx.tokenProgramA.pubkey excess decimals →
      Receives clock ix balance delta bank bank' →
      InputRepaid ctx clock excess balance delta bank bank' [.cpi (.transferChecked ix) none]

theorem repayInput_ok {ctx : AtomicSwapRepay} {borrowed excess balance final delta : UInt64}
    {w w' : World} (h : repayInput ctx borrowed excess balance w = .ok ((final, delta), w')) :
    final = borrowed.saturatingSub delta ∧ ∃ bank calls,
      InputRepaid ctx w.clock excess balance delta w.bank bank calls ∧
        w' = { w with bank := bank, log := w.log ++ calls } := by
  unfold repayInput at h
  split at h
  · rename_i hpos
    simp only [bind_ok, pure_ok, Prod.mk.injEq] at h
    obtain ⟨_, _, hrepay, ⟨rfl, rfl⟩, rfl⟩ := h
    obtain ⟨decimals, bank, hreceives, rfl⟩ := repayTokens_ok hrepay
    exact ⟨rfl, bank, _, .returned hpos rfl hreceives, rfl⟩
  · rename_i hzero
    simp only [pure_ok, Prod.mk.injEq] at h
    obtain ⟨⟨rfl, rfl⟩, rfl⟩ := h
    refine ⟨?_, w.bank, [], .spent ?_ rfl, ?_⟩
    · rw [← UInt64.toNat_inj, UInt64.toNat_saturatingSub]
      rfl
    · rw [UInt64.lt_iff_toNat_lt] at hzero
      rw [← UInt64.toNat_inj]
      have hle : excess.toNat ≤ (0 : UInt64).toNat := not_lt.mp hzero
      exact Nat.le_zero.mp hle
    · rw [List.append_nil]

namespace InputRepaid

variable {ctx : AtomicSwapRepay} {clock : Clock} {excess balance delta : UInt64}
  {bank bank' : Bank} {calls : List LogEntry}

theorem unsigned (h : InputRepaid ctx clock excess balance delta bank bank' calls) :
    ∀ e ∈ calls, ∃ call, e = .cpi call none := by
  cases h with
  | spent => exact fun _ hmem => absurd hmem List.not_mem_nil
  | returned => exact fun _ hmem => ⟨_, List.mem_singleton.mp hmem⟩

theorem bankSteps (h : InputRepaid ctx clock excess balance delta bank bank' calls) :
    BankSteps clock bank bank' := by
  cases h with
  | spent => exact .refl
  | returned _ _ hreceives => exact .single ⟨_, _, hreceives.invoke⟩

/-- The vault gained what was measured, when it held what was read before. -/
theorem gained (h : InputRepaid ctx clock excess balance delta bank bank' calls)
    (hbalance : bank.tokenAmount ctx.vaultA.pubkey = balance.toNat) :
    bank'.tokenAmount ctx.vaultA.pubkey = balance.toNat + delta.toNat := by
  cases h with
  | spent _ hdelta =>
    rw [hbalance, hdelta]
    rfl
  | returned _ hix hreceives =>
    have hgained := hreceives.gained
    rw [hix] at hgained
    exact hgained

theorem wellFormed (h : InputRepaid ctx clock excess balance delta bank bank' calls)
    (laws : TokenLaws) (hbank : bank.WellFormed) : bank'.WellFormed := by
  cases h with
  | spent => exact hbank
  | returned _ _ hreceives => exact laws.wellFormed hreceives.invoke hbank

end InputRepaid

/-! ## What a Repay establishes -/

omit [Chain] in
theorem AtomicSwapRepay.bind_eq {accounts : List AccountMeta} {ctx : AtomicSwapRepay}
    (h : AtomicSwapRepay.bind accounts = some ctx) : ∃ rest,
      accounts = ctx.payer :: ctx.controller :: ctx.controllerAuthority :: ctx.authority ::
        ctx.permission :: ctx.integration :: ctx.reserveA :: ctx.vaultA :: ctx.mintA ::
        ctx.reserveB :: ctx.vaultB :: ctx.mintB :: ctx.oracle :: ctx.payerAccountA ::
        ctx.payerAccountB :: ctx.tokenProgramA :: ctx.tokenProgramB :: rest := by
  unfold bind at h
  split at h
  · rename_i rest
    obtain rfl := Option.some.inj h
    exact ⟨rest, rfl⟩
  · cases h

/-- Everyone involved in a Repay: in their places, and signed for. The Controller is
    locked; no status but the permission's is asked for. -/
structure RepayParties (ctx : AtomicSwapRepay) (w : World) (c : Controller) (p : Permission)
    (i : Integration) (rA rB : Reserve) (o : Oracle) : Prop where
  signer : ctx.authority.isSigner = true
  controller : c.At w ctx.controller.pubkey ctx.controllerAuthority.pubkey
  controllerLocked : c.isAtomicSwapLocked
  permission : p.At w ctx.controller.pubkey ctx.permission.pubkey ctx.authority.pubkey
  allowed : p.mayExecuteSwap
  integration : i.At w ctx.controller.pubkey ctx.integration.pubkey
  reserveA : rA.At w ctx.controller.pubkey ctx.reserveA.pubkey
  vaultA : rA.vault = ctx.vaultA.pubkey
  mintA : rA.mint = ctx.mintA.pubkey
  reserveB : rB.At w ctx.controller.pubkey ctx.reserveB.pubkey
  vaultB : rB.vault = ctx.vaultB.pubkey
  oracle : o.At w ctx.oracle.pubkey
  oracleController : o.controller = ctx.controller.pubkey

/-- **What a Repay establishes.** -/
structure RepayRun (ctx : AtomicSwapRepay) (w w₁ : World) (i i' : Integration)
    (cfg : AtomicSwapConfig) (lent : AtomicSwapState) (rA rA' rB rB' : Reserve) (o : Oracle)
    (final deltaA deltaB : UInt64) (es : List LogEntry) : Prop where
  grows : Extends w w₁ es
  within : Within
    { limiters := [i.limiterId, rA.limiterId, rB.limiterId]
      reserves := [ctx.reserveA.pubkey, ctx.reserveB.pubkey] } es
  config : i.config = .AtomicSwap cfg
  state : i.state = .AtomicSwap lent
  started : lent.hasSwapStarted
  inputToken : cfg.inputToken = rA.mint
  outputToken : cfg.outputToken = rB.mint
  oracle : cfg.oracle = ctx.oracle.pubkey
  fresh : ¬ o.lastUpdateSlot < w.clock.slot - cfg.maxStaleness
  /-- Both vaults hold what Borrow left in them. -/
  balanceA : w.bank.tokenAmount rA.vault + lent.amountBorrowed.toNat = lent.lastBalanceA.toNat
  balanceB : w.bank.tokenAmount rB.vault = lent.lastBalanceB.toNat
  /-- What came back, as the transfer of the payer's excess brought it. -/
  repaid : ∃ balance bank calls, balance.toNat = w.bank.tokenAmount rA.vault ∧
    InputRepaid ctx w.clock
      ((UInt64.ofNat (w.bank.tokenAmount ctx.payerAccountA.pubkey)).saturatingSub
        lent.recipientTokenAPre) balance deltaA w.bank bank calls
  spent : final = lent.amountBorrowed.saturatingSub deltaA
  price : ∃ price, o.getPrice cfg.oraclePriceInverted = .ok price ∧
    checkSwapSlippage final cfg.inputMintDecimals deltaB cfg.outputMintDecimals
      cfg.maxSlippageBps price o.precision = .ok ()
  state' : i'.state = .AtomicSwap lent.reset
  integration : Integration.Booked w.clock (flowsOf i.limiterId es) i i'
  reserveA : ∃ flows, Reserve.Booked w.clock flows rA rA' ∧
    (rA.mint ≠ rB.mint → flows = flowsOf rA.limiterId es)
  reserveB : ∃ flows, Reserve.Booked w.clock flows rB rB' ∧
    (rA.mint ≠ rB.mint → flows = flowsOf rB.limiterId es)
  lastA : rA'.lastBalance.toNat = rA.lastBalance.toNat + deltaA.toNat
  lastB : rB'.lastBalance.toNat = rB.lastBalance.toNat + deltaB.toNat
  ledgerA : ctx.reserveA.pubkey ≠ ctx.reserveB.pubkey →
    ledger ctx.reserveA.pubkey es = -(final.toNat : Int)
  ledgerB : ctx.reserveA.pubkey ≠ ctx.reserveB.pubkey →
    ledger ctx.reserveB.pubkey es = deltaB.toNat
  unsigned : signedCalls es = []
  gainedA : TokenLaws → w.bank.WellFormed → ∀ owner, IsVaultOf rA.vault owner rA.mint →
    rA.mint ≠ rB.mint →
      w₁.bank.tokenAmount rA.vault = w.bank.tokenAmount rA.vault + deltaA.toNat
  gainedB : w₁.bank.tokenAmount rB.vault = w.bank.tokenAmount rB.vault + deltaB.toNat
  /-- The one debit told is of what was finally spent. -/
  told : ∀ n, .event (reserveEvent ctx.controller.pubkey ctx.reserveA.pubkey ctx.mintA.pubkey .Swap n
    .Debit) ∈ es ↔ n = final

/-- How the accounts came to be what a Repay saved. -/
structure RepayCredits (w : World) (i i' : Integration) (lent : AtomicSwapState)
    (rA rA' rB rB' : Reserve) (deltaA deltaB : UInt64) : Prop where
  reserveA : rA.updateForInflow w.clock deltaA = .ok rA'
  reserveB : rB.updateForInflow w.clock deltaB = .ok rB'
  integration : Integration.updateRateLimitForInflow { i with state := .AtomicSwap lent.reset }
    w.clock deltaA = .ok i'

/-- **What a successful Repay did**, up to the saving of the four accounts. -/
inductive RepayDone (ctx : AtomicSwapRepay) (w : World) : World → List LogEntry → Prop
  | done {c : Controller} {p : Permission} {i i' : Integration} {cfg : AtomicSwapConfig}
      {lent : AtomicSwapState} {rA rA' rB rB' : Reserve} {o : Oracle}
      {final deltaA deltaB : UInt64} {w₁ : World} {es : List LogEntry} :
      RepayParties ctx w c p i rA rB o →
        RepayRun ctx w w₁ i i' cfg lent rA rA' rB rB' o final deltaA deltaB es →
        RepayCredits w i i' lent rA rA' rB rB' deltaA deltaB →
          RepayDone ctx w
            ((((w₁.setKeel ctx.controller.pubkey (.controller { c with status := .Active })).setKeel
              ctx.reserveA.pubkey (.reserve rA')).setKeel ctx.reserveB.pubkey (.reserve rB')).setKeel
                ctx.integration.pubkey (.integration i')) es

/-- What a Repay adds to the log. -/
def repayEntries (ctx : AtomicSwapRepay) (i : Integration) (rA rB : Reserve)
    (calls : List LogEntry) (callB : Cpi) (final deltaA deltaB : UInt64) : List LogEntry :=
  calls ++ [.cpi callB none, .flow rA.limiterId .inflow deltaA, .flow rB.limiterId .inflow deltaB,
    .flow i.limiterId .inflow deltaA,
    .event (reserveEvent ctx.controller.pubkey ctx.reserveA.pubkey ctx.mintA.pubkey .Swap final
      .Debit),
    .event (reserveEvent ctx.controller.pubkey ctx.reserveB.pubkey ctx.mintB.pubkey .Swap deltaB
      .Credit)]

section Entries

omit [Chain]

variable {ctx : AtomicSwapRepay} {i : Integration} {rA rB : Reserve} {calls : List LogEntry}
  {callB : Cpi} {final deltaA deltaB : UInt64} {s : Scope}

theorem within_of_unsigned (hcalls : ∀ e ∈ calls, ∃ call, e = .cpi call none) : Within s calls := by
  intro e he
  obtain ⟨call, rfl⟩ := hcalls e he
  exact within_unsigned

theorem repayEntries_within (hcalls : ∀ e ∈ calls, ∃ call, e = .cpi call none) :
    Within
      { limiters := [i.limiterId, rA.limiterId, rB.limiterId]
        reserves := [ctx.reserveA.pubkey, ctx.reserveB.pubkey] }
      (repayEntries ctx i rA rB calls callB final deltaA deltaB) := by
  refine .append (within_of_unsigned hcalls) (.cons within_unsigned (.cons (.tail _ (.head _))
    (.cons (.tail _ (.tail _ (.head _))) (.cons (.head _) (.cons ?_ (.singleton ?_))))))
  · exact within_reserveEvent (.head _)
  · exact within_reserveEvent (.tail _ (.head _))

/-- Invocations without a signature say nothing about flows, events and signers. -/
theorem silent_of_unsigned (hcalls : ∀ e ∈ calls, ∃ call, e = .cpi call none) :
    (∀ id, flowsOf id calls = []) ∧ (∀ k, ledger k calls = 0) ∧ signedCalls calls = [] := by
  have hwithin : Within {} calls := within_of_unsigned hcalls
  refine ⟨fun id => hwithin.flowsOf_eq_nil List.not_mem_nil,
    fun k => hwithin.ledger_eq_zero List.not_mem_nil, ?_⟩
  exact List.eq_nil_iff_forall_not_mem.mpr fun _ hmem =>
    absurd (hwithin.signer_mem hmem) List.not_mem_nil

theorem repayEntries_read (ctx : AtomicSwapRepay) (i : Integration) (rA rB : Reserve) (callB : Cpi)
    (final deltaA deltaB : UInt64) (hcalls : ∀ e ∈ calls, ∃ call, e = .cpi call none) :
    flowsOf i.limiterId (repayEntries ctx i rA rB calls callB final deltaA deltaB) =
        [(.inflow, deltaA)] ∧
      signedCalls (repayEntries ctx i rA rB calls callB final deltaA deltaB) = [] ∧
      (rA.mint ≠ rB.mint →
        flowsOf rA.limiterId (repayEntries ctx i rA rB calls callB final deltaA deltaB) =
            [(.inflow, deltaA)] ∧
          flowsOf rB.limiterId (repayEntries ctx i rA rB calls callB final deltaA deltaB) =
            [(.inflow, deltaB)]) ∧
      (ctx.reserveA.pubkey ≠ ctx.reserveB.pubkey →
        ledger ctx.reserveA.pubkey (repayEntries ctx i rA rB calls callB final deltaA deltaB) =
            -(final.toNat : Int) ∧
          ledger ctx.reserveB.pubkey (repayEntries ctx i rA rB calls callB final deltaA deltaB) =
            deltaB.toNat) := by
  obtain ⟨hflows, hledger, hsigned⟩ := silent_of_unsigned hcalls
  refine ⟨?_, ?_, ?_, ?_⟩
  · simp [repayEntries, hflows]
  · simp [repayEntries, hsigned]
  · intro hne
    simp [repayEntries, hflows, flowsOf_cons_flow_of_ne (Reserve.limiterId_ne hne),
      flowsOf_cons_flow_of_ne (Reserve.limiterId_ne hne.symm)]
  · intro hne
    simp [repayEntries, hledger, hne, hne.symm, AccountingDirection.signed]

/-- Of the two events, one is a debit. -/
theorem repayEntries_debit (hcalls : ∀ e ∈ calls, ∃ call, e = .cpi call none) (n : UInt64) :
    .event (reserveEvent ctx.controller.pubkey ctx.reserveA.pubkey ctx.mintA.pubkey .Swap n .Debit) ∈
      repayEntries ctx i rA rB calls callB final deltaA deltaB ↔ n = final := by
  have hnot : ∀ event : SvmAlmControllerEvent, .event event ∉ calls := by
    intro event hmem
    obtain ⟨call, hcall⟩ := hcalls _ hmem
    cases hcall
  simp [repayEntries, hnot, reserveEvent]

end Entries

/-- The world after the last entry of a Repay, had it saved nothing. -/
def repaidWorld (ctx : AtomicSwapRepay) (i : Integration) (rA rB : Reserve) (w : World)
    (bank : Bank) (calls : List LogEntry) (callB : Cpi) (final deltaA deltaB : UInt64) : World :=
  { w with bank := bank, log := w.log ++ repayEntries ctx i rA rB calls callB final deltaA deltaB }

/-- **The parts of a Repay, put together.** -/
theorem RepayRun.of_parts {ctx : AtomicSwapRepay} {w : World} {i i' : Integration}
    {cfg : AtomicSwapConfig} {lent : AtomicSwapState} {rA rA' rB rB' : Reserve} {o : Oracle}
    {tA tB payerA : TokenAccount} {price : Int} {final deltaA deltaB : UInt64}
    {bankA bankB : Bank} {calls : List LogEntry} {ixB : TransferChecked}
    (hvaultA : rA.vault = ctx.vaultA.pubkey)
    (hconfig : i.config = .AtomicSwap cfg) (hlent : i.state = .AtomicSwap lent)
    (hstarted : lent.hasSwapStarted) (hinput : cfg.inputToken = rA.mint)
    (houtput : cfg.outputToken = rB.mint) (horacle : cfg.oracle = ctx.oracle.pubkey)
    (hfresh : ¬ o.lastUpdateSlot < w.clock.slot - cfg.maxStaleness)
    (htA : w.bank.token? rA.vault = some tA) (htB : w.bank.token? rB.vault = some tB)
    (hpayer : w.bank.token? ctx.payerAccountA.pubkey = some payerA)
    (hsumA : lent.lastBalanceA.toNat = tA.amount.toNat + lent.amountBorrowed.toNat)
    (hsumB : tB.amount = lent.lastBalanceB)
    (hrepaid : InputRepaid ctx w.clock (payerA.amount.saturatingSub lent.recipientTokenAPre)
      tA.amount deltaA w.bank bankA calls)
    (hfinal : final = lent.amountBorrowed.saturatingSub deltaA)
    (hpaid : Receives w.clock ixB tB.amount deltaB bankA bankB)
    (hto : ixB.toAccount = rB.vault) (hmint : ixB.mint = rB.mint)
    (hprice : o.getPrice cfg.oraclePriceInverted = .ok price)
    (hslippage : checkSwapSlippage final cfg.inputMintDecimals deltaB cfg.outputMintDecimals
      cfg.maxSlippageBps price o.precision = .ok ())
    (hrA : rA.updateForInflow w.clock deltaA = .ok rA')
    (hrB : rB.updateForInflow w.clock deltaB = .ok rB')
    (hi : Integration.updateRateLimitForInflow { i with state := .AtomicSwap lent.reset } w.clock
      deltaA = .ok i') :
    RepayRun ctx w
      (repaidWorld ctx i rA rB w bankB calls (.transferChecked ixB) final deltaA deltaB) i i' cfg
      lent rA rA' rB rB' o final deltaA deltaB
      (repayEntries ctx i rA rB calls (.transferChecked ixB) final deltaA deltaB) := by
  have hreadA := Bank.tokenAmount_of_token? htA
  have hreadB := Bank.tokenAmount_of_token? htB
  have hreadP := Bank.tokenAmount_of_token? hpayer
  have hbookedA := Reserve.Booked.of_inflow hrA
  have hbookedB := Reserve.Booked.of_inflow hrB
  have hlastA := hbookedA.balance
  have hlastB := hbookedB.balance
  simp only [net_cons, net_nil, Flow.signed] at hlastA hlastB
  obtain ⟨hflowI, hsigned, hflows, hledger⟩ := repayEntries_read ctx i rA rB (.transferChecked ixB) final
    deltaA deltaB hrepaid.unsigned
  refine ⟨⟨rfl, rfl, rfl, ?_⟩, repayEntries_within hrepaid.unsigned, hconfig, hlent, hstarted,
    hinput, houtput, horacle, hfresh, ?_, ?_, ⟨tA.amount, bankA, calls, hreadA.symm, ?_⟩, hfinal,
    ⟨price, hprice, hslippage⟩, Integration.updateRateLimitForInflow_state hi, ?_,
    ⟨_, hbookedA, fun hne => (hflows hne).1.symm⟩, ⟨_, hbookedB, fun hne => (hflows hne).2.symm⟩,
    by omega, by omega, fun hne => (hledger hne).1, fun hne => (hledger hne).2, hsigned, ?_, ?_,
    repayEntries_debit hrepaid.unsigned⟩
  · exact hrepaid.bankSteps.trans (.single ⟨_, _, hpaid.invoke⟩)
  · rw [hreadA, hsumA]
  · rw [hreadB, hsumB]
  · rw [hreadP, UInt64.ofNat_toNat]
    exact hrepaid
  · rw [hflowI]
    exact Integration.Booked.of_state.trans (.of_inflow hi)
  · intro laws hbank owner hvaultOf hne
    obtain ⟨tokenProgram, hata⟩ := hvaultOf
    -- the second transfer is of another mint, so it leaves vault A alone
    have hkept := hpaid.others laws (k := rA.vault) fun t ht => by
      rw [hrepaid.wellFormed laws hbank _ _ _ _ _ hata ht, hmint]
      exact hne
    rw [hvaultA] at hreadA hkept ⊢
    have hgained := hrepaid.gained hreadA
    show bankB.tokenAmount ctx.vaultA.pubkey = _
    rw [hkept, hgained, hreadA]
  · have hgained := hpaid.gained
    rw [hto] at hgained
    rw [hreadB]
    exact hgained

theorem processAtomicSwapRepay_done {accounts : List AccountMeta} {w w' : World} {u : Unit}
    (h : processAtomicSwapRepay accounts w = .ok (u, w')) :
    ∃ ctx es, AtomicSwapRepay.bind accounts = some ctx ∧ RepayDone ctx w w' es := by
  simp only [processAtomicSwapRepay, bind_ok, fromAccounts_ok, rejectIf_ok, read_ok, ofExcept_ok,
    ofOption_ok, IntegrationConfig.atomicSwap?_eq, IntegrationState.atomicSwap?_eq,
    Reserve.recordInflow_ok, Integration.recordInflow_ok, not_not, not_or, Prod.exists, and_assoc,
    exists_and_left, exists_eq_left', exists_const] at h
  obtain ⟨haccounts, ctx, hbind, p, _, hpl, hallowed, c, _, hcl, hlocked, _, _, hunlock, h⟩ := h
  obtain ⟨rA, _, hrAl, hvaultA, hmintA, rB, _, hrBl, hvaultB, hmintB, i, _, hil, h⟩ := h
  obtain ⟨cfg, hconfig, lent, hlent, hinput, houtput, horacle, hstarted, tA, _, htA, tB, _, htB,
    h⟩ := h
  obtain ⟨payerA, _, hpayerA, payerB, _, hpayerB, amount, -, _, hsumA, rfl, hsumB, final, deltaA, _,
    hrepayA, deltaB, _, hrepayB, h⟩ := h
  obtain ⟨o, _, hol, hfresh, price, hprice, _, hslippage, rA', hrA', _, _, hsaveA, rB', hrB', _, _,
    hsaveB, i', hi', _, _, hsaveI, _, _, hevent, hevent'⟩ := h
  obtain ⟨-, -, rfl⟩ := save_ok.mp hsaveA
  obtain ⟨-, -, rfl⟩ := save_ok.mp hsaveB
  obtain ⟨-, -, rfl⟩ := save_ok.mp hsaveI
  obtain ⟨-, rfl⟩ := emitEvent_ok hevent
  obtain ⟨-, rfl⟩ := emitEvent_ok hevent'
  obtain ⟨rfl, hp⟩ := Permission.loadAndCheck_at hpl
  obtain ⟨rfl, hc⟩ := Controller.loadAndCheck_at hcl
  obtain ⟨-, rfl, -, -, rfl⟩ := Controller.updateAndSave_ok.mp hunlock
  obtain ⟨rfl, hrA⟩ := Reserve.loadAndCheck_at hrAl
  obtain ⟨rfl, hrB⟩ := Reserve.loadAndCheck_at hrBl
  obtain ⟨rfl, hi⟩ := Integration.loadAndCheck_at hil
  obtain ⟨rfl, -, htA⟩ := TokenAccount.fromAccountInfo_ok htA
  obtain ⟨rfl, -, htB⟩ := TokenAccount.fromAccountInfo_ok htB
  obtain ⟨rfl, -, hpayerA⟩ := TokenAccount.fromAccountInfo_ok hpayerA
  obtain rfl := readOnly_tokenAccount hpayerB
  obtain ⟨hfinal, bankA, calls, hrepaid, rfl⟩ := repayInput_ok hrepayA
  obtain ⟨decimals, bankB, hpaid, rfl⟩ := repayTokens_ok hrepayB
  obtain ⟨rfl, ho, hoc, -⟩ := Oracle.loadAndCheck_at hol
  -- the accounts were loaded after the controller was saved, which is of another kind
  have hokeel : (w.setKeel ctx.controller.pubkey (.controller { c with status := .Active })).keel
      ctx.oracle.pubkey = some (.oracle o) := ho.keel
  have hparties : RepayParties ctx w c p i rA rB o :=
    ⟨haccounts.isSigner (n := 3) rfl (by obtain ⟨_, rfl⟩ := AtomicSwapRepay.bind_eq hbind; rfl)
      (.head _), hc, hlocked, hp, hallowed,
      ⟨World.keel_of_setKeel hi.keel KeelAccount.noConfusion, hi.controller, hi.seeds⟩,
      ⟨World.keel_of_setKeel hrA.keel KeelAccount.noConfusion, hrA.controller, hrA.seeds⟩, hvaultA,
      hmintA,
      ⟨World.keel_of_setKeel hrB.keel KeelAccount.noConfusion, hrB.controller, hrB.seeds⟩, hvaultB,
      ⟨World.keel_of_setKeel hokeel KeelAccount.noConfusion, ho.seeds⟩, hoc _ rfl⟩
  rw [← hvaultA] at htA
  rw [← hvaultB] at htB
  have hdone := RepayDone.done hparties (RepayRun.of_parts hvaultA hconfig hlent hstarted hinput
    houtput horacle hfresh htA htB hpayerA (UInt64.checkedAdd_eq_some.mp hsumA) hsumB hrepaid hfinal hpaid
    hvaultB.symm hmintB.symm hprice hslippage hrA' hrB' hi') ⟨hrA', hrB', hi'⟩
  refine ⟨ctx, repayEntries ctx i rA rB calls (.transferChecked (repayTransfer ctx.payer.pubkey
    ctx.payerAccountB.pubkey ctx.vaultB.pubkey ctx.mintB.pubkey ctx.tokenProgramB.pubkey amount
    decimals)) final deltaA deltaB, hbind, ?_⟩
  convert hdone using 1
  simp [repaidWorld, repayEntries, World.setKeel, World.setBank, World.addLog]

/-- The oracle and the integration that a Repay names. -/
structure RepaysAgainst (accounts : List AccountMeta) (w : World) (o : Oracle)
    (cfg : AtomicSwapConfig) : Prop where
  oracle : ∃ k, accounts[12]?.map AccountMeta.pubkey = some k ∧ w.keel k = some (.oracle o)
  integration : ∃ k i, accounts[5]?.map AccountMeta.pubkey = some k ∧
    w.keel k = some (.integration i) ∧ i.config = .AtomicSwap cfg

/-- A Repay that succeeds ran against the oracle and the integration it names. -/
theorem RepaysAgainst.run {accounts : List AccountMeta} {w w' : World} {u : Unit} {o : Oracle}
    {cfg : AtomicSwapConfig} (hagainst : RepaysAgainst accounts w o cfg)
    (h : processAtomicSwapRepay accounts w = .ok (u, w')) :
    ∃ ctx w₁ i i' lent rA rA' rB rB' final deltaA deltaB es,
      AtomicSwapRepay.bind accounts = some ctx ∧ w'.log = w.log ++ es ∧
        RepayRun ctx w w₁ i i' cfg lent rA rA' rB rB' o final deltaA deltaB es := by
  obtain ⟨⟨ko, hko, ho⟩, ki, i, hki, hi, hcfg⟩ := hagainst
  obtain ⟨ctx, es, hbind, hdone⟩ := processAtomicSwapRepay_done h
  obtain ⟨rest, rfl⟩ := AtomicSwapRepay.bind_eq hbind
  obtain rfl := Option.some.inj hko
  obtain rfl := Option.some.inj hki
  cases hdone with
  | done hparties hrun =>
    have hoat := hparties.oracle.keel
    rw [ho] at hoat
    obtain rfl := KeelAccount.oracle.inj (Option.some.inj hoat)
    have hiat := hparties.integration.keel
    rw [hi] at hiat
    obtain rfl := KeelAccount.integration.inj (Option.some.inj hiat)
    have hsame := hrun.config
    rw [hcfg] at hsame
    obtain rfl := IntegrationConfig.AtomicSwap.inj hsame
    exact ⟨_, _, _, _, _, _, _, _, _, _, _, _, _, hbind, hrun.grows.log, hrun⟩

/-- What a Repay tells of what was spent: the debit of the reserve that had lent. -/
def RepaySpends (accounts : List AccountMeta) (w w' : World) (spent : UInt64) : Prop :=
  ∃ ck kA mA es, accounts[1]?.map AccountMeta.pubkey = some ck ∧
    accounts[6]?.map AccountMeta.pubkey = some kA ∧ accounts[8]?.map AccountMeta.pubkey = some mA ∧
    w'.log = w.log ++ es ∧ .event (reserveEvent ck kA mA .Swap spent .Debit) ∈ es

/-- **What a Repay that succeeds compared**: a price of the oracle it names, and what it tells it
    spent. -/
theorem RepaysAgainst.checked {accounts : List AccountMeta} {w w' : World} {u : Unit} {o : Oracle}
    {cfg : AtomicSwapConfig} (hagainst : RepaysAgainst accounts w o cfg)
    (h : processAtomicSwapRepay accounts w = .ok (u, w')) :
    ∃ price spent received, o.getPrice cfg.oraclePriceInverted = .ok price ∧
      checkSwapSlippage spent cfg.inputMintDecimals received cfg.outputMintDecimals
        cfg.maxSlippageBps price o.precision = .ok () ∧
      ∀ n, RepaySpends accounts w w' n ↔ n = spent := by
  obtain ⟨ctx, w₁, _, _, _, _, _, _, _, final, _, received, es, hbind, hlog, hrun⟩ := hagainst.run h
  obtain ⟨rest, rfl⟩ := AtomicSwapRepay.bind_eq hbind
  obtain ⟨price, hprice, hcheck⟩ := hrun.price
  refine ⟨price, final, received, hprice, hcheck, fun n => ?_⟩
  rw [← hrun.told n]
  constructor
  · intro hspends
    obtain ⟨ck, kA, mA, es', hck, hkA, hmA, hlog', hmem⟩ := hspends
    obtain rfl := Option.some.inj hck
    obtain rfl := Option.some.inj hkA
    obtain rfl := Option.some.inj hmA
    rw [List.append_cancel_left (hlog'.symm.trans hlog)] at hmem
    exact hmem
  · intro hmem
    exact ⟨_, _, _, es, rfl, rfl, rfl, hlog, hmem⟩

/-- A Repay that succeeds names an oracle and an integration. -/
theorem RepaysAgainst.of_repay {accounts : List AccountMeta} {w w' : World} {u : Unit}
    (h : processAtomicSwapRepay accounts w = .ok (u, w')) :
    ∃ o cfg, RepaysAgainst accounts w o cfg := by
  obtain ⟨ctx, es, hbind, hdone⟩ := processAtomicSwapRepay_done h
  obtain ⟨rest, rfl⟩ := AtomicSwapRepay.bind_eq hbind
  cases hdone with
  | done hparties hrun =>
    exact ⟨_, _, ⟨_, rfl, hparties.oracle.keel⟩, _, _, rfl, hparties.integration.keel, hrun.config⟩

/-! ## Errors of a Repay -/

/-- What a Repay finds before a token moves: a locked controller, an open swap of it, and the
    two reserves. -/
structure RepayFinds (ctx : AtomicSwapRepay) (w : World) (c : Controller) (i : Integration)
    (cfg : AtomicSwapConfig) (lent : AtomicSwapState) (rA rB : Reserve) : Prop where
  controller : c.At w ctx.controller.pubkey ctx.controllerAuthority.pubkey
  locked : c.isAtomicSwapLocked
  reserveA : rA.At w ctx.controller.pubkey ctx.reserveA.pubkey
  reserveB : rB.At w ctx.controller.pubkey ctx.reserveB.pubkey
  integration : i.At w ctx.controller.pubkey ctx.integration.pubkey
  config : i.config = .AtomicSwap cfg
  state : i.state = .AtomicSwap lent
  inputToken : cfg.inputToken = rA.mint
  outputToken : cfg.outputToken = rB.mint
  started : lent.hasSwapStarted

theorem RepayRun.finds {ctx : AtomicSwapRepay} {w w₁ : World} {c : Controller} {p : Permission}
    {i i' : Integration} {cfg : AtomicSwapConfig} {lent : AtomicSwapState}
    {rA rA' rB rB' : Reserve} {o : Oracle} {final deltaA deltaB : UInt64} {es : List LogEntry}
    (hparties : RepayParties ctx w c p i rA rB o)
    (hrun : RepayRun ctx w w₁ i i' cfg lent rA rA' rB rB' o final deltaA deltaB es) :
    RepayFinds ctx w c i cfg lent rA rB :=
  ⟨hparties.controller, hparties.controllerLocked, hparties.reserveA, hparties.reserveB,
    hparties.integration, hrun.config, hrun.state, hrun.inputToken, hrun.outputToken, hrun.started⟩

section Errors

omit [Chain]

variable {e : Error}

theorem FlowError.getPrice (he : FlowError e) {o : Oracle} {invert : Bool} :
    o.getPrice invert ≠ .error e := by
  unfold Oracle.getPrice
  split
  · exact except_bind_ne (okOr_ne (he.ne rfl)) fun _ => okOr_ne (he.ne rfl)
  · exact except_pure_ne

theorem FlowError.calcSwapPrice (he : FlowError e)
    {inFactor outFactor precFactor outputAmount inputAmount : Int} :
    calcSwapPrice inFactor outFactor precFactor outputAmount inputAmount ≠ .error e := by
  refine except_bind_ne (okOr_ne (he.ne rfl)) fun _ => ?_
  split
  · exact except_bind_ne (okOr_ne (he.ne rfl)) fun _ => okOr_ne (he.ne rfl)
  · exact except_bind_ne (okOr_ne (he.ne rfl)) fun _ => except_bind_ne (okOr_ne (he.ne rfl))
      fun _ => okOr_ne (he.ne rfl)

theorem FlowError.checkSwapSlippage (he : FlowError e) {inputAmount outputAmount : UInt64}
    {inputDecimals outputDecimals : UInt8} {maxSlippageBps : UInt16} {price : Int}
    {precision : UInt32} :
    checkSwapSlippage inputAmount inputDecimals outputAmount outputDecimals maxSlippageBps price
      precision ≠ .error e := by
  unfold AlmController.checkSwapSlippage
  split
  · exact except_pure_ne
  · exact except_bind_ne (check_ne (he.ne rfl)) fun _ => except_bind_ne (okOr_ne (he.ne rfl)) fun _ =>
      except_bind_ne (okOr_ne (he.ne rfl)) fun _ => except_bind_ne (okOr_ne (he.ne rfl)) fun _ =>
        except_bind_ne he.calcSwapPrice fun _ => except_bind_ne (okOr_ne (he.ne rfl)) fun _ =>
          except_bind_ne (okOr_ne (he.ne rfl)) fun _ => check_ne (he.ne rfl)

end Errors

section Errors

variable {e : Error}

theorem FlowError.repayTokens (he : FlowError e) {payer payerAccount vault mint program : Pubkey}
    {amount balance : UInt64} :
    Avoids e (repayTokens payer payerAccount vault mint program amount balance) :=
  .bind he.mint fun _ => .bind he.invoke fun _ => .bind he.tokenAccount fun _ =>
    .ofOption (he.ne rfl)

theorem FlowError.repayInput (he : FlowError e) {ctx : AtomicSwapRepay}
    {borrowed excess balance : UInt64} : Avoids e (repayInput ctx borrowed excess balance) :=
  .ite (.bind he.repayTokens fun _ => .pure) .pure

/-- **A Repay stops with no error of the flow updates**, when the limiters it finds are
    refreshed. -/
theorem FlowError.repay (he : FlowError e) {accounts : List AccountMeta} {w : World}
    (hrefreshed : ∀ ctx c i cfg lent rA rB, RepayFinds ctx w c i cfg lent rA rB →
      rA.toRateLimit.IsRefreshed w.clock ∧ rB.toRateLimit.IsRefreshed w.clock ∧
        i.toRateLimit.IsRefreshed w.clock) :
    processAtomicSwapRepay accounts w ≠ .error e := by
  unfold processAtomicSwapRepay
  refine Avoids.bind_at (he.fromAccounts _) fun ctx _ hctx => ?_
  obtain ⟨-, -, rfl⟩ := fromAccounts_ok.mp hctx
  refine Avoids.bind_at (Avoids.read _) fun clock _ hclock => ?_
  obtain ⟨rfl, rfl⟩ := read_ok.mp hclock
  refine Avoids.bind_at (he.permission _) fun p _ hpl => ?_
  obtain ⟨rfl, -⟩ := Permission.loadAndCheck_at hpl
  refine Avoids.bind_at (Avoids.rejectIf (he.ne rfl) _) fun _ _ hmay => ?_
  obtain ⟨-, rfl⟩ := rejectIf_ok.mp hmay
  refine Avoids.bind_at (he.controller _) fun c _ hcl => ?_
  obtain ⟨rfl, hc⟩ := Controller.loadAndCheck_at hcl
  refine Avoids.bind_at (Avoids.rejectIf (he.ne rfl) _) fun _ _ hlock => ?_
  obtain ⟨hlocked, rfl⟩ := rejectIf_ok.mp hlock
  rw [not_not] at hlocked
  refine Avoids.bind_at ?_ fun c' _ hunlock => ?_
  · -- a locked controller is not active
    refine Avoids.bind_at (Avoids.ofExcept ?_ _) fun _ _ _ => ?_
    · refine except_bind_ne (fun hsame => ?_) fun _ => except_pure_ne
      have hactive : c.status = .Active := (check_error.mp hsame).1
      rw [Controller.isAtomicSwapLocked, hactive] at hlocked
      cases hlocked
    · exact Avoids.bind he.save (fun _ => .pure) _
  obtain ⟨-, rfl, -, -, rfl⟩ := Controller.updateAndSave_ok.mp hunlock
  refine Avoids.bind_at (he.reserve _) fun rA _ hrAl => ?_
  obtain ⟨rfl, hrA⟩ := Reserve.loadAndCheck_at hrAl
  refine Avoids.bind_at (Avoids.rejectIf (he.ne rfl) _) fun _ _ h => ?_
  obtain ⟨-, rfl⟩ := rejectIf_ok.mp h
  refine Avoids.bind_at (he.reserve _) fun rB _ hrBl => ?_
  obtain ⟨rfl, hrB⟩ := Reserve.loadAndCheck_at hrBl
  refine Avoids.bind_at (Avoids.rejectIf (he.ne rfl) _) fun _ _ h => ?_
  obtain ⟨-, rfl⟩ := rejectIf_ok.mp h
  refine Avoids.bind_at (he.integration _) fun i _ hil => ?_
  obtain ⟨rfl, hi⟩ := Integration.loadAndCheck_at hil
  refine Avoids.bind_at (Avoids.ofOption (he.ne rfl) _) fun cfg _ hcfg' => ?_
  obtain ⟨hcfg, rfl⟩ := ofOption_ok.mp hcfg'
  refine Avoids.bind_at (Avoids.ofOption (he.ne rfl) _) fun lent _ hlent' => ?_
  obtain ⟨hlent, rfl⟩ := ofOption_ok.mp hlent'
  refine Avoids.bind_at (Avoids.rejectIf (he.ne rfl) _) fun _ _ hmatch => ?_
  obtain ⟨htokens, rfl⟩ := rejectIf_ok.mp hmatch
  refine Avoids.bind_at (Avoids.rejectIf (he.ne rfl) _) fun _ _ hopen => ?_
  obtain ⟨hstarted, rfl⟩ := rejectIf_ok.mp hopen
  simp only [not_or, not_not] at htokens hstarted
  -- the accounts were loaded after the controller was saved, which is of another kind
  have hfinds : RepayFinds ctx w c i cfg lent rA rB :=
    ⟨hc, hlocked, ⟨World.keel_of_setKeel hrA.keel KeelAccount.noConfusion, hrA.controller, hrA.seeds⟩,
      ⟨World.keel_of_setKeel hrB.keel KeelAccount.noConfusion, hrB.controller, hrB.seeds⟩,
      ⟨World.keel_of_setKeel hi.keel KeelAccount.noConfusion, hi.controller, hi.seeds⟩,
      IntegrationConfig.atomicSwap?_eq.mp hcfg, IntegrationState.atomicSwap?_eq.mp hlent, htokens.1,
      htokens.2.1, hstarted⟩
  obtain ⟨hA, hB, hI⟩ := hrefreshed _ _ _ _ _ _ _ hfinds
  refine Avoids.bind he.tokenAccount (fun _ => .bind he.tokenAccount fun _ =>
    .bind he.tokenAccount fun _ => .bind he.tokenAccount fun _ => .bind (.ofOption (he.ne rfl)) fun _ =>
      .bind (.ofOption (he.ne rfl)) fun _ => .bind (.rejectIf (he.ne rfl)) fun _ => ?_) _
  refine .bind he.repayInput fun ⟨final, deltaA⟩ => .bind he.repayTokens fun deltaB => ?_
  refine .bind he.oracle fun _ => .bind (.rejectIf (he.ne rfl)) fun _ => .bind (.ofExcept he.getPrice)
    fun _ => .bind (.ofExcept he.checkSwapSlippage) fun _ => ?_
  refine .bind (he.reserveInflow hA) fun _ => .bind he.save fun _ => .bind (he.reserveInflow hB)
    fun _ => .bind he.save fun _ => .bind (Integration.recordInflow_avoids hI) fun _ =>
      .bind he.save fun _ => ?_
  exact .bind he.emitEvent fun _ => he.emitEvent

end Errors

end AlmController
