import AlmController.Simulator
import AlmController.Spec.Settled

/-!
# The net effect of a swap

Borrow charges three limiters' worth of accounts, Repay credits them, and neither looks at what
the other did. Between the two nothing is refreshed, so what counts is that a credit undoes a
charge: an amount that was taken from a limiter and comes back never meets the cap, because a
limiter holds no more than its maximum to begin with. On side B nothing was taken, and the cap
applies.

The two cannot miss each other either. What a Repay finds with its controller locked is what a
Borrow of the same transaction left, at the same clock; so the guards of the flow updates hold,
whichever Repay it is, and wherever in the transaction it is called.

`swap_net_effect` is about committed transactions. What came back and what was paid are measured in
the vaults and not taken from the arguments, so fees and donations within the Repay are part of
the amounts. When more comes back than was lent, the first part says nothing, as the credit may
then meet the cap of side A as well. The second part is about any Repay, whether it succeeds or
not.
-/

namespace AlmController

open Prog

/-! ## A charge and a credit -/

section Charges

variable {clock : Clock} {l l₁ l₂ : RateLimit} {r r₁ r₂ : Reserve} {i i₁ i₂ : Integration}
  {b d : UInt64}

/-- **A credit undoes a charge.** The cap takes nothing from what comes back. -/
theorem RateLimit.charge_credit (hcapped : l.Capped) (hout : l.outflow clock b false = .ok l₁)
    (hin : l₁.inflow clock d = .ok l₂) (hle : d ≤ b) :
    ∃ available : UInt64, l₂ = { l with rateLimitOutflowAmountAvailable := available } ∧
      available.toNat + (b.toNat - d.toNat) = l.rateLimitOutflowAmountAvailable.toNat := by
  obtain ⟨-, charged, rfl, -, hcharged⟩ := outflow_ok hout
  obtain ⟨-, rfl⟩ := inflow_ok hin
  refine ⟨_, rfl, ?_⟩
  have hsum := hcharged rfl
  have hback : d.toNat ≤ b.toNat := UInt64.le_iff_toNat_le.mp hle
  -- what was available before the charge was within the maximum, so what comes back is too
  have hmax := l.rateLimitMaxOutflow.toNat_lt_pow
  unfold Capped at hcapped
  rw [UInt64.toNat_min, UInt64.toNat_saturatingAdd]
  show min l.rateLimitMaxOutflow.toNat (min (charged.toNat + d.toNat) (2 ^ 64 - 1)) +
    (b.toNat - d.toNat) = l.rateLimitOutflowAmountAvailable.toNat
  omega

/-- The same of a reserve, whose recorded balance moves along. -/
theorem Reserve.charge_credit (hcapped : r.toRateLimit.Capped)
    (hout : r.updateForOutflow clock b false = .ok r₁) (hin : r₁.updateForInflow clock d = .ok r₂)
    (hle : d ≤ b) :
    ∃ available last : UInt64,
      r₂ = { r with rateLimitOutflowAmountAvailable := available, lastBalance := last } ∧
        available.toNat + (b.toNat - d.toNat) = r.rateLimitOutflowAmountAvailable.toNat ∧
          last.toNat + (b.toNat - d.toNat) = r.lastBalance.toNat := by
  simp only [updateForOutflow, except_bind_ok, okOr_ok, except_pure_ok,
    UInt64.checkedSub_eq_some] at hout
  obtain ⟨l₁, hl₁, charged, hcharged, rfl⟩ := hout
  simp only [updateForInflow, except_bind_ok, okOr_ok, except_pure_ok,
    UInt64.checkedAdd_eq_some] at hin
  obtain ⟨l₂, hl₂, last, hlast, rfl⟩ := hin
  obtain ⟨available, rfl, havailable⟩ := RateLimit.charge_credit hcapped hl₁ hl₂ hle
  refine ⟨available, last, rfl, havailable, ?_⟩
  have hback : d.toNat ≤ b.toNat := UInt64.le_iff_toNat_le.mp hle
  omega

/-- And of an integration, which has no balance, but the state of the swap. -/
theorem Integration.charge_credit {opened closed : IntegrationState} (hcapped : i.toRateLimit.Capped)
    (hout : Integration.updateRateLimitForOutflow { i with state := opened } clock b = .ok i₁)
    (hin : Integration.updateRateLimitForInflow { i₁ with state := closed } clock d = .ok i₂)
    (hle : d ≤ b) :
    ∃ available : UInt64,
      i₂ = { i with rateLimitOutflowAmountAvailable := available, state := closed } ∧
        available.toNat + (b.toNat - d.toNat) = i.rateLimitOutflowAmountAvailable.toNat := by
  simp only [updateRateLimitForOutflow, except_bind_ok, except_pure_ok] at hout
  obtain ⟨l₁, hl₁, rfl⟩ := hout
  simp only [updateRateLimitForInflow, except_bind_ok, except_pure_ok] at hin
  obtain ⟨l₂, hl₂, rfl⟩ := hin
  obtain ⟨available, rfl, havailable⟩ := RateLimit.charge_credit hcapped hl₁ hl₂ hle
  exact ⟨available, rfl, havailable⟩

/-- Where nothing was charged, the cap applies. -/
theorem Reserve.credit (hin : r.updateForInflow clock d = .ok r₁) :
    ∃ available last : UInt64,
      r₁ = { r with rateLimitOutflowAmountAvailable := available, lastBalance := last } ∧
        available.toNat = min r.rateLimitMaxOutflow.toNat
          (r.rateLimitOutflowAmountAvailable.toNat + d.toNat) ∧
          last.toNat = r.lastBalance.toNat + d.toNat := by
  simp only [updateForInflow, except_bind_ok, okOr_ok, except_pure_ok,
    UInt64.checkedAdd_eq_some] at hin
  obtain ⟨l, hl, last, hlast, rfl⟩ := hin
  obtain ⟨-, rfl⟩ := RateLimit.inflow_ok hl
  refine ⟨_, last, rfl, ?_, hlast⟩
  have hmax := r.rateLimitMaxOutflow.toNat_lt_pow
  rw [UInt64.toNat_min, UInt64.toNat_saturatingAdd]
  omega

end Charges

/-! ## The accounts of a swap -/

variable [Chain]

variable {t : Transaction} {tx : TxContext} {accounts : List AccountMeta} {data : List UInt8}
  {w w' : World} {s r : Step World Move} {m : Move}

/-- What a Borrow makes of the accounts before it charges them: the reserves synced, all three
    limiters refreshed. -/
structure Prepared (ctx : AtomicSwapBorrow) (w : World) (c : Controller) (sA sB : Reserve)
    (si : Integration) : Prop where
  controller : w.keel ctx.controller.pubkey = some (.controller c)
  reserves : ∃ rA rB wA wB, w.keel ctx.reserveA.pubkey = some (.reserve rA) ∧
    w.keel ctx.reserveB.pubkey = some (.reserve rB) ∧
    rA.syncBalance ctx.vaultA ctx.controllerAuthority.pubkey ctx.controller.pubkey c w =
      .ok (sA, wA) ∧
    rB.syncBalance ctx.vaultB ctx.controllerAuthority.pubkey ctx.controller.pubkey c wA =
      .ok (sB, wB)
  integration : ∃ i, w.keel ctx.integration.pubkey = some (.integration i) ∧
    i.refreshRateLimit w.clock = .ok si

/-- **What a swap leaves**, when `b` was lent, `d` of it came back, and `e` was paid for the
    rest: the accounts as they were prepared, but for these fields. -/
structure NetEffect (ctx : AtomicSwapBorrow) (w' : World) (c : Controller) (sA sB : Reserve)
    (si : Integration) (b d e : Nat) : Prop where
  reserveA : ∃ available last : UInt64, w'.keel ctx.reserveA.pubkey = some (.reserve
      { sA with rateLimitOutflowAmountAvailable := available, lastBalance := last }) ∧
    available.toNat + (b - d) = sA.rateLimitOutflowAmountAvailable.toNat ∧
    last.toNat + (b - d) = sA.lastBalance.toNat
  reserveB : ∃ available last : UInt64, w'.keel ctx.reserveB.pubkey = some (.reserve
      { sB with rateLimitOutflowAmountAvailable := available, lastBalance := last }) ∧
    available.toNat =
      min sB.rateLimitMaxOutflow.toNat (sB.rateLimitOutflowAmountAvailable.toNat + e) ∧
    last.toNat = sB.lastBalance.toNat + e
  integration : ∃ available : UInt64, w'.keel ctx.integration.pubkey = some (.integration
      { si with rateLimitOutflowAmountAvailable := available, state := .AtomicSwap .closed }) ∧
    available.toNat + (b - d) = si.rateLimitOutflowAmountAvailable.toNat
  controller : c.isActive ∧ w'.keel ctx.controller.pubkey = some (.controller c)
  /-- A full return restores all three accounts. -/
  restored : d = b → e = 0 → w'.keel ctx.reserveA.pubkey = some (.reserve sA) ∧
    w'.keel ctx.reserveB.pubkey = some (.reserve sB) ∧
      w'.keel ctx.integration.pubkey = some (.integration si)

namespace SwapPair

/-- How the accounts of a pair were prepared, and that no limiter of theirs exceeds its
    maximum. -/
theorem prepared (x : SwapPair tx s r) (hs : Reachable s.before) :
    ∃ sA si, Prepared x.ctx s.before x.c sA x.rBL si ∧ sA.vault = x.rA.vault ∧
      sA.updateForOutflow s.before.clock x.amount false = .ok x.rAL ∧
      Integration.updateRateLimitForOutflow { si with state := .AtomicSwap x.lent }
        s.before.clock x.amount = .ok x.iL ∧
      sA.toRateLimit.Capped ∧ x.rBL.toRateLimit.Capped ∧ si.toRateLimit.Capped ∧
        si.state = .AtomicSwap x.idle := by
  -- the accounts as the Borrow charges them: after its two syncs, and a refresh
  obtain ⟨sA, wA, wB, hsyncA, hsyncB, hcharge⟩ := x.charges.synced
  obtain ⟨si, hrefresh, hlend⟩ := x.charges.refreshed
  have hparties := x.borrowParties
  obtain ⟨-, -, _, -, -, hsynced⟩ := Reserve.syncBalance_ok hparties.reserveA.seeds hsyncA
  obtain ⟨_, hrun⟩ := hsynced.run
  refine ⟨sA, si, ⟨hparties.controller.keel, ⟨_, _, wA, wB, hparties.reserveA.keel,
    hparties.reserveB.keel, hsyncA, hsyncB⟩, _, hparties.integration.keel, hrefresh⟩,
    hrun.booked.vault_eq, hcharge, hlend, ?_, ?_, ?_, ?_⟩
  -- no step of a limiter takes it over its maximum
  · exact (hs.capped (limiterOf_reserve hparties.reserveA.keel)).steps hrun.booked.steps
  · obtain ⟨_, hbooked, -⟩ := x.borrowRun.reserveB
    exact (hs.capped (limiterOf_reserve hparties.reserveB.keel)).steps hbooked.steps
  · exact (hs.capped (limiterOf_integration hparties.integration.keel)).steps
      (Integration.Booked.of_refresh hrefresh).steps
  · simp only [Integration.refreshRateLimit, except_bind_ok, except_pure_ok] at hrefresh
    obtain ⟨_, -, rfl⟩ := hrefresh
    exact x.borrowRun.state

/-- The controller that the Repay unlocks is the one that the Borrow locked. -/
theorem controller_restored (x : SwapPair tx s r) :
    x.c.isActive ∧ { x.c' with status := .Active } = x.c := by
  have hactive : x.c.isActive := x.borrowParties.controllerActive
  refine ⟨hactive, ?_⟩
  -- the lock stood until the Repay, and everything but the status is as it was
  have hkept := x.holdings.controller
  rw [x.lent_saved.controller, ← x.controller_eq, x.repayParties.controller.keel] at hkept
  rw [KeelAccount.controller.inj (Option.some.inj hkept)]
  rw [Controller.isActive] at hactive
  rw [← hactive]

/-- **The net effect of a pair.** -/
theorem netEffect (x : SwapPair tx s r) (hs : Reachable s.before)
    (hsettled : SettledAt s.before x.ctx.integration.pubkey) :
    ∃ sA si, Prepared x.ctx s.before x.c sA x.rBL si ∧ sA.vault = x.rA.vault ∧
      (x.deltaA ≤ x.amount → NetEffect x.ctx r.after x.c sA x.rBL si x.amount.toNat
        x.deltaA.toNat x.deltaB.toNat) := by
  obtain ⟨sA, si, hprepared, hvault, hcharge, hlend, hcapA, hcapB, hcapI, hidle⟩ := x.prepared hs
  refine ⟨sA, si, hprepared, hvault, fun hle => ?_⟩
  have hcredits := x.credits
  have hsaved := x.repaid_saved
  obtain ⟨hclosed, hreset⟩ := x.closed hsettled
  have hA := hcredits.reserveA
  have hB := hcredits.reserveB
  have hI := hcredits.integration
  -- charge and credit are at one clock
  rw [x.clock_eq] at hA hB hI
  obtain ⟨availableA, lastA, hrA, havailableA, hlastA⟩ := Reserve.charge_credit hcapA hcharge hA hle
  obtain ⟨availableB, lastB, hrB, havailableB, hlastB⟩ := Reserve.credit hB
  obtain ⟨availableI, hi, havailableI⟩ := Integration.charge_credit hcapI hlend hI hle
  rw [hreset] at hi
  have hkeelA := hsaved.reserveA x.key_ne
  have hkeelB := hsaved.reserveB
  have hkeelI := hsaved.integration
  obtain ⟨hactive, hcontroller⟩ := x.controller_restored
  refine ⟨⟨availableA, lastA, hrA ▸ hkeelA, havailableA, hlastA⟩,
    ⟨availableB, lastB, hrB ▸ hkeelB, havailableB, hlastB⟩, ⟨availableI, hi ▸ hkeelI, havailableI⟩,
    ⟨hactive, hcontroller ▸ hsaved.controller⟩, ?_⟩
  -- a full return: every field that a swap writes has the value it had
  intro hd he
  rw [hkeelA, hkeelB, hkeelI, hrA, hrB, hi]
  unfold RateLimit.Capped at hcapB
  have hA₁ : availableA = sA.rateLimitOutflowAmountAvailable := UInt64.toNat_inj.mp (by omega)
  have hA₂ : lastA = sA.lastBalance := UInt64.toNat_inj.mp (by omega)
  have hB₁ : availableB = x.rBL.rateLimitOutflowAmountAvailable := UInt64.toNat_inj.mp (by omega)
  have hB₂ : lastB = x.rBL.lastBalance := UInt64.toNat_inj.mp (by omega)
  have hI₁ : availableI = si.rateLimitOutflowAmountAvailable := UInt64.toNat_inj.mp (by omega)
  rw [hclosed] at hidle
  rw [hA₁, hA₂, hB₁, hB₂, hI₁, ← hidle]
  exact ⟨rfl, rfl, rfl⟩

end SwapPair

/-! ## Errors of a Repay -/

/-- **What a Repay finds is refreshed**, wherever in a transaction it is called: a Borrow of the
    same transaction left it, at the same clock. -/
theorem RepayFinds.isRefreshed {steps : List (Step World Move)} {rest : List Move}
    {ctx' : AtomicSwapRepay} {c' : Controller} {i' : Integration} {cfg' : AtomicSwapConfig}
    {lent' : AtomicSwapState} {rA' rB' : Reserve} (hw : Committed w)
    (htrace : Trace Moves w steps w') (hmoves : t.moves = steps.map Step.move ++ m :: rest)
    (hfinds : RepayFinds ctx' w' c' i' cfg' lent' rA' rB') :
    rA'.toRateLimit.IsRefreshed w'.clock ∧ rB'.toRateLimit.IsRefreshed w'.clock ∧
      i'.toRateLimit.IsRefreshed w'.clock := by
  obtain ⟨pre, s, mid, _, _, ctx, amount, es, rfl, hborrows⟩ := hfinds.borrows hw htrace hmoves
  obtain ⟨c, p, i, iL, cfg, idle, lent, rA, rAL, rB, rBL, wL, hparties, hrun, hcharges, hafter⟩ :=
    hborrows.done.parts
  -- the Borrow saved its accounts refreshed
  have hsaved : SwapSaved s.before s.after ctx.controller.pubkey ctx.integration.pubkey
      ctx.reserveA.pubkey ctx.reserveB.pubkey { c with status := .AtomicSwapLock } iL rAL rBL := by
    rw [hafter]
    exact (hrun.swapAccounts hparties).saved_borrow hrun.grows.keel
  -- what the Repay finds is what was saved, and no time has passed
  obtain ⟨-, -, -, -, rfl, -, -, rfl, rfl⟩ := hfinds.of_borrow hborrows.reachable.sound hparties
    hrun hsaved hborrows.run hborrows.ordinary hborrows.key
  rw [hborrows.clock]
  exact hcharges.isRefreshed hparties

/-- **The net effect of a complete swap**, and the errors that its Repay cannot meet. What came
    back and what was paid are measured in the vaults, from the entry of the Repay to the end of
    the transaction. -/
theorem swap_net_effect (laws : TokenLaws) :
    (∀ {w w' : World} {t : Transaction} {pre post : List (Step World Move)} {s : Step World Move},
      Committed w → Commits w t (pre ++ s :: post) w' → IsBorrow s →
      ∃ tx accounts b ctx mid r tx' accounts' data' c sA sB si,
        s.move = .call tx accounts (15 :: Borsh.write (AtomicSwapBorrowArgs.mk b)) ∧
        AtomicSwapBorrow.bind accounts = some ctx ∧ post = mid ++ [r] ∧
        r.move = .call tx' accounts' (16 :: data') ∧ Prepared ctx s.before c sA sB si ∧
        accounts[6]?.map AccountMeta.pubkey = some sA.vault ∧
        accounts[9]?.map AccountMeta.pubkey = some sB.vault ∧
        ∃ d e : Nat,
          w'.bank.tokenAmount sA.vault = r.before.bank.tokenAmount sA.vault + d ∧
          w'.bank.tokenAmount sB.vault = r.before.bank.tokenAmount sB.vault + e ∧
          (d ≤ b.toNat → NetEffect ctx w' c sA sB si b.toNat d e)) ∧
    -- whichever Repay it is, and wherever in the transaction
    (∀ {w w' : World} {t : Transaction} {steps : List (Step World Move)} {tx : TxContext}
      {accounts : List AccountMeta} {data : List UInt8} {rest : List Move} {e : Error},
      Committed w → Trace Moves w steps w' →
      t.moves = steps.map Step.move ++ .call tx accounts (16 :: data) :: rest → FlowError e →
      processInstruction tx accounts (16 :: data) w' ≠ .error e) := by
  refine ⟨?_, ?_⟩
  · intro w w' t pre post s hw h hborrow
    -- the transaction is that of a swap, and its two ends are a pair
    obtain ⟨i, last, borrow, repay, mid, r, hswap⟩ := h.swap hw.reachable hborrow
    obtain ⟨x⟩ := hswap.pair
    obtain ⟨accounts, hmove, hbind⟩ := x.borrowMove
    obtain ⟨hvaultA, hvaultB⟩ := x.vaults hbind
    obtain ⟨tx', accounts', data', hmove', -⟩ := x.repayMove
    have hpre := h.1.split_cons.1
    -- no swap was open when the Borrow began
    have hsettled : SettledAt s.before x.ctx.integration.pubkey :=
      Moves.settledAt_run hpre hswap.before (hw.settled _)
    obtain ⟨sA, si, hprepared, hvault, hnet⟩ := x.netEffect (hw.reachable.trace hpre) hsettled
    refine ⟨_, accounts, x.amount, x.ctx, mid, r, tx', accounts', data', x.c, sA, x.rBL, si, hmove,
      hbind, hswap.after, hmove', hprepared, ?_, ?_, x.deltaA.toNat, x.deltaB.toNat, ?_, ?_, ?_⟩
    · rw [hvault]
      exact hvaultA
    · rw [x.vaultB_eq]
      exact hvaultB
    · rw [hvault, ← hswap.after_eq h.1]
      exact x.vaultA_repaid laws (hswap.reachable hw.reachable h.1)
    · rw [x.vaultB_eq, ← hswap.after_eq h.1]
      exact x.vaultB_repaid
    · intro hle
      rw [← hswap.after_eq h.1]
      exact hnet (UInt64.le_iff_toNat_le.mpr hle)
  · intro w w' t steps tx accounts data rest e hw htrace hmoves he
    exact he.repay fun _ _ _ _ _ _ _ hfinds => hfinds.isRefreshed hw htrace hmoves

end AlmController

namespace AlmController

open Simulator

/-- The example swap borrows 100 tokens, returns 40 of them and pays 60 for the rest. -/
theorem swap_net_effect_example :
    ∃ (s between r : Step World Move) (w' : World) (ctx : AtomicSwapBorrow) (c : Controller)
      (sA sB : Reserve) (si : Integration),
      Commits (swapWorld evenPrice) (swap (swapWorld evenPrice) 100 (sale 60 60)) [s, between, r]
        w' ∧
      Prepared ctx (swapWorld evenPrice) c sA sB si ∧ NetEffect ctx w' c sA sB si 100 40 60 ∧
      ∃ tx, processInstruction tx repay.accounts repay.data r.before ≠
        .error SvmAlmControllerErrors.RateLimited := by
  obtain ⟨steps, w', hcommits, hcomputed⟩ := @swap_commits_steps evenPrice 100 (sale 60 60) _
    (fun x => (x.1.map fun s => (s.before.bank.tokenAmount (vaultKey mintA),
      s.before.bank.tokenAmount (vaultKey mintB)), x.2.bank.tokenAmount (vaultKey mintA),
        x.2.bank.tokenAmount (vaultKey mintB)))
    ([(500, 200), (400, 200), (400, 200)], 440, 260) (by decide +kernel)
  obtain ⟨hbefore, hafter⟩ := Prod.mk.inj hcomputed
  obtain ⟨hafterA, hafterB⟩ := Prod.mk.inj hafter
  obtain ⟨s, between, r, tx, tx', rfl, hs, hr⟩ := swap_steps hcommits
  have hentry := (List.cons.inj (List.cons.inj (List.cons.inj hbefore).2).2).1
  obtain ⟨hentryA, hentryB⟩ := Prod.mk.inj hentry
  have hborrow : IsBorrow s := ⟨_, _, Borsh.write (AtomicSwapBorrowArgs.mk 100), hs⟩
  obtain ⟨hnetEffect, hnoError⟩ := @swap_net_effect chain tokenLaws
  obtain ⟨_, accounts, b, ctx, mid, r', _, _, _, c, sA, sB, si, hs', -, hpost, -, hprepared, hA, hB,
    d, e, hd, he, hnet⟩ :=
    @hnetEffect _ _ _ [] _ _ swapWorld_attained.committed hcommits hborrow
  -- the Borrow and the Repay are those of the example
  obtain ⟨-, rfl, hdata⟩ := Move.call.inj (hs.symm.trans hs')
  have hb : Borsh.write (AtomicSwapBorrowArgs.mk 100) = Borsh.write (AtomicSwapBorrowArgs.mk b) :=
    (List.cons.inj hdata).2
  obtain rfl := AtomicSwapBorrowArgs.mk.inj (Borsh.write_injective hb)
  obtain ⟨-, hlast⟩ := List.append_inj' (show [between] ++ [r] = mid ++ [r'] from hpost) rfl
  obtain rfl := (List.cons.inj hlast).1
  obtain hvaultA := Option.some.inj hA
  obtain hvaultB := Option.some.inj hB
  rw [← hvaultA] at hd
  rw [← hvaultB] at he
  have hd' : 440 = 400 + d := hafterA.symm.trans (hd.trans (congrArg (· + d) hentryA))
  have he' : 260 = 200 + e := hafterB.symm.trans (he.trans (congrArg (· + e) hentryB))
  obtain rfl : d = 40 := by omega
  obtain rfl : e = 60 := by omega
  rw [hcommits.1.eq_head] at hprepared
  refine ⟨s, between, r, w', ctx, c, sA, sB, si, hcommits, hprepared, hnet (by decide), tx', ?_⟩
  have hsplit : Trace Moves (swapWorld evenPrice) ([s, between] ++ r :: []) w' := hcommits.1
  have hmoves : (swap (swapWorld evenPrice) 100 (sale 60 60)).moves =
      [s, between].map Step.move ++ .call tx' repay.accounts repay.data :: [] := by
    rw [← hcommits.2, ← hr]
    rfl
  exact hnoError swapWorld_attained.committed hsplit.split_cons.1 hmoves .rateLimited

end AlmController
