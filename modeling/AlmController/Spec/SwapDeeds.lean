import AlmController.Spec.Deeds
import AlmController.Spec.Swap

/-!
# The deeds of a swap

Borrow and Repay save three accounts and the controller. The controller goes to `AtomicSwapLock`
and comes back, which its settings do not show.

What the four entries of a swap have in common is that the books they are checked against are kept
for one integration and two reserves. A Borrow signs for its loan, which has to obey the
configuration; a Repay signs for nothing, as the tokens that come back are the payer's.
-/

namespace AlmController

open Prog

variable [Chain]

variable {tx : TxContext} {accounts : List AccountMeta} {data : List UInt8} {w w₁ w' : World}
  {u : Unit} {ck k : Pubkey}

/-! ## The controllers that are named -/

section Names

omit [Chain]

theorem AtomicSwapBorrow.names {ctx : AtomicSwapBorrow}
    (h : AtomicSwapBorrow.bind accounts = some ctx) :
    Names accounts ctx.controller.pubkey := by
  obtain ⟨rest, rfl⟩ := AtomicSwapBorrow.bind_eq h
  exact .of_mem (.head _)

theorem AtomicSwapRepay.names {ctx : AtomicSwapRepay}
    (h : AtomicSwapRepay.bind accounts = some ctx) :
    Names accounts ctx.controller.pubkey := by
  obtain ⟨rest, rfl⟩ := AtomicSwapRepay.bind_eq h
  exact .of_mem (.tail _ (.head _))

end Names

/-! ## Borrow -/

/-- The books of a swap. -/
def swapBooks (ck ik kA kB : Pubkey) (i : Integration) (rA rB : Reserve) : Books where
  controller := ck
  integrations := [(ik, i)]
  reserves := [(kA, rA), (kB, rB)]

section Swap

variable {ik kA kB authority : Pubkey} {c : Controller} {i i' : Integration} {rA rB : Reserve}

/-- They are kept for accounts of one controller. -/
theorem swapBooks_in (hc : c.At w ck authority) (hi : i.At w ck ik) (hid : i'.limiterId = i.limiterId)
    (hA : rA.At w ck kA) (hB : rB.At w ck kB) : (swapBooks ck ik kA kB i' rA rB).In w := by
  refine ⟨⟨c, hc.keel⟩, List.forall_mem_singleton.mpr ⟨i, hi.keel, hi.controller, hid.symm⟩, ?_⟩
  refine List.forall_mem_cons.mpr ⟨⟨rA, hA.keel, hA.controller, rfl⟩, ?_⟩
  exact List.forall_mem_singleton.mpr ⟨rB, hB.keel, hB.controller, rfl⟩

end Swap

def AtomicSwapBorrow.books (ctx : AtomicSwapBorrow) : Integration → Reserve → Reserve → Books :=
  swapBooks ctx.controller.pubkey ctx.integration.pubkey ctx.reserveA.pubkey ctx.reserveB.pubkey

/-- What a Borrow may write. -/
abbrev LendEntry (ctx : AtomicSwapBorrow) (c : Controller) (i refreshed : Integration)
    (rA rB : Reserve) : LogEntry → Prop :=
  Entry (ctx.books refreshed rA rB) (Cpi.Obeys i.config c.authority ctx.authority.pubkey rA)

/-- What a Borrow writes: two syncs, the transfer, and the two outflows. -/
theorem processAtomicSwapBorrow_logs {ctx : AtomicSwapBorrow}
    (hbind : AtomicSwapBorrow.bind accounts = some ctx) (hbank : TokenLaws → w.bank.WellFormed)
    (h : processAtomicSwapBorrow tx accounts data w = .ok (u, w')) :
    Logs (fun e => e.Authentic w ctx.controller.pubkey ∧ e.update? = none) w w' := by
  simp only [processAtomicSwapBorrow, bind_ok, fromAccounts_ok, parseArgs_ok, rejectIf_ok, read_ok,
    ofExcept_ok, ofOption_ok, IntegrationConfig.atomicSwap?_eq, not_not, not_or, hbind,
    Option.some.injEq, and_assoc, exists_and_left, exists_eq_left', exists_const] at h
  obtain ⟨-, args, -, c, _, hcl, -, p, _, hpl, -, rA, _, hrAl, hvaultA, hmintA, -, h⟩ := h
  obtain ⟨rB, _, hrBl, -, -, sA, wA, hsyncA, sB, wB, hsyncB, i, _, hil, -, refreshed, h⟩ := h
  obtain ⟨hrefresh, cfg, hconfig, idle, -, hinput, -, -, -, tA, _, htA, tB, _, htB, h⟩ := h
  obtain ⟨-, -, ra, _, hra, rb, _, hrb, -, -, mint, _, hmint, _, w₁, htransfer, _, -, h⟩ := h
  obtain ⟨rA', _, hlendA, _, _, hsaveA, _, _, hsaveB, i', _, hlendI, _, _, hsaveI, _, w₂, hlock, h⟩ := h
  obtain rfl : w₂ = w' := (pure_ok.mp h).2
  obtain ⟨rfl, hc⟩ := Controller.loadAndCheck_at hcl
  obtain ⟨rfl, hp⟩ := Permission.loadAndCheck_at hpl
  obtain ⟨rfl, hA⟩ := Reserve.loadAndCheck_at hrAl
  obtain ⟨rfl, hB⟩ := Reserve.loadAndCheck_at hrBl
  obtain ⟨rfl, hi⟩ := Integration.loadAndCheck_at hil
  obtain rfl := readOnly_tokenAccount htA
  obtain rfl := readOnly_tokenAccount htB
  obtain rfl := readOnly_tokenAccount hra
  obtain rfl := readOnly_tokenAccount hrb
  obtain rfl := readOnly_mint hmint
  obtain ⟨-, -, _, -, -, hsyncedA⟩ := Reserve.syncBalance_ok hA.seeds hsyncA
  obtain ⟨-, -, _, -, -, hsyncedB⟩ := Reserve.syncBalance_ok hB.seeds hsyncB
  obtain ⟨_, hsyncedA⟩ := hsyncedA.run
  obtain ⟨_, hsyncedB⟩ := hsyncedB.run
  have hkeel : wB.keel = w.keel := hsyncedB.grows.keel.trans hsyncedA.grows.keel
  have hi : i.At w ctx.controller.pubkey ctx.integration.pubkey :=
    ⟨hkeel ▸ hi.keel, hi.controller, hi.seeds⟩
  rw [hsyncedA.booked.mint_eq] at hinput
  have hobeys : ∀ {decimals}, Cpi.Obeys i.config c.authority ctx.authority.pubkey rA
      (.transferChecked
        { fromAccount := ctx.vaultA.pubkey
          mint := ctx.mintA.pubkey
          toAccount := ctx.recipientTokenAccountA.pubkey
          authority := ctx.controllerAuthority.pubkey
          amount := args.amount
          decimals := decimals
          tokenProgram := ctx.tokenProgramA.pubkey }) := by
    intro decimals
    rw [← Integration.refreshRateLimit_config hrefresh, hconfig]
    exact ⟨hvaultA.symm, (hinput.trans hmintA).symm, hinput.symm, hc.authority.symm⟩
  have hlogs : Logs (LendEntry ctx c i refreshed rA rB) w w₂ := by
    obtain ⟨hbank, hlogs₁⟩ : _ ∧ Logs (LendEntry ctx c i refreshed rA rB) w wA :=
      writes_syncBalance hA.seeds (.head _) hbank hsyncA
    obtain ⟨hbank, hlogs₂⟩ : _ ∧ Logs (LendEntry ctx c i refreshed rA rB) wA wB :=
      writes_syncBalance hB.seeds (.tail _ (.head _)) hbank hsyncB
    obtain ⟨hbank, hlogs₃⟩ := writes_invokeSigned (P := LendEntry ctx c i refreshed rA rB)
      (.signed hobeys) hbank htransfer
    obtain ⟨hbank, hlogs₄⟩ := writes_reserveOutflow (b := ctx.books refreshed rA rB) (.head _)
      (Reserve.syncBalance_limiterId hA.seeds hsyncA) hbank hlendA
    obtain ⟨hbank, hlogs₅⟩ := writes_save (P := LendEntry ctx c i refreshed rA rB) hbank hsaveA
    obtain ⟨hbank, hlogs₆⟩ := writes_save (P := LendEntry ctx c i refreshed rA rB) hbank hsaveB
    obtain ⟨hbank, hlogs₇⟩ := writes_integrationOutflow (b := ctx.books refreshed rA rB) (.head _)
      (by exact rfl) hbank
      hlendI
    obtain ⟨hbank, hlogs₈⟩ := writes_save (P := LendEntry ctx c i refreshed rA rB) hbank hsaveI
    obtain ⟨-, hlogs₉⟩ := writes_updateAndSave (P := LendEntry ctx c i refreshed rA rB) hbank hlock
    exact hlogs₁.trans <| hlogs₂.trans <| hlogs₃.trans <| hlogs₄.trans <| hlogs₅.trans <|
      hlogs₆.trans <| hlogs₇.trans <| hlogs₈.trans hlogs₉
  refine hlogs.mono fun e he => Entry.authentic he
    (swapBooks_in hc hi (Integration.refreshRateLimit_limiterId hrefresh) hA hB) ?_
  intro call hcall _
  exact .intro hc.keel hi.keel hi.controller hA.keel hA.controller
    (fun _ => ⟨_, p, hp.keel, hp.controller, hp.authority⟩) hcall

/-- A Borrow is a deed: four accounts are saved, and each kept its settings. -/
theorem processAtomicSwapBorrow_deed (hbank : TokenLaws → w.bank.WellFormed)
    (h : processAtomicSwapBorrow tx accounts data w = .ok (u, w')) : Acted accounts w w' := by
  obtain ⟨ctx, args, es, hbind, -, hdone⟩ := processAtomicSwapBorrow_done h
  have hlogs := processAtomicSwapBorrow_logs hbind hbank h
  cases hdone with
  | @done c p i i' cfg idle lent rA rA' rB rB' w₁ _ hparties hrun _ =>
    obtain ⟨_, hbookedA, -⟩ := hrun.reserveA
    obtain ⟨_, hbookedB, -⟩ := hrun.reserveB
    refine ⟨ctx.controller.pubkey, AtomicSwapBorrow.names hbind, ?_⟩
    show ∃ es, Deed _ w (w₁.saves [(ctx.reserveA.pubkey, .reserve rA'),
      (ctx.reserveB.pubkey, .reserve rB'), (ctx.integration.pubkey, .integration i'),
      (ctx.controller.pubkey, .controller { c with status := .AtomicSwapLock })]) es
    apply Deed.of_logs hrun.grows.keel hlogs
    refine List.forall_mem_cons.mpr ⟨.reserve hparties.reserveA hbookedA, ?_⟩
    refine List.forall_mem_cons.mpr ⟨.reserve hparties.reserveB hbookedB, ?_⟩
    refine List.forall_mem_cons.mpr ⟨.integration hparties.integration hrun.integration ?_, ?_⟩
    · rw [hrun.state, hrun.state']
      rfl
    · exact List.forall_mem_singleton.mpr (.lock hparties.controller hparties.controllerActive)

/-! ## Repay -/

def AtomicSwapRepay.books (ctx : AtomicSwapRepay) : Integration → Reserve → Reserve → Books :=
  swapBooks ctx.controller.pubkey ctx.integration.pubkey ctx.reserveA.pubkey ctx.reserveB.pubkey

/-- The payer signs for these transfers, and no controller. -/
theorem writes_repayTokens {P : LogEntry → Prop} {payer payerAccount vault mint program : Pubkey}
    {amount balance : UInt64} (hP : ∀ call : Cpi, P (.cpi call none)) :
    Writes P (repayTokens payer payerAccount vault mint program amount balance) := by
  apply Follows.look readOnly_mint
  intro _ m _ _
  apply Follows.bind (writes_invoke (hP _))
  intro _ _ _ _ _
  apply Follows.look readOnly_tokenAccount
  intro _ t _ _
  exact .of_readOnly .ofOption

theorem writes_repayInput {P : LogEntry → Prop} {ctx : AtomicSwapRepay}
    {borrowed excess balance : UInt64} (hP : ∀ call : Cpi, P (.cpi call none)) :
    Writes P (repayInput ctx borrowed excess balance) := by
  refine Follows.ite (fun _ => ?_) fun _ => .pure
  apply Follows.bind (writes_repayTokens hP)
  intro _ _ _ _ _
  exact .pure

/-- What a Repay writes: the payer's transfers, the three inflows, and an event of each reserve.
    It signs for nothing. -/
theorem processAtomicSwapRepay_logs {ctx : AtomicSwapRepay}
    (hbind : AtomicSwapRepay.bind accounts = some ctx) (hbank : TokenLaws → w.bank.WellFormed)
    (h : processAtomicSwapRepay accounts w = .ok (u, w')) :
    Logs (fun e => e.Authentic w ctx.controller.pubkey ∧ e.update? = none) w w' := by
  simp only [processAtomicSwapRepay, bind_ok, fromAccounts_ok, rejectIf_ok, read_ok, ofExcept_ok,
    ofOption_ok, not_not, not_or, hbind, Option.some.injEq, Prod.exists, and_assoc,
    exists_and_left, exists_eq_left', exists_const] at h
  obtain ⟨-, p, _, hpl, -, c, _, hcl, -, c', w₁, hunlock, h⟩ := h
  obtain ⟨rA, _, hrAl, -, hmintA, rB, _, hrBl, -, hmintB, i, _, hil, h⟩ := h
  obtain ⟨cfg, -, lent, -, -, -, -, -, tA, _, htA, tB, _, htB, h⟩ := h
  obtain ⟨payerA, _, hpayerA, payerB, _, hpayerB, amount, -, _, -, -, -, final, deltaA, wA, hrepayA,
    deltaB, wB, hrepayB, h⟩ := h
  obtain ⟨o, _, hol, -, price, -, _, -, rA', w₂, hcreditA, _, w₃, hsaveA, rB', w₄, hcreditB, _, w₅,
    hsaveB, i', w₆, hcreditI, _, w₇, hsaveI, _, w₈, hevent, hevent'⟩ := h
  obtain ⟨rfl, -⟩ := Permission.loadAndCheck_at hpl
  obtain ⟨rfl, hc⟩ := Controller.loadAndCheck_at hcl
  obtain ⟨rfl, hA⟩ := Reserve.loadAndCheck_at hrAl
  obtain ⟨rfl, hB⟩ := Reserve.loadAndCheck_at hrBl
  obtain ⟨rfl, hi⟩ := Integration.loadAndCheck_at hil
  obtain rfl := readOnly_tokenAccount htA
  obtain rfl := readOnly_tokenAccount htB
  obtain rfl := readOnly_tokenAccount hpayerA
  obtain rfl := readOnly_tokenAccount hpayerB
  obtain ⟨rfl, -⟩ := Oracle.loadAndCheck_at hol
  have hunsigned : ∀ call : Cpi, Entry (ctx.books i rA rB) (fun _ => False) (.cpi call none) :=
    fun _ => .unsigned
  have hlogs : Logs (Entry (ctx.books i rA rB) fun _ => False) w w' := by
    obtain ⟨hbank, hlogs₁⟩ := writes_updateAndSave (P := Entry (ctx.books i rA rB) _) hbank hunlock
    obtain ⟨hbank, hlogs₂⟩ := writes_repayInput hunsigned hbank hrepayA
    obtain ⟨hbank, hlogs₃⟩ := writes_repayTokens hunsigned hbank hrepayB
    obtain ⟨hbank, hlogs₄⟩ := writes_reserveInflow (b := ctx.books i rA rB) (.head _) rfl hbank
      hcreditA
    obtain ⟨hbank, hlogs₅⟩ := writes_save (P := Entry (ctx.books i rA rB) _) hbank hsaveA
    obtain ⟨hbank, hlogs₆⟩ := writes_reserveInflow (b := ctx.books i rA rB) (.tail _ (.head _)) rfl
      hbank hcreditB
    obtain ⟨hbank, hlogs₇⟩ := writes_save (P := Entry (ctx.books i rA rB) _) hbank hsaveB
    obtain ⟨hbank, hlogs₈⟩ := writes_integrationInflow (b := ctx.books i rA rB) (.head _)
      (by exact rfl) hbank hcreditI
    obtain ⟨hbank, hlogs₉⟩ := writes_save (P := Entry (ctx.books i rA rB) _) hbank hsaveI
    obtain ⟨hbank, hlogs₁₀⟩ := writes_emitEvent
      (P := Entry (ctx.books i rA rB) _) (.reserveEvent (.head _) fun _ => hmintA.symm) hbank hevent
    obtain ⟨-, hlogs₁₁⟩ := writes_emitEvent
      (P := Entry (ctx.books i rA rB) _) (.reserveEvent (.tail _ (.head _)) fun _ => hmintB.symm)
      hbank hevent'
    exact hlogs₁.trans <| hlogs₂.trans <| hlogs₃.trans <| hlogs₄.trans <| hlogs₅.trans <|
      hlogs₆.trans <| hlogs₇.trans <| hlogs₈.trans <| hlogs₉.trans <| hlogs₁₀.trans hlogs₁₁
  -- the accounts were loaded after the controller was saved, which is of another kind
  obtain ⟨-, rfl, -, -, rfl⟩ := Controller.updateAndSave_ok.mp hunlock
  refine hlogs.mono fun e he => Entry.authentic he (swapBooks_in hc
    ⟨World.keel_of_setKeel hi.keel KeelAccount.noConfusion, hi.controller, hi.seeds⟩ rfl
    ⟨World.keel_of_setKeel hA.keel KeelAccount.noConfusion, hA.controller, hA.seeds⟩
    ⟨World.keel_of_setKeel hB.keel KeelAccount.noConfusion, hB.controller, hB.seeds⟩) ?_
  exact fun _ hfalse => hfalse.elim

/-- So is a Repay, which saves the controller first. -/
theorem processAtomicSwapRepay_deed (hbank : TokenLaws → w.bank.WellFormed)
    (h : processAtomicSwapRepay accounts w = .ok (u, w')) : Acted accounts w w' := by
  obtain ⟨ctx, es, hbind, hdone⟩ := processAtomicSwapRepay_done h
  have hlogs := processAtomicSwapRepay_logs hbind hbank h
  cases hdone with
  | @done c p i i' cfg lent rA rA' rB rB' o final deltaA deltaB w₁ _ hparties hrun _ =>
    obtain ⟨_, hbookedA, -⟩ := hrun.reserveA
    obtain ⟨_, hbookedB, -⟩ := hrun.reserveB
    refine ⟨ctx.controller.pubkey, AtomicSwapRepay.names hbind, ?_⟩
    show ∃ es, Deed _ w (w₁.saves [(ctx.controller.pubkey, .controller { c with status := .Active }),
      (ctx.reserveA.pubkey, .reserve rA'), (ctx.reserveB.pubkey, .reserve rB'),
      (ctx.integration.pubkey, .integration i')]) es
    apply Deed.of_logs hrun.grows.keel hlogs
    refine List.forall_mem_cons.mpr ⟨.unlock hparties.controller hparties.controllerLocked, ?_⟩
    refine List.forall_mem_cons.mpr ⟨.reserve hparties.reserveA hbookedA, ?_⟩
    refine List.forall_mem_cons.mpr ⟨.reserve hparties.reserveB hbookedB, ?_⟩
    refine List.forall_mem_singleton.mpr (.integration hparties.integration hrun.integration ?_)
    rw [hrun.state, hrun.state']
    rfl

end AlmController
