import AlmController.Simulator
import AlmController.Spec.AtomicSwap

/-!
# Atomic swaps are safe

A Borrow lends on the strength of what it sees of its transaction: the last instruction
repays this very swap, and no other top-level call of this program stands before it. Calls
that other programs make are not seen. They are kept out by the lock: whoever lifts it, with
ManageController, makes the Repay fail, and with it the transaction.

`atomic_swap_safety` takes a transaction that commits, from any state that was reached, and a
Borrow anywhere in it. It says where the Borrow and its Repay stand, that they are of one swap and
one trader, that both vaults are untouched in between, and that what comes in between leaves the
controller alone. That it takes a whole transaction is essential: a Borrow by itself is a loan
without security. How much comes back is not its subject, nor at which price: that is in
`SwapNetEffect` and in `SwapPrice`.
-/

namespace AlmController

open Prog

variable [Chain]

variable {t : Transaction} {w w' : World} {pre post : List (Step World Move)}
  {s : Step World Move}

/-- What is between a Borrow and its Repay leaves the controller alone. -/
theorem SwapTransaction.leavesAlone {i last : Fin t.topLevel.length} {borrow repay : Instruction}
    {mid : List (Step World Move)} {r : Step World Move}
    (h : SwapTransaction t pre s post i last borrow repay mid r) (x : SwapPair (t.context i) s r)
    (hmid : Trace Moves s.after mid r.before) :
    ∀ y ∈ mid, LeavesAlone x.ctx.controller.pubkey y :=
  (Moves.sameHoldings_run hmid h.between x.locked).2.2

/-- **A swap is atomic.** No assumption about the state the transaction starts from is needed
    beyond that it is reachable: that the controller is not locked and the integration has lent
    nothing is what the Borrow itself has checked. -/
theorem atomic_swap_safety (laws : TokenLaws) (hw : Reachable w)
    (h : Commits w t (pre ++ s :: post) w') (hborrow : IsBorrow s) :
    ∃ (i last : Fin t.topLevel.length) (borrow repay : Instruction)
      (mid : List (Step World Move)) (r : Step World Move) (ck vaultA vaultB : Pubkey),
      -- the Borrow is a top-level instruction, and the only Borrow
      (t.topLevel.get i).ix = borrow ∧ borrow.programId = ID ∧
      s.move = .call (t.context i) borrow.accounts borrow.data ∧
      (∀ x ∈ pre ++ post, ¬ IsBorrow x) ∧
      -- the last instruction is the Repay of the same swap, and it succeeded
      (last : Nat) + 1 = t.topLevel.length ∧ (t.topLevel.get last).ix = repay ∧
      repay.Calls ATOMIC_SWAP_REPAY_IX_DISC ∧ repay.keyAt 5 = borrow.keyAt 4 ∧
      repay.keyAt 13 = borrow.keyAt 10 ∧ repay.keyAt 14 = borrow.keyAt 11 ∧
      post = mid ++ [r] ∧ r.move = .call (t.context last) repay.accounts repay.data ∧
      Moves r.before r.move r.after ∧
      -- it found in both vaults what the Borrow left in them
      borrow.keyAt 6 = some vaultA ∧ borrow.keyAt 9 = some vaultB ∧
      r.before.bank.tokenAmount vaultA = s.after.bank.tokenAmount vaultA ∧
      r.before.bank.tokenAmount vaultB = s.after.bank.tokenAmount vaultB ∧
      -- and what came in between left the controller alone
      borrow.keyAt 0 = some ck ∧ ∀ x ∈ mid, LeavesAlone ck x := by
  obtain ⟨i, last, borrow, repay, mid, r, hswap⟩ := h.swap hw hborrow
  obtain ⟨x⟩ := hswap.pair
  obtain ⟨hpost, hafter⟩ : post = mid ++ [r] ∧ Trace Moves s.after post w' :=
    ⟨hswap.after, h.1.split_cons.2.2⟩
  rw [hpost] at hafter
  obtain ⟨hmid, hrepay, -⟩ := hafter.split_cons
  obtain ⟨accounts, hmove, hbind⟩ := x.borrowMove
  obtain ⟨-, haccounts, -⟩ := Move.call.inj (hswap.borrowMove.symm.trans hmove)
  obtain ⟨rest, hrest⟩ := AtomicSwapBorrow.bind_eq hbind
  obtain ⟨rest', hdata⟩ := hswap.borrows.repayData
  have hkey : ∀ n, borrow.keyAt n = accounts[n]?.map AccountMeta.pubkey := by
    intro n
    rw [Instruction.keyAt, haccounts]
  refine ⟨i, last, borrow, repay, mid, r, x.ctx.controller.pubkey, x.rA.vault, x.rB.vault,
    hswap.borrows.borrowIx, hswap.borrows.borrowId, hswap.borrowMove, ?_, hswap.borrows.isLast,
    hswap.borrows.repayIx, ⟨hswap.borrows.repayId, ?_⟩, hswap.borrows.integration,
    hswap.borrows.payerA, hswap.borrows.payerB, hpost, hswap.repayMove, hrepay, ?_, ?_,
    x.vaultA_kept laws, x.vaultB_kept laws, ?_, hswap.leavesAlone x hmid⟩
  · intro y hy
    rcases List.mem_append.mp hy with hy | hy
    · exact hswap.before y hy
    · rw [hpost] at hy
      rcases List.mem_append.mp hy with hy | hy
      · exact (hswap.between y hy).notBorrow
      · -- the Repay is no Borrow
        obtain rfl := List.mem_singleton.mp hy
        rintro ⟨tx, accounts, data, hy⟩
        obtain ⟨-, -, heq⟩ := Move.call.inj (hswap.repayMove.symm.trans hy)
        rw [hdata] at heq
        exact absurd (List.cons.inj heq).1 (by decide)
  · rw [hdata]
    rfl
  · rw [hkey, hrest, x.borrowParties.vaultA]
    rfl
  · rw [hkey, hrest, x.borrowParties.vaultB]
    rfl
  · rw [hkey, hrest]
    rfl

end AlmController

namespace AlmController

open Simulator

/-- The example swap is safe: it returns 40 of 100 tokens and pays 60 for the rest. -/
theorem atomic_swap_safety_example :
    ∃ (s r : Step World Move) (mid : List (Step World Move)) (w' : World),
      Commits (swapWorld evenPrice) (swap (swapWorld evenPrice) 100 (sale 60 60))
        (s :: (mid ++ [r])) w' ∧
      IsBorrow s ∧ (∀ x ∈ mid ++ [r], ¬ IsBorrow x) ∧ Moves r.before r.move r.after := by
  obtain ⟨steps, w', hcommits, -⟩ :=
    @swap_commits evenPrice 100 (sale 60 60) Unit (fun _ => ()) () (by decide +kernel)
  obtain ⟨s, between, last, _, _, rfl, hmove, -⟩ := swap_steps hcommits
  have hborrow : IsBorrow s := ⟨_, _, Borsh.write (AtomicSwapBorrowArgs.mk 100), hmove⟩
  obtain ⟨_, _, _, _, mid, r, _, _, _, -, -, -, honly, -, -, -, -, -, -, hpost, -, hrepay, -⟩ :=
    @atomic_swap_safety chain _ _ _ [] _ _ tokenLaws swapWorld_attained.reachable hcommits hborrow
  rw [hpost] at hcommits honly
  exact ⟨s, r, mid, w', hcommits, hborrow, honly, hrepay⟩

end AlmController
