import AlmController.Simulator
import AlmController.Spec.Reported

/-!
# The ledger of a reserve

The events on a reserve add up to its recorded balance, over any run, as long as no swap brings
back more than it lent. One that does is booked in full, and its event says that nothing was
spent; the difference is in no event, then or later.

How much comes back is settled before the Repay begins. It transfers what the payer has beyond
what it had before the Borrow, and what vault A gains by that is up to the token program.

`reserve_ledger` is about every run from an empty program, made of whole transactions, as the sum
is wrong in the middle of an instruction. The condition is on the Repays alone
(`ReturnsAtMostLent`), and on what is known before each; nothing is asked of Push, Pull, Borrow
and the syncs, whatever the vault did meanwhile.
-/

namespace AlmController

open Prog

variable [Chain]

variable {t : Transaction} {w w' : World} {k : Pubkey} {steps : List (Step World Move)}

/-- What the payer of a Repay has beyond what it had before the Borrow. -/
def excessA (w : World) (ctx : AtomicSwapRepay) (lent : AtomicSwapState) : UInt64 :=
  (UInt64.ofNat (w.bank.tokenAmount ctx.payerAccountA.pubkey)).saturatingSub lent.recipientTokenAPre

/-- If the step is a Repay of what the reserve at `k` lent, the transfer of the payer's excess
    credits the vault with no more than was lent. -/
def ReturnsAtMostLent (k : Pubkey) (s : Step World Move) : Prop :=
  ∀ tx accounts data ctx i lent decimals bank,
    s.move = .call tx accounts (16 :: data) → AtomicSwapRepay.bind accounts = some ctx →
    ctx.reserveA.pubkey = k → s.before.keel ctx.integration.pubkey = some (.integration i) →
    i.state = .AtomicSwap lent → 0 < excessA s.before ctx lent →
    Chain.invoke s.before.clock (.transferChecked (repayTransfer ctx.payer.pubkey
      ctx.payerAccountA.pubkey ctx.vaultA.pubkey ctx.mintA.pubkey ctx.tokenProgramA.pubkey
        (excessA s.before ctx lent) decimals)) [] s.before.bank = some bank →
      bank.tokenAmount ctx.vaultA.pubkey ≤
        s.before.bank.tokenAmount ctx.vaultA.pubkey + lent.amountBorrowed.toNat

/-! ## One transaction -/

/-- Then the Repay is not one that misses something. -/
theorem SwapPair.overpaid_eq_zero {tx : TxContext} {s r : Step World Move} (x : SwapPair tx s r)
    (h : ReturnsAtMostLent x.ctx.reserveA.pubkey r) : x.overpaid = 0 := by
  rw [x.overpaid_eq]
  obtain ⟨balance, bank, calls, hbalance, hrepaid⟩ := x.repayRun.repaid
  have hle : x.deltaA.toNat ≤ x.amount.toNat := by
    -- either nothing was transferred, or the transfer credited what the condition speaks of
    cases hrepaid with
    | spent _ hdelta =>
      rw [hdelta]
      exact Nat.zero_le _
    | @returned decimals _ ix hpos hix hreceives =>
      obtain ⟨tx', accounts, data, hmove, hbind⟩ := x.repayMove
      subst hix
      have hgained : bank.tokenAmount x.ctx'.vaultA.pubkey = balance.toNat + x.deltaA.toNat :=
        hreceives.gained
      have hatMost := h tx' accounts data x.ctx' x.iL x.lent decimals bank hmove hbind
        x.reserveA_eq x.repayParties.integration.keel x.repayRun.state hpos hreceives.invoke
      rw [hgained, hbalance, x.repayParties.vaultA, x.borrowRun.amountBorrowed] at hatMost
      exact Nat.le_of_add_le_add_left hatMost
  rw [Nat.sub_eq_zero_of_le hle]
  rfl

/-- **One transaction** leaves what was not reported as it was: with a swap by the condition on its
    Repay, and without one because every other instruction tells what it books. -/
theorem Commits.reported (hreachable : Reachable w) (hw : Settled w) (h : Commits w t steps w')
    (hreturns : ∀ s ∈ steps, ReturnsAtMostLent k s) (hk : MayBeReserve (w'.keel k)) :
    MayBeReserve (w.keel k) ∧ unreported k w' = unreported k w := by
  by_cases hborrow : ∃ s ∈ steps, IsBorrow s
  · obtain ⟨s, hmem, hborrow⟩ := hborrow
    obtain ⟨pre, post, rfl⟩ := List.append_of_mem hmem
    obtain ⟨i, last, borrow, repay, mid, r, hswap⟩ := h.swap hreachable hborrow
    obtain ⟨hpre, -, hpost⟩ := h.1.split_cons
    have hafter := hswap.after_eq h.1
    rw [hswap.after] at hpost hreturns
    obtain ⟨hmid, -, -⟩ := hpost.split_cons
    obtain ⟨x⟩ := hswap.pair
    -- before the Borrow, in between and by the Repay
    have hsettled : Settled s.before := fun k' =>
      Moves.settledAt_run hpre hswap.before (hw k')
    rw [← hafter] at hk ⊢
    obtain ⟨hentry, hrun⟩ := x.unreported_run hsettled hmid hswap.between hk
    obtain ⟨hbefore, hkept⟩ := Moves.reported_run hpre
      (Moves.keepsLocks_run hpre hw hswap.before) hentry
    refine ⟨hbefore, ?_⟩
    rw [hrun, hkept]
    split
    · rename_i heq
      subst heq
      have hr : ReturnsAtMostLent x.ctx.reserveA.pubkey r := hreturns r (by simp)
      rw [x.overpaid_eq_zero hr, add_zero]
    · exact add_zero _
  · have hno : ∀ s ∈ steps, ¬ IsBorrow s := fun s hs hb => hborrow ⟨s, hs, hb⟩
    exact Moves.reported_run h.1 (Moves.keepsLocks_run h.1 hw hno) hk

/-! ## Any run -/

/-- By induction on the transactions of the run. -/
theorem Run.reported (h : Run w steps w') (hw : Committed w)
    (hreturns : ∀ s ∈ steps, ReturnsAtMostLent k s) (hk : MayBeReserve (w'.keel k)) :
    MayBeReserve (w.keel k) ∧ unreported k w' = unreported k w := by
  induction h with
  | nil => exact ⟨hk, rfl⟩
  | env _ _ ih => exact ih (fun s hs => hreturns s (List.mem_append_left _ hs)) hk
  | tick _ ih => exact ih (fun s hs => hreturns s (List.mem_append_left _ hs)) hk
  | commit hrun hcommits ih =>
    have hcommitted := hrun.committed hw
    obtain ⟨hmid, hlast⟩ := hcommits.reported hcommitted.reachable hcommitted.settled
      (fun s hs => hreturns s (List.mem_append_right _ hs)) hk
    obtain ⟨hfirst, hrest⟩ := ih (fun s hs => hreturns s (List.mem_append_left _ hs)) hmid
    exact ⟨hfirst, hlast.trans hrest⟩

/-- **The events reconstruct the reserve**, in every run in which no swap brings back more than
    it lent. -/
theorem reserve_ledger {w w' : World} {steps : List (Step World Move)} {k : Pubkey} {r : Reserve}
    (hgenesis : World.Genesis w) (hrun : Run w steps w')
    (hreturns : ∀ s ∈ steps, ReturnsAtMostLent k s) (hr : w'.keel k = some (.reserve r)) :
    ledger k w'.log = r.lastBalance.toNat := by
  have hk : MayBeReserve (w'.keel k) := by
    rw [hr]
    trivial
  obtain ⟨-, hsame⟩ := hrun.reported (.genesis hgenesis) hreturns hk
  -- at the start there is neither a reserve nor an entry
  unfold unreported at hsame
  rw [hr, hgenesis.keel k, hgenesis.log] at hsame
  simp only [recorded, ledger_nil, sub_zero] at hsame
  exact (sub_eq_zero.mp hsame).symm

end AlmController

namespace AlmController

open Simulator

/-- In the example swap the trader has 90 tokens in the end, 40 more than before. -/
theorem reserve_ledger_example :
    ∃ (w w' : World) (steps : List (Step World Move)) (r : Reserve), World.Genesis w ∧
      Run w steps w' ∧ (∃ s ∈ steps, IsBorrow s) ∧
      w'.keel (reserveKey mintA) = some (.reserve r) ∧
      ledger (reserveKey mintA) w'.log = r.lastBalance.toNat := by
  obtain ⟨steps, w', hcommits, hcomputed⟩ := @swap_commits_steps evenPrice 100 (sale 60 60) _
    (fun x => (x.1.map fun s => swapStateOf s.before, ledgerAndBalance (reserveKey mintA) x.2))
    ([(some .closed, 50), (some ⟨500, 200, 100, 50, 50, 0⟩, 150),
      (some ⟨500, 200, 100, 50, 50, 0⟩, 90)], some (440, 440)) (by decide +kernel)
  obtain ⟨hstates, hafter⟩ := Prod.mk.inj hcomputed
  obtain ⟨w₀, steps₀, hgenesis, hrun, hno⟩ := @swapWorld_run evenPrice
  obtain ⟨s, between, r, tx, tx', rfl, hs, hr⟩ := swap_steps hcommits
  have hbetween : ∀ tx accounts data, between.move ≠ .call tx accounts data := by
    intro tx accounts data hmove
    have hmoves : [s.move, between.move, r.move] = [_, .env _, _] := hcommits.2
    rw [hmove] at hmoves
    cases (List.cons.inj (List.cons.inj hmoves).2).1
  have hborrow : IsBorrow s := ⟨_, _, Borsh.write (AtomicSwapBorrowArgs.mk 100), hs⟩
  have hstate := (List.cons.inj (List.cons.inj (List.cons.inj hstates).2).2).1
  obtain ⟨hlent, hpayer⟩ := Prod.mk.inj hstate
  unfold ledgerAndBalance at hafter
  split at hafter
  case h_2 => cases hafter
  rename_i rA hrA
  refine ⟨w₀, w', _, rA, hgenesis, hrun.commit hcommits, ⟨s, by simp, hborrow⟩, hrA, ?_⟩
  refine @reserve_ledger chain _ _ _ _ _ hgenesis (hrun.commit hcommits) ?_ hrA
  intro x hx
  rcases List.mem_append.mp hx with hx | hx
  · -- nothing before the swap is a Repay
    intro tx accounts data ctx i lent decimals bank hmove
    exact absurd hmove (hno x hx tx accounts data)
  simp only [List.mem_cons, List.not_mem_nil, or_false] at hx
  rcases hx with rfl | rfl | rfl
  · intro tx accounts data ctx i lent decimals bank hmove
    rw [hs] at hmove
    cases (Move.call.inj hmove).2.2
  · intro tx accounts data ctx i lent decimals bank hmove
    exact absurd hmove (hbetween tx accounts (16 :: data))
  · intro tx accounts data ctx i lent decimals bank hmove hbind _ hi hi' _ hinvoke
    rw [hr] at hmove
    obtain ⟨-, rfl, -⟩ := Move.call.inj hmove
    obtain rfl := Option.some.inj hbind
    have hi : x.before.keel swapKey = some (.integration i) := hi
    rw [hi] at hlent
    have hlent : i.state.atomicSwap? = some ⟨500, 200, 100, 50, 50, 0⟩ := hlent
    rw [IntegrationState.atomicSwap?_eq, hi'] at hlent
    obtain rfl := IntegrationState.AtomicSwap.inj hlent
    have hcredit := transferChecked_credit hinvoke
    have hpayer : x.before.bank.tokenAmount traderA = 90 := hpayer
    refine hcredit.trans (Nat.add_le_add_left ?_ _)
    show ((UInt64.ofNat (x.before.bank.tokenAmount traderA)).saturatingSub 50).toNat ≤
      (100 : UInt64).toNat
    rw [hpayer]
    decide

/-- **A trader who repays 150 of 100 tokens**: the reserve books them all, and the events tell of
    none of the 50 that are too many. -/
theorem reserve_ledger_over_repaid :
    ∃ (w w' : World) (steps : List (Step World Move)) (k : Pubkey) (r : Reserve),
      World.Genesis w ∧ Run w steps w' ∧ w'.keel k = some (.reserve r) ∧
      ledger k w'.log ≠ r.lastBalance.toNat := by
  obtain ⟨w₀, steps₀, hgenesis, hrun, -⟩ := @swapWorld_run evenPrice
  obtain ⟨steps, w', hcommits, hcomputed⟩ := @swap_commits evenPrice 100
    [transfer marketA traderA mintA market 50] _ (ledgerAndBalance (reserveKey mintA))
    (some (500, 550)) (by decide +kernel)
  unfold ledgerAndBalance at hcomputed
  split at hcomputed
  case h_2 => cases hcomputed
  rename_i r hr
  obtain ⟨hledger, hlast⟩ := Prod.mk.inj (Option.some.inj hcomputed)
  refine ⟨w₀, w', _, reserveKey mintA, r, hgenesis, hrun.commit hcommits, hr, ?_⟩
  rw [hledger, hlast]
  decide

end AlmController
