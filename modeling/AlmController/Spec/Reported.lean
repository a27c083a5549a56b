import AlmController.Spec.Settled

/-!
# What the events tell of a balance

An off-chain service that adds up the accounting events on a reserve wants to arrive at its
recorded balance. `unreported` is what it misses. Every instruction but the two of a swap
reports exactly what it books, so along a run without a swap nothing is missed, or whatever was
missed before.

A Borrow books an outflow and reports none of it: the Repay reports what was spent in the end.
It does so by subtracting what came back from what was lent, and stops at zero; but it books all
that came back. So a swap misses what came back beyond what was lent, and nothing else.
-/

namespace AlmController

open Prog

/-- The balance recorded in an account: that of a reserve. -/
def recorded : Option KeelAccount → Int
  | some (.reserve r) => r.lastBalance.toNat
  | _ => 0

/-- What the events on the reserve at `k` do not tell of its recorded balance. -/
def unreported (k : Pubkey) (w : World) : Int := recorded (w.keel k) - ledger k w.log

/-- There is a reserve, or may still be one. -/
def MayBeReserve : Option KeelAccount → Prop
  | none => True
  | some (.reserve _) => True
  | _ => False

variable [Chain]

variable {t : Transaction} {tx : TxContext} {accounts : List AccountMeta} {data : List UInt8}
  {w w' : World} {es : List LogEntry} {k : Pubkey} {old new : Option KeelAccount} {m : Move}

/-! ## One instruction that is no swap's -/

/-- **What is booked is reported**, unless a lock is turned. -/
theorem Change.reported (h : Change tx accounts data w w' es k old new)
    (hturns : ∀ ck, ¬ TurnsLock data w w' ck) (hnew : MayBeReserve new) :
    MayBeReserve old ∧ recorded new = recorded old + ledger k es := by
  cases h with
  | same hsilent =>
    refine ⟨hnew, ?_⟩
    rw [hsilent.ledger, add_zero]
  | newReserve _ _ _ _ _ _ _ _ hledger =>
    refine ⟨trivial, ?_⟩
    rw [hledger]
    exact (zero_add _).symm
  | @manageReserve r r' _ hsilent _ _ _ _ hupdate =>
    obtain ⟨-, -, -, hlast⟩ := Reserve.update_frame hupdate
    refine ⟨trivial, ?_⟩
    rw [hsilent.ledger, add_zero]
    show (r'.lastBalance.toNat : Int) = r.lastBalance.toNat
    rw [hlast]
  | bookReserve _ _ hbooked hledger =>
    refine ⟨trivial, ?_⟩
    rw [hledger]
    exact hbooked.balance
  | swapReserve _ _ _ _ _ hturn => exact absurd hturn (hturns _)
  | _ => exact hnew.elim

/-- The step turns no controller's lock. -/
def KeepsLocks (s : Step World Move) : Prop :=
  ∀ tx accounts data, s.move = .call tx accounts data →
    ∀ ck, ¬ TurnsLock data s.before s.after ck

theorem Moves.reported (h : Moves w m w') (hlocks : KeepsLocks ⟨w, m, w'⟩)
    (hk : MayBeReserve (w'.keel k)) :
    MayBeReserve (w.keel k) ∧ unreported k w' = unreported k w := by
  unfold unreported
  rcases h.cases with ⟨tx, accounts, data, es, rfl, heffect⟩ | ⟨-, hsame⟩
  · obtain ⟨hold, hbooked⟩ := (heffect.changes k).reported (hlocks _ _ _ rfl) hk
    refine ⟨hold, ?_⟩
    rw [hbooked, heffect.log, ledger_append]
    ring
  · rw [hsame.keel] at hk ⊢
    rw [hsame.log]
    exact ⟨hk, rfl⟩

/-- **A run that turns no lock.** The induction needs to know at the end only that the account
    is a reserve: reserves were reserves before, or nothing. -/
theorem Moves.reported_run {steps : List (Step World Move)} (h : Trace Moves w steps w')
    (hlocks : ∀ s ∈ steps, KeepsLocks s) (hk : MayBeReserve (w'.keel k)) :
    MayBeReserve (w.keel k) ∧ unreported k w' = unreported k w := by
  induction h with
  | nil => exact ⟨hk, rfl⟩
  | cons hmove _ ih =>
    obtain ⟨hhead, htail⟩ := List.forall_mem_cons.mp hlocks
    obtain ⟨hmid, hrest⟩ := ih htail hk
    obtain ⟨hold, hstep⟩ := hmove.reported hhead hmid
    exact ⟨hold, hrest.trans hstep⟩

/-! ## Which steps turn no lock -/

omit [Chain] in
theorem SettledAt.not_locked {ck : Pubkey} (h : SettledAt w ck) : ¬ Locked w ck := by
  intro hlocked
  obtain ⟨c, hc, hlocked⟩ := hlocked
  exact h _ hc hlocked

omit [Chain] in
/-- Where no swap is going on, only a Borrow turns a lock. -/
theorem Settled.keepsLocks {s : Step World Move} (h : Settled s.before) (hborrow : ¬ IsBorrow s) :
    KeepsLocks s := by
  intro tx accounts data hmove ck hturns
  obtain ⟨rest, rfl⟩ := List.head?_eq_some_iff.mp (hturns.borrow (h ck).not_locked)
  exact hborrow ⟨tx, accounts, rest, hmove⟩

theorem Moves.keepsLocks_run {steps : List (Step World Move)} (h : Trace Moves w steps w')
    (hw : Settled w) (hborrow : ∀ s ∈ steps, ¬ IsBorrow s) : ∀ s ∈ steps, KeepsLocks s := by
  intro s hs
  obtain ⟨pre, post, rfl⟩ := List.append_of_mem hs
  obtain ⟨hpre, -, -⟩ := h.split_cons
  have hsettled : Settled s.before := fun k =>
    Moves.settledAt_run hpre (fun x hx => hborrow x (List.mem_append_left _ hx)) (hw k)
  exact hsettled.keepsLocks (hborrow s hs)

/-! ## A swap -/

omit [Chain] in
/-- What a swap's instruction saved, but for its reserves, is none. -/
theorem SwapSaved.keel_eq {ck ik kA kB : Pubkey} {c' : Controller} {i' : Integration}
    {rA' rB' : Reserve} (h : SwapSaved w w' ck ik kA kB c' i' rA' rB') (hA : k ≠ kA) (hB : k ≠ kB)
    (hk : MayBeReserve (w'.keel k)) : w'.keel k = w.keel k := by
  apply h.frame
  intro hmem
  simp only [List.mem_cons, List.not_mem_nil, or_false] at hmem
  rcases hmem with rfl | rfl | rfl | rfl
  · rw [h.controller] at hk
    exact hk.elim
  · rw [h.integration] at hk
    exact hk.elim
  · exact hA rfl
  · exact hB rfl

namespace SwapPair

variable {s r : Step World Move} {mid : List (Step World Move)}

/-- **Between a Borrow and its Repay no lock is turned**: the swap's controller stays locked, and
    no other one is. -/
theorem keepsLocks (x : SwapPair tx s r) (hsettled : Settled s.before)
    (hmid : Trace Moves s.after mid r.before) (hordinary : ∀ y ∈ mid, Ordinary y) :
    ∀ y ∈ mid, KeepsLocks y := by
  obtain ⟨-, -, halone⟩ := Moves.sameHoldings_run hmid hordinary x.locked
  intro y hy tx accounts data hmove ck hturns
  cases hturns with
  | locks hdata => exact (hordinary y hy).head_ne hmove hdata
  | @unlocks c _ hc hlocked hc' =>
    by_cases hck : ck = x.ctx.controller.pubkey
    · -- it would not be the same afterwards
      have hsame := (halone y hy).sameHoldings.controller
      rw [← hck, hc, hc'] at hsame
      have hstatus := congrArg Controller.status
        (KeelAccount.controller.inj (Option.some.inj hsame))
      rw [Controller.isAtomicSwapLocked, ← hstatus] at hlocked
      cases hlocked
    · obtain ⟨pre, post, rfl⟩ := List.append_of_mem hy
      obtain ⟨hpre, -, -⟩ := hmid.split_cons
      have hik : ck ≠ x.ctx.integration.pubkey := by
        intro heq
        obtain ⟨_, hi, -⟩ := Moves.integration_frame_run hpre x.lent_saved.integration
        rw [← heq, hc] at hi
        cases hi
      have hentry := x.lent_saved.settledAt x.key_ne hck hik (hsettled ck)
      have hkept := Moves.settledAt_run hpre
        (fun z hz => (hordinary z (List.mem_append_left _ hz)).notBorrow) hentry
      exact hkept _ hc hlocked

/-- What came back beyond what was lent. -/
def overpaid (x : SwapPair tx s r) : Int := x.deltaA.toNat - (x.amount.toNat - x.final.toNat)

/-- What was spent, as the Repay reports it, stops at zero. -/
theorem overpaid_eq (x : SwapPair tx s r) :
    x.overpaid = (x.deltaA.toNat - x.amount.toNat : Nat) := by
  have hspent := congrArg UInt64.toNat x.repayRun.spent
  rw [x.borrowRun.amountBorrowed, UInt64.toNat_saturatingSub] at hspent
  unfold overpaid
  omega

/-- **A Borrow reports the syncs**, and nothing of what it lends. -/
theorem unreported_lent (x : SwapPair tx s r) (hk : MayBeReserve (s.after.keel k)) :
    MayBeReserve (s.before.keel k) ∧ unreported k s.after =
      unreported k s.before - if k = x.ctx.reserveA.pubkey then (x.amount.toNat : Int) else 0 := by
  have hsaved := x.lent_saved
  have hlog : s.after.log = s.before.log ++ x.es := by
    rw [x.lent_after]
    exact x.borrowRun.grows.log
  unfold unreported
  rw [hlog, ledger_append]
  by_cases hA : k = x.ctx.reserveA.pubkey
  · subst hA
    obtain ⟨flows, hbooked, hflows⟩ := x.borrowRun.reserveA
    have hledger := x.borrowRun.ledgerA x.mint_ne x.key_ne
    have hbalance := hbooked.balance
    rw [hflows x.mint_ne] at hbalance
    rw [hsaved.reserveA x.key_ne, x.borrowParties.reserveA.keel, hledger, if_pos rfl]
    refine ⟨trivial, ?_⟩
    simp only [recorded, hbalance]
    ring
  rw [if_neg hA, sub_zero]
  by_cases hB : k = x.ctx.reserveB.pubkey
  · subst hB
    obtain ⟨flows, hbooked, hflows⟩ := x.borrowRun.reserveB
    have hledger := x.borrowRun.ledgerB x.mint_ne x.key_ne
    have hbalance := hbooked.balance
    rw [hflows x.mint_ne] at hbalance
    rw [hsaved.reserveB, x.borrowParties.reserveB.keel, hledger]
    refine ⟨trivial, ?_⟩
    simp only [recorded, hbalance]
    ring
  · have hsame := hsaved.keel_eq hA hB hk
    have hledger : ledger k x.es = 0 := x.borrowRun.within.ledger_eq_zero (by simp [hA, hB])
    rw [hsame] at hk
    rw [hsame, hledger, add_zero]
    exact ⟨hk, rfl⟩

/-- **A Repay reports what was spent** in the end, and books what came back. -/
theorem unreported_repaid (x : SwapPair tx s r) (hk : MayBeReserve (r.after.keel k)) :
    MayBeReserve (r.before.keel k) ∧ unreported k r.after = unreported k r.before +
      if k = x.ctx.reserveA.pubkey then (x.deltaA.toNat + x.final.toNat : Int) else 0 := by
  have hsaved := x.repaid_saved
  have hA' := x.repayParties.reserveA.keel
  have hB' := x.repayParties.reserveB.keel
  have hledgerA := x.repayRun.ledgerA
  have hledgerB := x.repayRun.ledgerB
  have hwithin := x.repayRun.within
  rw [x.reserveA_eq] at hA' hledgerA hwithin
  rw [x.reserveB_eq] at hB' hledgerA hledgerB hwithin
  rw [x.reserveA_eq] at hledgerB
  have hlog : r.after.log = r.before.log ++ x.es' := by
    rw [x.repaid_after]
    exact x.repayRun.grows.log
  unfold unreported
  rw [hlog, ledger_append]
  by_cases hA : k = x.ctx.reserveA.pubkey
  · subst hA
    rw [hsaved.reserveA x.key_ne, hA', hledgerA x.key_ne, if_pos rfl]
    refine ⟨trivial, ?_⟩
    simp only [recorded, x.repayRun.lastA]
    push_cast
    ring
  rw [if_neg hA, add_zero]
  by_cases hB : k = x.ctx.reserveB.pubkey
  · subst hB
    rw [hsaved.reserveB, hB', hledgerB x.key_ne]
    refine ⟨trivial, ?_⟩
    simp only [recorded, x.repayRun.lastB]
    push_cast
    ring
  · have hsame := hsaved.keel_eq hA hB hk
    have hledger : ledger k x.es' = 0 := hwithin.ledger_eq_zero (by simp [hA, hB])
    rw [hsame] at hk
    rw [hsame, hledger, add_zero]
    exact ⟨hk, rfl⟩

/-- **A whole swap.** -/
theorem unreported_run (x : SwapPair tx s r) (hsettled : Settled s.before)
    (hmid : Trace Moves s.after mid r.before) (hordinary : ∀ y ∈ mid, Ordinary y)
    (hk : MayBeReserve (r.after.keel k)) :
    MayBeReserve (s.before.keel k) ∧ unreported k r.after =
      unreported k s.before + if k = x.ctx.reserveA.pubkey then x.overpaid else 0 := by
  obtain ⟨hentry, hrepaid⟩ := x.unreported_repaid hk
  obtain ⟨hlent, hkept⟩ := Moves.reported_run hmid (x.keepsLocks hsettled hmid hordinary) hentry
  obtain ⟨hbefore, hborrowed⟩ := x.unreported_lent hlent
  refine ⟨hbefore, ?_⟩
  rw [hrepaid, hkept, hborrowed]
  split
  · unfold overpaid
    ring
  · ring
end SwapPair

end AlmController
