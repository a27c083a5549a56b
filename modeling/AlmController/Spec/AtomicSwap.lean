import AlmController.Spec.Lock
import AlmController.Spec.Schedule

/-!
# A swap in its transaction

Borrow looks around: it is a top-level instruction, no other top-level call of this program
follows it but the last instruction, and that is the Repay of the same swap. So a transaction
has one Borrow (`Commits.borrow`), what comes in between are calls that other programs make,
and a Repay that succeeds found everything as the Borrow left it (`SwapPair`).
-/

namespace AlmController

open Prog

variable [Chain]

variable {t : Transaction} {tx : TxContext} {accounts : List AccountMeta} {data : List UInt8}
  {w w' : World} {m : Move}

/-! ## Where the moves of a transaction stand -/

/-- Where a Borrow stands in its transaction, which ends with this Repay. -/
structure Transaction.Borrows (t : Transaction) (i last : Fin t.topLevel.length)
    (borrow repay : Instruction) : Prop where
  borrowIx : (t.topLevel.get i).ix = borrow
  borrowId : borrow.programId = ID
  repayIx : (t.topLevel.get last).ix = repay
  repayId : repay.programId = ID
  repayData : ∃ rest, repay.data = 16 :: rest
  isLast : (last : Nat) + 1 = t.topLevel.length
  lt : (i : Nat) < last
  alone : ∀ j : Fin t.topLevel.length, (i : Nat) < j → (j : Nat) < last →
    (t.topLevel.get j).ix.programId ≠ ID
  integration : repay.keyAt 5 = borrow.keyAt 4
  payerA : repay.keyAt 13 = borrow.keyAt 10
  payerB : repay.keyAt 14 = borrow.keyAt 11

/-- A Borrow that succeeds, with what it established. -/
theorem Moves.borrow (h : Moves w (.call tx accounts (15 :: data)) w') :
    ∃ ctx amount es, AtomicSwapBorrow.bind accounts = some ctx ∧
      data = Borsh.write (AtomicSwapBorrowArgs.mk amount) ∧ BorrowDone tx ctx amount w w' es := by
  cases h with
  | call _ hrun =>
    have hrun' : processAtomicSwapBorrow tx accounts data w = .ok ((), w') := hrun
    obtain ⟨ctx, args, es, hbind, hdata, hdone⟩ := processAtomicSwapBorrow_done hrun'
    exact ⟨ctx, args.amount, es, hbind, hdata, hdone⟩

theorem Moves.repay (h : Moves w (.call tx accounts (16 :: data)) w') :
    ∃ ctx es, AtomicSwapRepay.bind accounts = some ctx ∧ RepayDone ctx w w' es := by
  cases h with
  | call _ hrun =>
    have hrun' : processAtomicSwapRepay accounts w = .ok ((), w') := hrun
    exact processAtomicSwapRepay_done hrun'

/-- What a Borrow that succeeded saw of its transaction. -/
theorem Moves.repayFollows {ctx : AtomicSwapBorrow}
    (h : Moves w (.call tx accounts (15 :: data)) w')
    (hbind : AtomicSwapBorrow.bind accounts = some ctx) :
    ∃ vaultA vaultB, tx.RepayFollows ctx.integration.pubkey ctx.recipientTokenAccountA.pubkey
      ctx.recipientTokenAccountB.pubkey vaultA vaultB := by
  obtain ⟨ctx', amount, es, hbind', -, hdone⟩ := h.borrow
  rw [hbind] at hbind'
  obtain rfl := Option.some.inj hbind'
  cases hdone with
  | done _ hrun => exact ⟨_, _, hrun.repayFollows⟩

namespace Transaction

omit [Chain]

theorem context_currentIx {i : Fin t.topLevel.length} :
    (t.context i).currentIx = (t.topLevel.get i).ix := by
  have hget := getElem?_instructions (t := t) (i := i)
  have hcurrent : (t.context i).instructions[((t.context i).current : Nat)]? =
    some (t.context i).currentIx := TxContext.getElem?_current
  exact Option.some.inj (hcurrent.symm.trans hget)

/-- **What Borrow's look around means**, for its own transaction. -/
theorem borrows {ctx : AtomicSwapBorrow} {vaultA vaultB : Pubkey}
    (hmem : .call tx accounts (15 :: data) ∈ t.moves)
    (hbind : AtomicSwapBorrow.bind accounts = some ctx)
    (hfollows : tx.RepayFollows ctx.integration.pubkey ctx.recipientTokenAccountA.pubkey
      ctx.recipientTokenAccountB.pubkey vaultA vaultB) :
    ∃ i last repay, tx = t.context i ∧ t.Borrows i last ⟨ID, accounts, 15 :: data⟩ repay := by
  obtain ⟨i, rfl, hmakes⟩ := call_mem hmem
  have hlen : (t.context i).instructions.length = t.topLevel.length := length_instructions
  have hnotLast : (i : Nat) + 1 < t.topLevel.length := hfollows.notLast.trans_eq hlen
  have hix : (t.topLevel.get i).ix = ⟨ID, accounts, 15 :: data⟩ := by
    cases hmakes with
    | direct h => exact h
    | inner hid =>
      have hdirect := hfollows.direct.1
      rw [context_currentIx] at hdirect
      exact absurd hdirect hid
  obtain ⟨repay, hrepay, ⟨hid, hdata⟩, hintegration, hpayerA, hpayerB⟩ := hfollows.repay
  let last : Fin t.topLevel.length := ⟨t.topLevel.length - 1, by omega⟩
  have hlast : (t.topLevel.get last).ix = repay := by
    have hget := getElem?_instructions (t := t) (i := last)
    have hrepay' : t.instructions[t.topLevel.length - 1]? = some repay := by
      rw [← hlen]
      exact hrepay
    exact Option.some.inj (hget.symm.trans hrepay')
  obtain ⟨rest, hrest⟩ := AtomicSwapBorrow.bind_eq hbind
  refine ⟨i, last, repay, rfl, hix, rfl, hlast, hid, ?_, ?_, ?_, ?_, ?_, ?_, ?_⟩
  · obtain ⟨rest, hcons⟩ := List.head?_eq_some_iff.mp (List.head?_eq_getElem? ▸ hdata)
    exact ⟨rest, hcons⟩
  · exact Nat.sub_add_cancel (by omega)
  · exact Nat.lt_sub_of_add_lt hnotLast
  · intro j hj hjlast
    have hjlen : (j : Nat) + 1 < t.topLevel.length := Nat.add_lt_of_lt_sub hjlast
    exact hfollows.alone hj (hjlen.trans_eq hlen.symm) getElem?_instructions
  · rw [hrest]
    exact hintegration
  · rw [hrest]
    exact hpayerA
  · rw [hrest]
    exact hpayerB

/-- The calls between a Borrow and its Repay. -/
def Between (t : Transaction) (i last : Fin t.topLevel.length) (m : Move) : Prop :=
  ∀ tx accounts data, m = .call tx accounts data →
    ∃ j : Fin t.topLevel.length, tx = t.context j ∧ (i : Nat) < j ∧ (j : Nat) < last

/-- **The moves after a Borrow**: what others do, and then the Repay. -/
theorem Borrows.after {i last : Fin t.topLevel.length} {borrow repay : Instruction}
    {before after : List Move} (h : t.Borrows i last borrow repay)
    (hmoves : t.moves = before ++ .call (t.context i) borrow.accounts borrow.data :: after) :
    ∃ mid, after = mid ++ [.call (t.context last) repay.accounts repay.data] ∧
      ∀ m ∈ mid, t.Between i last m := by
  have hlast : t.instructions[t.instructions.length - 1]? = some repay := by
    have hindex : t.instructions.length - 1 = last := by
      rw [length_instructions]
      exact Nat.sub_eq_of_eq_add h.isLast.symm
    rw [hindex, getElem?_instructions, h.repayIx]
  obtain ⟨moves, i', hmoves', hi'⟩ := moves_last hlast h.repayId
  obtain rfl : i' = last := Fin.ext (Nat.succ.inj (hi'.trans h.isLast.symm))
  have hsorted := t.moves_sorted
  rcases List.eq_nil_or_concat after with rfl | ⟨mid, m, rfl⟩
  · -- the Borrow would be the last move itself
    have heq := List.append_inj_right' (hmoves.symm.trans hmoves') rfl
    have hcontext := (Move.call.inj (List.cons.inj heq).1).1
    have hcurrent := congrArg TxContext.loadCurrentIndex hcontext
    exact absurd hcurrent (Nat.ne_of_lt h.lt)
  · have happend : (before ++ .call (t.context i) borrow.accounts borrow.data :: mid) ++ [m] =
        moves ++ [.call (t.context i') repay.accounts repay.data] := by
      rw [← hmoves', hmoves, List.append_assoc, List.cons_append, List.concat_eq_append]
    obtain ⟨hinit, hm⟩ := List.append_inj' happend rfl
    obtain rfl := (List.cons.inj hm).1
    refine ⟨mid, List.concat_eq_append, ?_⟩
    rintro _ hmid tx accounts data rfl
    rw [hmoves', ← hinit] at hsorted
    have hmem : .call tx accounts data ∈ t.moves := by
      rw [hmoves', ← hinit]
      exact List.mem_append_left _ (List.mem_append_right _ (List.mem_cons_of_mem _ hmid))
    obtain ⟨j, rfl, -⟩ := call_mem hmem
    -- it comes after the Borrow and before the Repay, which are moves of their own
    obtain ⟨hfirst, -, hrepay⟩ := List.pairwise_append.mp hsorted
    have hborrow := (List.pairwise_cons.mp (List.pairwise_append.mp hfirst).2.1).1 _ hmid
    have hlater := hrepay _ (List.mem_append_right _ (List.mem_cons_of_mem _ hmid)) _
      (List.mem_singleton_self _)
    obtain ⟨hij, hij'⟩ := hborrow _ rfl _ rfl
    obtain ⟨hjl, hjl'⟩ := hlater _ rfl _ rfl
    refine ⟨j, rfl, lt_of_le_of_ne hij fun heq => ?_, lt_of_le_of_ne hjl fun heq => ?_⟩
    · refine hij' heq _ getElem?_instructions ?_
      rw [h.borrowIx]
      exact h.borrowId
    · refine hjl' heq _ getElem?_instructions ?_
      have hj : j = i' := Fin.ext heq
      rw [hj, h.repayIx]
      exact h.repayId

end Transaction

/-! ## Runs within a transaction -/

section Run

variable {steps : List (Step World Move)}

omit [Chain] in
theorem Transaction.tick_not_mem {clock : Clock} : .tick clock ∉ t.moves := by
  intro hmem
  obtain ⟨i, -, hmem⟩ := List.mem_flatMap.mp hmem
  unfold TopLevel.moves at hmem
  split at hmem
  · cases List.mem_singleton.mp hmem
  · obtain ⟨action, -, haction⟩ := List.mem_map.mp hmem
    cases action with
    | env => cases haction
    | call => cases haction

/-- The clock stands still in a transaction. -/
theorem Moves.clock_eq_run (h : Trace Moves w steps w')
    (hmoves : ∀ s ∈ steps, s.move ∈ t.moves) : w'.clock = w.clock := by
  induction h with
  | nil => rfl
  | cons hmove _ ih =>
    obtain ⟨hhead, htail⟩ := List.forall_mem_cons.mp hmoves
    rw [ih htail]
    cases hmove with
    | env => rfl
    | tick => exact absurd hhead Transaction.tick_not_mem
    | call hsigners hrun =>
      obtain ⟨es, heffect⟩ := processInstruction_effect hsigners hrun
      exact heffect.clock

end Run

/-! ## The pair -/

/-- **A Borrow and the Repay of the same swap**, at this clock: the Repay found the accounts as
    the Borrow saved them. -/
structure SwapPair (tx : TxContext) (s r : Step World Move) where
  ctx : AtomicSwapBorrow
  ctx' : AtomicSwapRepay
  amount : UInt64
  cfg : AtomicSwapConfig
  idle : AtomicSwapState
  lent : AtomicSwapState
  c : Controller
  p : Permission
  i : Integration
  iL : Integration
  iR : Integration
  rA : Reserve
  rAL : Reserve
  rAR : Reserve
  rB : Reserve
  rBL : Reserve
  rBR : Reserve
  wL : World
  es : List LogEntry
  c' : Controller
  p' : Permission
  o : Oracle
  final : UInt64
  deltaA : UInt64
  deltaB : UInt64
  wR : World
  es' : List LogEntry
  borrowMove : ∃ accounts,
    s.move = .call tx accounts (15 :: Borsh.write (AtomicSwapBorrowArgs.mk amount)) ∧
      AtomicSwapBorrow.bind accounts = some ctx
  repayMove : ∃ tx' accounts data, r.move = .call tx' accounts (16 :: data) ∧
    AtomicSwapRepay.bind accounts = some ctx'
  borrowParties : BorrowParties ctx s.before c p i rA rB
  borrowRun : BorrowRun tx ctx amount s.before wL i iL cfg idle lent rA rAL rB rBL es
  charges : BorrowCharges ctx c amount s.before i iL idle lent rA rAL rB rBL
  lent_after : s.after = (((wL.setKeel ctx.reserveA.pubkey (.reserve rAL)).setKeel
    ctx.reserveB.pubkey (.reserve rBL)).setKeel ctx.integration.pubkey (.integration iL)).setKeel
      ctx.controller.pubkey (.controller { c with status := .AtomicSwapLock })
  repayParties : RepayParties ctx' r.before c' p' iL rAL rBL o
  repayRun : RepayRun ctx' r.before wR iL iR cfg lent rAL rAR rBL rBR o final deltaA deltaB es'
  credits : RepayCredits r.before iL iR lent rAL rAR rBL rBR deltaA deltaB
  repaid_after : r.after = (((wR.setKeel ctx'.controller.pubkey
    (.controller { c' with status := .Active })).setKeel ctx'.reserveA.pubkey
      (.reserve rAR)).setKeel ctx'.reserveB.pubkey (.reserve rBR)).setKeel
        ctx'.integration.pubkey (.integration iR)
  controller_eq : ctx'.controller.pubkey = ctx.controller.pubkey
  integration_eq : ctx'.integration.pubkey = ctx.integration.pubkey
  reserveA_eq : ctx'.reserveA.pubkey = ctx.reserveA.pubkey
  reserveB_eq : ctx'.reserveB.pubkey = ctx.reserveB.pubkey
  mint_ne : rA.mint ≠ rB.mint
  holdings : SameHoldings ctx.controller.pubkey s.after r.before
  clock_eq : r.before.clock = s.before.clock

section Pair

variable {s r : Step World Move} {mid : List (Step World Move)} {ctx : AtomicSwapBorrow}
  {ctx' : AtomicSwapRepay} {amount : UInt64} {es es' : List LogEntry}

/-- A reserve's address follows from its controller and its mint. -/
theorem Reserve.At.key_eq {r r' : Reserve} {w w' : World} {ck k k' : Pubkey} (h : r.At w ck k)
    (h' : r'.At w' ck k') (hmint : r.mint = r'.mint) : k = k' := by
  have hseeds := h.seeds
  rw [Reserve.seeds, h.controller, hmint, ← h'.controller] at hseeds
  exact Option.some.inj (hseeds.symm.trans h'.seeds)

/-- At one address there is one reserve. -/
theorem Reserve.At.eq_of_keel {r r' : Reserve} {w : World} {ck k : Pubkey} (h : r.At w ck k)
    (hk : w.keel k = some (.reserve r')) : r = r' := by
  have hkeel := h.keel
  rw [hk] at hkeel
  exact (KeelAccount.reserve.inj (Option.some.inj hkeel)).symm

/-- A Borrow taken apart, with the state after it. -/
theorem BorrowDone.parts (h : BorrowDone tx ctx amount w w' es) :
    ∃ c p i iL cfg idle lent rA rAL rB rBL wL, BorrowParties ctx w c p i rA rB ∧
      BorrowRun tx ctx amount w wL i iL cfg idle lent rA rAL rB rBL es ∧
      BorrowCharges ctx c amount w i iL idle lent rA rAL rB rBL ∧
      w' = (((wL.setKeel ctx.reserveA.pubkey (.reserve rAL)).setKeel ctx.reserveB.pubkey
        (.reserve rBL)).setKeel ctx.integration.pubkey (.integration iL)).setKeel
          ctx.controller.pubkey (.controller { c with status := .AtomicSwapLock }) := by
  cases h with
  | done hparties hrun hcharges =>
    exact ⟨_, _, _, _, _, _, _, _, _, _, _, _, hparties, hrun, hcharges, rfl⟩

theorem RepayDone.parts (h : RepayDone ctx' w w' es) :
    ∃ c p i iR cfg lent rA rAR rB rBR o final deltaA deltaB wR, RepayParties ctx' w c p i rA rB o ∧
      RepayRun ctx' w wR i iR cfg lent rA rAR rB rBR o final deltaA deltaB es ∧
      RepayCredits w i iR lent rA rAR rB rBR deltaA deltaB ∧
      w' = (((wR.setKeel ctx'.controller.pubkey (.controller { c with status := .Active })).setKeel
        ctx'.reserveA.pubkey (.reserve rAR)).setKeel ctx'.reserveB.pubkey (.reserve rBR)).setKeel
          ctx'.integration.pubkey (.integration iR) := by
  cases h with
  | done hparties hrun hcredits =>
    exact ⟨_, _, _, _, _, _, _, _, _, _, _, _, _, _, _, hparties, hrun, hcredits, rfl⟩

/-- **A Repay finds what the Borrow left.** The integration that it names is the Borrow's, and
    has the Borrow's controller, which is locked when Repay begins; so everything that this
    controller holds is as it was after the Borrow. -/
theorem RepayFinds.of_borrow {c c' : Controller} {p : Permission} {i iL i' : Integration}
    {cfg cfg' : AtomicSwapConfig} {idle lent lent' : AtomicSwapState}
    {rA rAL rA' rB rBL rB' : Reserve} {wL w₂ : World} (hsound : Sound w)
    (hparties : BorrowParties ctx w c p i rA rB)
    (hrun : BorrowRun tx ctx amount w wL i iL cfg idle lent rA rAL rB rBL es)
    (hsaved : SwapSaved w w' ctx.controller.pubkey ctx.integration.pubkey ctx.reserveA.pubkey
      ctx.reserveB.pubkey { c with status := .AtomicSwapLock } iL rAL rBL)
    (hmid : Trace Moves w' mid w₂) (hordinary : ∀ x ∈ mid, Ordinary x)
    (hfinds : RepayFinds ctx' w₂ c' i' cfg' lent' rA' rB')
    (hkey : ctx'.integration.pubkey = ctx.integration.pubkey) :
    SameHoldings ctx.controller.pubkey w' w₂ ∧ ctx'.controller.pubkey = ctx.controller.pubkey ∧
      ctx'.reserveA.pubkey = ctx.reserveA.pubkey ∧ ctx'.reserveB.pubkey = ctx.reserveB.pubkey ∧
        i' = iL ∧ cfg' = cfg ∧ lent' = lent ∧ rA' = rAL ∧ rB' = rBL := by
  have haccounts := hrun.swapAccounts hparties
  have hne := haccounts.key_ne (haccounts.mint_ne hsound.distinct)
  have hiL : iL.controller = ctx.controller.pubkey :=
    hrun.integration.controller_eq.trans hparties.integration.controller
  -- the Repay's controller is the Borrow's
  obtain ⟨i'', hi'', hsame⟩ := Moves.integration_frame_run hmid hsaved.integration
  have hi' := hfinds.integration.keel
  rw [hkey, hi''] at hi'
  obtain rfl := KeelAccount.integration.inj (Option.some.inj hi')
  have hck : ctx'.controller.pubkey = ctx.controller.pubkey := by
    rw [← hfinds.integration.controller, hsame.controller, hiL]
  have hlocked : Locked w₂ ctx.controller.pubkey :=
    ⟨c', hck ▸ hfinds.controller.keel, hfinds.locked⟩
  obtain ⟨-, hholdings, -⟩ := Moves.sameHoldings_run hmid hordinary hlocked
  -- so the integration is as the Borrow saved it
  have hkept := hholdings.account ctx.integration.pubkey
    (.inl (by rw [hsaved.integration]; exact congrArg some hiL))
  rw [hsaved.integration, hi''] at hkept
  obtain rfl := KeelAccount.integration.inj (Option.some.inj hkept)
  have hconfig := hrun.integration.config_eq.trans hrun.config
  rw [hfinds.config] at hconfig
  obtain rfl := IntegrationConfig.AtomicSwap.inj hconfig
  have hstate := hrun.state'
  rw [hfinds.state] at hstate
  obtain rfl := IntegrationState.AtomicSwap.inj hstate
  -- and its configuration names the reserves
  have hkeyA := hfinds.reserveA.key_eq (hck ▸ hparties.reserveA)
    (hfinds.inputToken.symm.trans hrun.inputToken)
  have hkeyB := hfinds.reserveB.key_eq (hck ▸ hparties.reserveB)
    (hfinds.outputToken.symm.trans hrun.outputToken)
  obtain ⟨_, hbookedA, -⟩ := hrun.reserveA
  obtain ⟨_, hbookedB, -⟩ := hrun.reserveB
  have hkeptA := hholdings.account ctx.reserveA.pubkey (.inl (by
    rw [hsaved.reserveA hne]
    exact congrArg some (hbookedA.controller_eq.trans hparties.reserveA.controller)))
  have hkeptB := hholdings.account ctx.reserveB.pubkey (.inl (by
    rw [hsaved.reserveB]
    exact congrArg some (hbookedB.controller_eq.trans hparties.reserveB.controller)))
  rw [hsaved.reserveA hne, ← hkeyA] at hkeptA
  rw [hsaved.reserveB, ← hkeyB] at hkeptB
  exact ⟨hholdings, hck, hkeyA, hkeyB, rfl, rfl, rfl, hfinds.reserveA.eq_of_keel hkeptA,
    hfinds.reserveB.eq_of_keel hkeptB⟩

theorem SwapPair.of_done (hsound : Sound s.before)
    (hmove : ∃ accounts,
      s.move = .call tx accounts (15 :: Borsh.write (AtomicSwapBorrowArgs.mk amount)) ∧
        AtomicSwapBorrow.bind accounts = some ctx)
    (hmove' : ∃ tx' accounts data, r.move = .call tx' accounts (16 :: data) ∧
      AtomicSwapRepay.bind accounts = some ctx')
    (hborrow : BorrowDone tx ctx amount s.before s.after es)
    (hmid : Trace Moves s.after mid r.before) (hordinary : ∀ x ∈ mid, Ordinary x)
    (hrepay : RepayDone ctx' r.before r.after es')
    (hkey : ctx'.integration.pubkey = ctx.integration.pubkey)
    (hclock : r.before.clock = s.before.clock) : Nonempty (SwapPair tx s r) := by
  obtain ⟨c, p, i, iL, cfg, idle, lent, rA, rAL, rB, rBL, wL, hparties, hrun, hcharges, hafter⟩ :=
    hborrow.parts
  obtain ⟨c', p', i', iR, cfg', lent', rA', rAR, rB', rBR, o, final, deltaA, deltaB, wR, hparties',
    hrun', hcredits, hafter'⟩ := hrepay.parts
  have haccounts := hrun.swapAccounts hparties
  have hsaved : SwapSaved s.before s.after ctx.controller.pubkey ctx.integration.pubkey
      ctx.reserveA.pubkey ctx.reserveB.pubkey { c with status := .AtomicSwapLock } iL rAL rBL := by
    rw [hafter]
    exact haccounts.saved_borrow hrun.grows.keel
  obtain ⟨hholdings, hck, hkeyA, hkeyB, rfl, rfl, rfl, rfl, rfl⟩ := (hrun'.finds hparties').of_borrow
    hsound hparties hrun hsaved hmid hordinary hkey
  exact ⟨⟨ctx, ctx', amount, cfg', idle, lent', c, p, i, i', iR, rA, rA', rAR, rB, rB', rBR, wL, es,
    c', p', o, final, deltaA, deltaB, wR, es', hmove, hmove', hparties, hrun, hcharges, hafter,
    hparties', hrun', hcredits, hafter', hck, hkey, hkeyA, hkeyB,
    haccounts.mint_ne hsound.distinct, hholdings, hclock⟩⟩

end Pair

namespace SwapPair

variable {s r : Step World Move}

theorem bank_lent (x : SwapPair tx s r) : s.after.bank = x.wL.bank := by
  rw [x.lent_after]
  rfl

theorem bank_repaid (x : SwapPair tx s r) : r.after.bank = x.wR.bank := by
  rw [x.repaid_after]
  rfl

theorem vaultA_eq (x : SwapPair tx s r) : x.rAL.vault = x.rA.vault := by
  obtain ⟨_, hbooked, -⟩ := x.borrowRun.reserveA
  exact hbooked.vault_eq

theorem vaultB_eq (x : SwapPair tx s r) : x.rBL.vault = x.rB.vault := by
  obtain ⟨_, hbooked, -⟩ := x.borrowRun.reserveB
  exact hbooked.vault_eq

theorem key_ne (x : SwapPair tx s r) : x.ctx.reserveA.pubkey ≠ x.ctx.reserveB.pubkey :=
  (x.borrowRun.swapAccounts x.borrowParties).key_ne x.mint_ne

/-- The accounts after the Borrow. -/
theorem lent_saved (x : SwapPair tx s r) :
    SwapSaved s.before s.after x.ctx.controller.pubkey x.ctx.integration.pubkey
      x.ctx.reserveA.pubkey x.ctx.reserveB.pubkey { x.c with status := .AtomicSwapLock } x.iL x.rAL
        x.rBL := by
  rw [x.lent_after]
  exact (x.borrowRun.swapAccounts x.borrowParties).saved_borrow x.borrowRun.grows.keel

/-- The accounts after the Repay. -/
theorem repaid_saved (x : SwapPair tx s r) :
    SwapSaved r.before r.after x.ctx.controller.pubkey x.ctx.integration.pubkey
      x.ctx.reserveA.pubkey x.ctx.reserveB.pubkey { x.c' with status := .Active } x.iR x.rAR
        x.rBR := by
  rw [x.repaid_after, ← x.controller_eq, ← x.integration_eq, ← x.reserveA_eq, ← x.reserveB_eq]
  exact (x.repayRun.swapAccounts x.repayParties).saved_repay x.repayRun.grows.keel

/-- The vaults that a Borrow names. -/
theorem vaults (x : SwapPair tx s r) (hbind : AtomicSwapBorrow.bind accounts = some x.ctx) :
    accounts[6]?.map AccountMeta.pubkey = some x.rA.vault ∧
      accounts[9]?.map AccountMeta.pubkey = some x.rB.vault := by
  obtain ⟨rest, rfl⟩ := AtomicSwapBorrow.bind_eq hbind
  rw [x.borrowParties.vaultA, x.borrowParties.vaultB]
  exact ⟨rfl, rfl⟩

theorem locked (x : SwapPair tx s r) : Locked r.before x.ctx.controller.pubkey :=
  ⟨x.c', x.controller_eq ▸ x.repayParties.controller.keel, x.repayParties.controllerLocked⟩

/-- What the Borrow took. -/
theorem vaultA_lent (x : SwapPair tx s r) (laws : TokenLaws) :
    s.before.bank.tokenAmount x.rA.vault = s.after.bank.tokenAmount x.rA.vault + x.amount.toNat := by
  rw [x.bank_lent]
  exact x.borrowRun.moved laws

theorem vaultB_lent (x : SwapPair tx s r) (laws : TokenLaws) :
    s.after.bank.tokenAmount x.rB.vault = s.before.bank.tokenAmount x.rB.vault := by
  rw [x.bank_lent]
  exact x.borrowRun.kept laws x.mint_ne

/-- **The vaults at the entry of the Repay** hold what the Borrow left. -/
theorem vaultA_kept (x : SwapPair tx s r) (laws : TokenLaws) :
    r.before.bank.tokenAmount x.rA.vault = s.after.bank.tokenAmount x.rA.vault := by
  have hborrow := x.borrowRun.balanceA
  have hrepay := x.repayRun.balanceA
  have hlent := x.vaultA_lent laws
  rw [x.borrowRun.amountBorrowed, x.vaultA_eq] at hrepay
  omega

theorem vaultB_kept (x : SwapPair tx s r) (laws : TokenLaws) :
    r.before.bank.tokenAmount x.rB.vault = s.after.bank.tokenAmount x.rB.vault := by
  have hborrow := x.borrowRun.balanceB
  have hrepay := x.repayRun.balanceB
  rw [x.vaultB_eq] at hrepay
  rw [x.vaultB_lent laws, hrepay, hborrow]

/-- What the Repay brought back. -/
theorem vaultA_repaid (x : SwapPair tx s r) (laws : TokenLaws) (hr : Reachable r.before) :
    r.after.bank.tokenAmount x.rA.vault =
      r.before.bank.tokenAmount x.rA.vault + x.deltaA.toNat := by
  obtain ⟨-, c, -, hvault⟩ := hr.sound.reserve x.repayParties.reserveA.keel
  obtain ⟨_, hbookedA, -⟩ := x.borrowRun.reserveA
  obtain ⟨_, hbookedB, -⟩ := x.borrowRun.reserveB
  have hmint : x.rAL.mint ≠ x.rBL.mint := by
    rw [hbookedA.mint_eq, hbookedB.mint_eq]
    exact x.mint_ne
  rw [x.bank_repaid, ← x.vaultA_eq]
  exact x.repayRun.gainedA laws (hr.wellFormed laws) _ (hvault laws) hmint

theorem vaultB_repaid (x : SwapPair tx s r) :
    r.after.bank.tokenAmount x.rB.vault =
      r.before.bank.tokenAmount x.rB.vault + x.deltaB.toNat := by
  rw [x.bank_repaid, ← x.vaultB_eq]
  exact x.repayRun.gainedB

end SwapPair

/-! ## The whole transaction -/

section Transaction

variable {s : Step World Move} {pre post : List (Step World Move)}

/-- The Borrow of a transaction, in its place: where it stands, what precedes it, what comes
    between it and its Repay, and the two as a pair. -/
structure SwapTransaction (t : Transaction) (pre : List (Step World Move)) (s : Step World Move)
    (post : List (Step World Move)) (i last : Fin t.topLevel.length) (borrow repay : Instruction)
    (mid : List (Step World Move)) (r : Step World Move) : Prop where
  borrows : t.Borrows i last borrow repay
  borrowMove : s.move = .call (t.context i) borrow.accounts borrow.data
  after : post = mid ++ [r]
  repayMove : r.move = .call (t.context last) repay.accounts repay.data
  before : ∀ x ∈ pre, ¬ IsBorrow x
  between : ∀ x ∈ mid, Ordinary x
  pair : Nonempty (SwapPair (t.context i) s r)

/-- The Repay is the last step. -/
theorem SwapTransaction.after_eq {i last : Fin t.topLevel.length} {borrow repay : Instruction}
    {mid : List (Step World Move)} {r : Step World Move}
    (h : SwapTransaction t pre s post i last borrow repay mid r)
    (htrace : Trace Moves w (pre ++ s :: post) w') : r.after = w' := by
  obtain ⟨-, -, hpost⟩ := htrace.split_cons
  rw [h.after] at hpost
  exact hpost.eq_last

/-- Its state before is reachable. -/
theorem SwapTransaction.reachable {i last : Fin t.topLevel.length} {borrow repay : Instruction}
    {mid : List (Step World Move)} {r : Step World Move}
    (h : SwapTransaction t pre s post i last borrow repay mid r) (hw : Reachable w)
    (htrace : Trace Moves w (pre ++ s :: post) w') : Reachable r.before := by
  obtain ⟨hpre, hs, hpost⟩ := htrace.split_cons
  rw [h.after] at hpost
  exact hw.trace (hpre.append (.cons hs hpost.split_cons.1))

/-- No Borrow precedes another one: it would have seen it. -/
theorem Transaction.Borrows.not_before {i last : Fin t.topLevel.length}
    {borrow repay : Instruction} (h : t.Borrows i last borrow repay)
    (hprecedes : t.Precedes (.call tx accounts (15 :: data))
      (.call (t.context i) borrow.accounts borrow.data))
    (hmem : .call tx accounts (15 :: data) ∈ t.moves) :
    ¬ Moves w (.call tx accounts (15 :: data)) w' := by
  intro hmove
  obtain ⟨ctx, amount, es, hbind, -, -⟩ := hmove.borrow
  obtain ⟨vaultA, vaultB, hfollows⟩ := hmove.repayFollows hbind
  obtain ⟨j, last', repay', rfl, hborrows⟩ := Transaction.borrows hmem hbind hfollows
  obtain ⟨hle, heq⟩ := hprecedes _ rfl _ rfl
  have hid : (t.topLevel.get i).ix.programId = ID := by
    rw [h.borrowIx]
    exact h.borrowId
  have hid' : (t.topLevel.get j).ix.programId = ID := by rw [hborrows.borrowIx]
  rcases Nat.lt_or_eq_of_le hle with hlt | hsame
  · refine hborrows.alone i hlt ?_ hid
    have hlast := hborrows.isLast.trans h.isLast.symm
    exact lt_of_lt_of_eq h.lt (Nat.succ.inj hlast).symm
  · exact heq hsame _ Transaction.getElem?_instructions hid'

/-- Between the two, other programs call, and no call of theirs can be a Borrow. -/
theorem Transaction.Between.ordinary {i last : Fin t.topLevel.length}
    {borrow repay : Instruction} {x : Step World Move} (h : t.Borrows i last borrow repay)
    (hbetween : t.Between i last x.move) (hmove : Moves x.before x.move x.after) : Ordinary x := by
  constructor
  · rintro ⟨tx, accounts, data, hx⟩
    obtain ⟨j, rfl, hij, hjl⟩ := hbetween _ _ _ hx
    rw [hx] at hmove
    obtain ⟨ctx, amount, es, hbind, -⟩ := hmove.borrow
    obtain ⟨vaultA, vaultB, hfollows⟩ := hmove.repayFollows hbind
    have hdirect := hfollows.direct.1
    rw [Transaction.context_currentIx] at hdirect
    exact h.alone j hij hjl hdirect
  · intro tx accounts data hx hreset
    obtain ⟨j, rfl, -, hjl⟩ := hbetween _ _ _ hx
    have hposition := hreset.position
    have hlen : (t.context j).instructions.length = t.topLevel.length :=
      Transaction.length_instructions
    have hsucc : (j : Nat) + 1 = (last : Nat) + 1 := hposition.trans (hlen.trans h.isLast.symm)
    exact absurd (Nat.succ.inj hsucc) (Nat.ne_of_lt hjl)

/-- **Around a Borrow**, when a run made some of the transaction's moves and another is to come:
    no Borrow precedes it, and what follows it is ordinary. -/
theorem Transaction.Borrows.around {i last : Fin t.topLevel.length} {borrow repay : Instruction}
    {mid : List (Step World Move)} {rest : List Move} (h : t.Borrows i last borrow repay)
    (htrace : Trace Moves w (pre ++ s :: mid) w')
    (hs : s.move = .call (t.context i) borrow.accounts borrow.data)
    (hmoves : t.moves = (pre ++ s :: mid).map Step.move ++ m :: rest) :
    (∀ x ∈ pre, ¬ IsBorrow x) ∧ ∀ x ∈ mid, Ordinary x := by
  obtain ⟨hpre, -, hmid⟩ := htrace.split_cons
  have hmoves' : t.moves = pre.map Step.move ++
      .call (t.context i) borrow.accounts borrow.data :: (mid.map Step.move ++ m :: rest) := by
    rw [hmoves, List.map_append, List.map_cons, hs, List.append_assoc, List.cons_append]
  constructor
  · rintro x hx ⟨tx, accounts, data, hmove⟩
    have hsorted := t.moves_sorted
    rw [hmoves'] at hsorted
    have hprecedes := (List.pairwise_append.mp hsorted).2.2 x.move (List.mem_map_of_mem hx) _
      List.mem_cons_self
    have hmem : x.move ∈ t.moves := by
      rw [hmoves']
      exact List.mem_append_left _ (List.mem_map_of_mem hx)
    have hxstep := hpre.step_mem hx
    rw [hmove] at hprecedes hmem hxstep
    exact h.not_before hprecedes hmem hxstep
  · intro x hx
    obtain ⟨between, hafter, hbetween⟩ := h.after hmoves'
    have hinit := congrArg List.dropLast hafter
    rw [List.dropLast_append_of_ne_nil (List.cons_ne_nil _ _), List.dropLast_concat] at hinit
    have hmem : x.move ∈ between := by
      rw [← hinit]
      exact List.mem_append_left _ (List.mem_map_of_mem hx)
    exact Transaction.Between.ordinary h (hbetween _ hmem) (hmid.step_mem hx)

/-- **A Borrow in a transaction that commits.** -/
theorem Commits.swap (hw : Reachable w) (h : Commits w t (pre ++ s :: post) w')
    (hborrow : IsBorrow s) :
    ∃ i last borrow repay mid r, SwapTransaction t pre s post i last borrow repay mid r := by
  obtain ⟨tx, accounts, data, hs⟩ := hborrow
  obtain ⟨hpre, hstep, hpost⟩ := h.1.split_cons
  have hmem : ∀ x ∈ pre ++ s :: post, x.move ∈ t.moves := by
    intro x hx
    rw [← h.2]
    exact List.mem_map_of_mem hx
  have hstep' := hstep
  rw [hs] at hstep'
  obtain ⟨ctx, amount, es, hbind, rfl, hdone⟩ := hstep'.borrow
  obtain ⟨vaultA, vaultB, hfollows⟩ := hstep'.repayFollows hbind
  obtain ⟨i, last, repay, rfl, hborrows⟩ := Transaction.borrows
    (hs ▸ hmem s (List.mem_append_right _ List.mem_cons_self)) hbind hfollows
  have hmoves := h.2.symm
  rw [List.map_append, List.map_cons, hs] at hmoves
  obtain ⟨mmid, hafter, -⟩ := hborrows.after hmoves
  obtain ⟨mid, rs, rfl, rfl, hrs⟩ := List.map_eq_append_iff.mp hafter
  obtain ⟨r, rfl, hr⟩ := List.map_eq_singleton_iff.mp hrs
  obtain ⟨hmid, hrstep, -⟩ := hpost.split_cons
  have htrace : Trace Moves w (pre ++ s :: mid) r.before := hpre.append (.cons hstep hmid)
  have hmoves' : t.moves = (pre ++ s :: mid).map Step.move ++ r.move :: [] := by
    rw [← h.2, ← List.cons_append, ← List.append_assoc, List.map_append]
    rfl
  obtain ⟨hbefore, hordinary⟩ := hborrows.around htrace hs hmoves'
  refine ⟨i, last, _, repay, mid, r, hborrows, hs, rfl, hr, hbefore, hordinary, ?_⟩
  obtain ⟨rest, hrest⟩ := hborrows.repayData
  rw [hr, hrest] at hrstep
  obtain ⟨ctx', es', hbind', hdone'⟩ := hrstep.repay
  refine SwapPair.of_done (hw.trace hpre).sound ⟨_, hs, hbind⟩
    ⟨_, _, _, by rw [hr, hrest], hbind'⟩ hdone hmid hordinary hdone' ?_ ?_
  · -- the look around compared the integrations
    have hkey := hborrows.integration
    obtain ⟨_, haccounts⟩ := AtomicSwapBorrow.bind_eq hbind
    obtain ⟨_, haccounts'⟩ := AtomicSwapRepay.bind_eq hbind'
    rw [Instruction.keyAt, Instruction.keyAt, haccounts, haccounts'] at hkey
    exact Option.some.inj hkey
  · have hclock : r.before.clock = s.after.clock :=
      Moves.clock_eq_run hmid fun x hx =>
        hmem x (List.mem_append_right _ (List.mem_cons_of_mem _ (List.mem_append_left _ hx)))
    obtain ⟨es, heffect⟩ := hstep'.effect
    exact hclock.trans heffect.clock

end Transaction

end AlmController
