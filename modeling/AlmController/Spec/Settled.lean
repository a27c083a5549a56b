import AlmController.Spec.AtomicSwap

/-!
# Between transactions

A swap is over when its transaction is. Only a Borrow locks a controller or opens a swap, a
Borrow that commits is followed by its Repay, and the Repay unlocks the one and closes the
other. So between transactions no controller is locked and every swap's state is all zeros
(`Committed.settled`).

Whether an account is settled is a matter of that account alone, so an instruction that is no
Borrow settles nothing and unsettles nothing but what it names, and a run is followed one
account at a time.
-/

namespace AlmController

open Prog

variable [Chain]

variable {t : Transaction} {tx : TxContext} {accounts : List AccountMeta} {data : List UInt8}
  {w w' : World} {es : List LogEntry} {k : Pubkey} {new : Option KeelAccount} {m : Move}

/-- The account is in the middle of no swap. -/
def KeelAccount.Settled : KeelAccount → Prop
  | .controller c => ¬ c.isAtomicSwapLocked
  | .integration i => ∀ state, i.state = .AtomicSwap state → state = .closed
  | _ => True

/-- What is at `k`, if anything, is settled. -/
def SettledAt (w : World) (k : Pubkey) : Prop := ∀ a, w.keel k = some a → a.Settled

/-- No swap is going on. -/
def Settled (w : World) : Prop := ∀ k, SettledAt w k

/-! ## One step -/

omit [Chain] in
/-- What turns the lock of a controller that is not locked is a Borrow. -/
theorem TurnsLock.borrow {ck : Pubkey} (h : TurnsLock data w w' ck) (hlocked : ¬ Locked w ck) :
    data.head? = some 15 := by
  cases h with
  | locks hdata => exact hdata
  | unlocks _ hc hl => exact absurd ⟨_, hc, hl⟩ hlocked

omit [Chain] in
theorem StateStep.settled {i : Integration} {state : IntegrationState} (h : StateStep tx k i state)
    (hi : (KeelAccount.integration i).Settled) :
    ∀ swap, state = .AtomicSwap swap → swap = .closed := by
  cases h with
  | kept => exact hi
  | revalued hrevalued =>
    cases hrevalued with
    | drift => exact fun _ hswap => IntegrationState.noConfusion hswap
    | kamino => exact fun _ hswap => IntegrationState.noConfusion hswap
  | inFlight => exact fun _ hswap => IntegrationState.noConfusion hswap

/-- **Only a Borrow unsettles an account.** -/
theorem Change.settled (h : Change tx accounts data w w' es k (w.keel k) new)
    (hdata : data.head? ≠ some 15) (hold : SettledAt w k) : ∀ a, new = some a → a.Settled := by
  unfold SettledAt at hold
  intro a ha
  generalize hk : w.keel k = old at h hold
  cases h with
  | same => exact hold a ha
  | newController _ _ hstatus =>
    obtain rfl := Option.some.inj ha
    exact hstatus
  | @setStatus c status _ _ _ _ _ hauthorized =>
    obtain rfl := Option.some.inj ha
    intro hlocked
    -- no permission allows to set this status
    have hstatus : status = .AtomicSwapLock := hlocked
    subst hstatus
    obtain ⟨_, _, _, _, hfalse, -⟩ := hauthorized
    exact hfalse.elim
  | lock _ hactive hturns =>
    refine absurd (hturns.borrow ?_) hdata
    intro hlocked
    refine hlocked.not_running ⟨_, hk, ?_, ?_⟩
    · rw [Controller.isFrozen, hactive]
      exact ControllerStatus.noConfusion
    · rw [Controller.isAtomicSwapLocked, hactive]
      exact ControllerStatus.noConfusion
  | unlock =>
    obtain rfl := Option.some.inj ha
    exact fun hlocked => ControllerStatus.noConfusion hlocked
  | newIntegration _ _ _ _ hfresh =>
    obtain rfl := Option.some.inj ha
    intro state hstate
    have hidle := hfresh.idle
    rw [hstate] at hidle
    exact hidle
  | manageIntegration _ _ _ _ _ hupdate =>
    obtain rfl := Option.some.inj ha
    simp only [Integration.update, except_bind_ok, except_pure_ok] at hupdate
    obtain ⟨_, -, rfl⟩ := hupdate
    have hi := hold _ rfl
    exact hi
  | bookIntegration _ _ _ _ hstep =>
    obtain rfl := Option.some.inj ha
    exact hstep.settled (hold _ rfl)
  | lendIntegration _ hrunning _ _ _ _ hturns =>
    exact absurd (hturns.borrow fun hlocked => hlocked.not_running hrunning) hdata
  | repayIntegration _ _ _ _ hlent hreset =>
    obtain rfl := Option.some.inj ha
    intro state hstate
    rw [hreset] at hstate
    obtain rfl := IntegrationState.AtomicSwap.inj hstate
    rw [hold _ rfl _ hlent]
    rfl
  | resetIntegration =>
    obtain rfl := Option.some.inj ha
    exact fun _ hswap => IntegrationState.noConfusion hswap
  | _ =>
    obtain rfl := Option.some.inj ha
    trivial

/-! ## Runs -/

theorem Moves.settledAt (h : Moves w m w') (hborrow : ¬ IsBorrow ⟨w, m, w'⟩)
    (hw : SettledAt w k) : SettledAt w' k := by
  rcases h.cases with ⟨tx, accounts, data, es, rfl, heffect⟩ | ⟨-, hsame⟩
  · refine (heffect.changes k).settled (fun hdata => hborrow ?_) hw
    obtain ⟨rest, rfl⟩ := List.head?_eq_some_iff.mp hdata
    exact ⟨tx, accounts, rest, rfl⟩
  · unfold SettledAt
    rw [hsame.keel]
    exact hw

/-- A run without a Borrow leaves what is settled settled. -/
theorem Moves.settledAt_run {steps : List (Step World Move)} (h : Trace Moves w steps w')
    (hborrow : ∀ s ∈ steps, ¬ IsBorrow s) (hw : SettledAt w k) : SettledAt w' k := by
  induction h with
  | nil => exact hw
  | cons hmove _ ih =>
    obtain ⟨hhead, htail⟩ := List.forall_mem_cons.mp hborrow
    exact ih htail (hmove.settledAt hhead hw)

omit [Chain] in
/-- What a Borrow saved is settled, but for the controller and the integration of its swap. -/
theorem SwapSaved.settledAt {ck ik kA kB : Pubkey} {c' : Controller} {i' : Integration}
    {rA' rB' : Reserve} (hsaved : SwapSaved w w' ck ik kA kB c' i' rA' rB') (hkeys : kA ≠ kB)
    (hck : k ≠ ck) (hik : k ≠ ik) (h : SettledAt w k) : SettledAt w' k := by
  intro a ha
  by_cases hA : k = kA
  · rw [hA, hsaved.reserveA hkeys] at ha
    obtain rfl := Option.some.inj ha
    trivial
  by_cases hB : k = kB
  · rw [hB, hsaved.reserveB] at ha
    obtain rfl := Option.some.inj ha
    trivial
  · rw [hsaved.frame k (by simp [hck, hik, hA, hB])] at ha
    exact h a ha

namespace SwapPair

variable {s r : Step World Move}

/-- The swap found its state all zeros, and leaves it so. -/
theorem closed (x : SwapPair tx s r) (h : SettledAt s.before x.ctx.integration.pubkey) :
    x.idle = .closed ∧ x.lent.reset = .closed := by
  have hidle : x.idle = .closed := h _ x.borrowParties.integration.keel _ x.borrowRun.state
  refine ⟨hidle, ?_⟩
  have hpadding := x.charges.padding
  rw [hidle] at hpadding
  unfold AtomicSwapState.reset
  rw [hpadding]
  rfl

end SwapPair

/-! ## Transactions -/

section Transaction

variable {s r : Step World Move} {pre post mid : List (Step World Move)}
  {i last : Fin t.topLevel.length} {borrow repay : Instruction}

/-- **A swap's transaction settles what was settled.** The Repay closes the swap and unlocks the
    controller; everything else the Borrow left settled. -/
theorem SwapTransaction.settled (h : SwapTransaction t pre s post i last borrow repay mid r)
    (htrace : Trace Moves w (pre ++ s :: post) w') (hw : Settled w) : Settled w' := by
  obtain ⟨hpre, -, hpost⟩ := htrace.split_cons
  have hafter := h.after_eq htrace
  rw [h.after] at hpost
  obtain ⟨hmid, hr, -⟩ := hpost.split_cons
  obtain ⟨x⟩ := h.pair
  have hbefore : Settled s.before := fun k => Moves.settledAt_run hpre h.before (hw k)
  intro k
  by_cases hck : k = x.ctx.controller.pubkey
  · intro a ha
    rw [← hafter, hck, x.repaid_saved.controller] at ha
    obtain rfl := Option.some.inj ha
    exact fun hlocked => nomatch hlocked
  by_cases hik : k = x.ctx.integration.pubkey
  · intro a ha
    rw [← hafter, hik, x.repaid_saved.integration] at ha
    obtain rfl := Option.some.inj ha
    intro state hstate
    rw [x.repayRun.state'] at hstate
    obtain rfl := IntegrationState.AtomicSwap.inj hstate
    exact (x.closed (hbefore _)).2
  · have hlent := x.lent_saved.settledAt x.key_ne hck hik (hbefore k)
    have hentry := Moves.settledAt_run hmid (fun y hy => (h.between y hy).notBorrow) hlent
    rw [← hafter]
    refine hr.settledAt ?_ hentry
    rintro ⟨_, _, _, hmove⟩
    obtain ⟨_, _, _, hrepay, -⟩ := x.repayMove
    rw [hrepay] at hmove
    cases hmove

/-- **Every transaction that commits settles what was settled.** -/
theorem Commits.settled {steps : List (Step World Move)} (hw : Reachable w) (hs : Settled w)
    (h : Commits w t steps w') : Settled w' := by
  by_cases hborrow : ∃ s ∈ steps, IsBorrow s
  · obtain ⟨s, hmem, hborrow⟩ := hborrow
    obtain ⟨pre, post, rfl⟩ := List.append_of_mem hmem
    obtain ⟨i, last, borrow, repay, mid, r, hswap⟩ := Commits.swap hw h hborrow
    exact hswap.settled h.1 hs
  · refine fun k => Moves.settledAt_run h.1 (fun s hs hb => hborrow ⟨s, hs, hb⟩) (hs k)

/-- **Between transactions no swap is going on.** -/
theorem Committed.settled (h : Committed w) : Settled w := by
  induction h with
  | genesis hgenesis =>
    intro k a ha
    rw [hgenesis.keel] at ha
    cases ha
  | env _ _ ih => exact ih
  | tick _ ih => exact ih
  | commit hcommitted hcommits ih => exact hcommits.settled hcommitted.reachable ih

end Transaction

/-! ## What a Repay follows -/

section Follows

variable {ctx : AtomicSwapBorrow} {ctx' : AtomicSwapRepay} {amount : UInt64} {c' : Controller}
  {i' : Integration} {cfg' : AtomicSwapConfig} {lent' : AtomicSwapState} {rA' rB' : Reserve}
  {steps mid : List (Step World Move)} {s : Step World Move} {rest : List Move}

/-- The Borrow before a Repay that is called at `w'`: the two name one integration, and between
    them everything was ordinary. -/
structure BorrowsBefore (tx : TxContext) (accounts : List AccountMeta) (ctx : AtomicSwapBorrow)
    (ctx' : AtomicSwapRepay) (amount : UInt64) (es : List LogEntry) (s : Step World Move)
    (mid : List (Step World Move)) (w' : World) : Prop where
  move : s.move = .call tx accounts (15 :: Borsh.write (AtomicSwapBorrowArgs.mk amount))
  bind : AtomicSwapBorrow.bind accounts = some ctx
  done : BorrowDone tx ctx amount s.before s.after es
  reachable : Reachable s.before
  run : Trace Moves s.after mid w'
  ordinary : ∀ x ∈ mid, Ordinary x
  key : ctx'.integration.pubkey = ctx.integration.pubkey
  clock : w'.clock = s.before.clock

/-- **A Repay that finds its controller locked follows a Borrow** of the same transaction, and of
    the same integration, wherever in the transaction it is called. -/
theorem RepayFinds.borrows (hw : Committed w) (htrace : Trace Moves w steps w')
    (hmoves : t.moves = steps.map Step.move ++ m :: rest)
    (hfinds : RepayFinds ctx' w' c' i' cfg' lent' rA' rB') :
    ∃ pre s mid tx accounts ctx amount es, steps = pre ++ s :: mid ∧
      BorrowsBefore tx accounts ctx ctx' amount es s mid w' := by
  have hsettled := hw.settled
  by_cases hborrow : ∃ s ∈ steps, IsBorrow s
  · obtain ⟨s, hmem, tx, accounts, data, hs⟩ := hborrow
    obtain ⟨pre, mid, rfl⟩ := List.append_of_mem hmem
    obtain ⟨hpre, hstep, hmid⟩ := htrace.split_cons
    have hmoves' : ∀ x ∈ pre ++ s :: mid, x.move ∈ t.moves := by
      intro x hx
      rw [hmoves]
      exact List.mem_append_left _ (List.mem_map_of_mem hx)
    have hstep' := hstep
    rw [hs] at hstep'
    obtain ⟨ctx, amount, es, hbind, rfl, hdone⟩ := hstep'.borrow
    obtain ⟨vaultA, vaultB, hfollows⟩ := hstep'.repayFollows hbind
    obtain ⟨j, last, repay, rfl, hborrows⟩ := Transaction.borrows
      (hs ▸ hmoves' s (List.mem_append_right _ List.mem_cons_self)) hbind hfollows
    obtain ⟨hbefore, hordinary⟩ := hborrows.around htrace hs hmoves
    obtain ⟨c, p, i, iL, cfg, idle, lent, rA, rAL, rB, rBL, wL, hparties, hrun, -, hafter⟩ :=
      hdone.parts
    have haccounts := hrun.swapAccounts hparties
    have hreachable := hw.reachable.trace hpre
    have hsaved : SwapSaved s.before s.after ctx.controller.pubkey ctx.integration.pubkey
        ctx.reserveA.pubkey ctx.reserveB.pubkey { c with status := .AtomicSwapLock } iL rAL rBL := by
      rw [hafter]
      exact haccounts.saved_borrow hrun.grows.keel
    have hne := haccounts.key_ne (haccounts.mint_ne hreachable.sound.distinct)
    refine ⟨pre, s, mid, _, accounts, ctx, amount, es, rfl, hs, hbind, hdone, hreachable, hmid,
      hordinary, ?_, ?_⟩
    · -- no swap is open but the Borrow's
      by_contra hother
      have hcontroller : ctx'.integration.pubkey ≠ ctx.controller.pubkey := by
        intro heq
        obtain ⟨_, hc⟩ := Moves.controller_run hmid hsaved.controller
        rw [← heq, hfinds.integration.keel] at hc
        cases hc
      have hentry : SettledAt s.before ctx'.integration.pubkey :=
        Moves.settledAt_run hpre hbefore (hsettled _)
      have hkept := Moves.settledAt_run hmid (fun x hx => (hordinary x hx).notBorrow)
        (hsaved.settledAt hne hcontroller hother hentry)
      have hclosed : lent' = .closed := hkept _ hfinds.integration.keel _ hfinds.state
      have hstarted := hfinds.started
      rw [hclosed] at hstarted
      exact absurd hstarted (by decide)
    · have hrest : w'.clock = s.after.clock := Moves.clock_eq_run hmid fun x hx =>
        hmoves' x (List.mem_append_right _ (List.mem_cons_of_mem _ hx))
      obtain ⟨_, heffect⟩ := hstep'.effect
      exact hrest.trans heffect.clock
  · -- no controller was locked to begin with, and nothing locked one
    have hkept := Moves.settledAt_run htrace (fun s hs hb => hborrow ⟨s, hs, hb⟩)
      (hsettled ctx'.controller.pubkey)
    exact absurd hfinds.locked (hkept _ hfinds.controller.keel)

/-- **A Repay that succeeds completes a pair.** -/
theorem Moves.repay_pair {tx' : TxContext} {accounts' : List AccountMeta} {data' : List UInt8}
    {w'' : World} (hw : Committed w) (htrace : Trace Moves w steps w')
    (hmoves : t.moves = steps.map Step.move ++ m :: rest)
    (h : Moves w' (.call tx' accounts' (16 :: data')) w'') :
    ∃ tx s, Nonempty (SwapPair tx s ⟨w', .call tx' accounts' (16 :: data'), w''⟩) := by
  obtain ⟨ctx', es', hbind', hdone'⟩ := h.repay
  obtain ⟨_, _, _, _, _, _, _, _, _, _, _, _, _, _, _, hparties', hrun', -⟩ := hdone'.parts
  obtain ⟨pre, s, mid, tx, accounts, ctx, amount, es, -, hborrows⟩ :=
    (hrun'.finds hparties').borrows hw htrace hmoves
  exact ⟨tx, s, SwapPair.of_done hborrows.reachable.sound ⟨accounts, hborrows.move, hborrows.bind⟩
    ⟨_, _, _, rfl, hbind'⟩ hborrows.done hborrows.run hborrows.ordinary hdone' hborrows.key
      hborrows.clock⟩

end Follows

end AlmController
