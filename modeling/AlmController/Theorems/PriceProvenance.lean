import AlmController.Spec.Accounted
import AlmController.Spec.AtomicSwap
import AlmController.Theorems.OracleStaleness

/-!
# Where a price comes from

A swap is settled at the price that an oracle account holds. Anybody may refresh that account, and
its authority may point it at another feed, so what it holds is worth only what its history is.

The invariant is about a run from the start: an oracle either has slot 0, which a new feed leaves,
or its price was read by a RefreshOracle of the run from the feed that it has now, and nothing
changed it since. Repay refuses slot 0, as prices from slot 0 are too old.

`repay_price_provenance` is about a Repay that succeeds, anywhere in a run from an empty program.
It ends at the feed: what Switchboard writes there is not this program's to say.
-/

namespace AlmController

open Prog

variable [Chain]

variable {tx : TxContext} {accounts : List AccountMeta} {data : List UInt8} {w₀ w w' : World}
  {m : Move} {k : Pubkey} {o o' : Oracle} {steps steps' : List (Step World Move)}

/-- The same price of the same feed. -/
structure Oracle.SamePrice (o o' : Oracle) : Prop where
  feed : o'.feed = o.feed
  value : o'.value = o.value
  slot : o'.lastUpdateSlot = o.lastUpdateSlot

/-- The step was a RefreshOracle that read this price from this oracle's feed, an account of the
    price program. -/
structure CopiedBy (o : Oracle) (s : Step World Move) : Prop where
  move : ∃ tx accounts data, s.move = .call tx accounts (14 :: data)
  owner : s.before.owner o.feed.priceFeed = SWITCHBOARD_ON_DEMAND_PROGRAM_ID
  feed : (s.before.bank o.feed.priceFeed).data.pullFeed? = some ⟨o.value, o.lastUpdateSlot⟩

/-- A step of the run read the oracle's price, and the oracle at `k` has had it ever since. -/
def CopiedIn (steps : List (Step World Move)) (k : Pubkey) (o : Oracle) : Prop :=
  ∃ pre s post, steps = pre ++ s :: post ∧ CopiedBy o s ∧
    ∀ s' ∈ s :: post, ∃ o', s'.after.keel k = some (.oracle o') ∧ o.SamePrice o'

omit [Chain] in
/-- It matters for the price alone. -/
theorem CopiedBy.congr {s : Step World Move} (h : CopiedBy o s) (hsame : o.SamePrice o') :
    CopiedBy o' s := by
  refine ⟨h.move, ?_, ?_⟩
  · rw [hsame.feed]
    exact h.owner
  · rw [hsame.feed, hsame.value, hsame.slot]
    exact h.feed

omit [Chain] in
/-- The price stays. -/
theorem CopiedIn.keep (h : CopiedIn steps k o) (hsame : o.SamePrice o')
    (hk : w'.keel k = some (.oracle o')) : CopiedIn (steps ++ [⟨w, m, w'⟩]) k o' := by
  obtain ⟨pre, s, post, rfl, hcopied, hsince⟩ := h
  have hback : ∀ {o''}, o.SamePrice o'' → o'.SamePrice o'' := fun {_} h =>
    ⟨h.feed.trans hsame.feed.symm, h.value.trans hsame.value.symm, h.slot.trans hsame.slot.symm⟩
  refine ⟨pre, s, post ++ [⟨w, m, w'⟩], by simp, hcopied.congr hsame, ?_⟩
  intro s' hs'
  rw [← List.cons_append, List.mem_append] at hs'
  -- since then until now, and now
  rcases hs' with hs' | hs'
  · obtain ⟨o'', hk'', hsame''⟩ := hsince s' hs'
    exact ⟨o'', hk'', hback hsame''⟩
  · obtain rfl := List.mem_singleton.mp hs'
    exact ⟨o', hk, rfl, rfl, rfl⟩

/-- **The invariant.** Every oracle is unread, or its price was copied in the run. -/
def Provenance (steps : List (Step World Move)) (w : World) : Prop :=
  ∀ ⦃k o⦄, w.keel k = some (.oracle o) → o.lastUpdateSlot = 0 ∨ CopiedIn steps k o

omit [Chain] in
/-- An oracle that keeps its price keeps its provenance. -/
theorem Provenance.keep (h : Provenance steps w) (hk : w.keel k = some (.oracle o))
    (hsame : o.SamePrice o') (hk' : w'.keel k = some (.oracle o')) :
    o'.lastUpdateSlot = 0 ∨ CopiedIn (steps ++ [⟨w, m, w'⟩]) k o' := by
  rcases h hk with hslot | hcopied
  · exact .inl (hsame.slot.trans hslot)
  · exact .inr (hcopied.keep hsame hk')

/-- A refresh, for the oracle refreshed and for every other one. -/
theorem Provenance.refresh {k' : Pubkey} (h : Provenance steps w) (hrefresh : RefreshedOracle k' w w')
    (hmove : ∃ tx accounts data, m = .call tx accounts (14 :: data))
    (hk' : w'.keel k = some (.oracle o')) :
    o'.lastUpdateSlot = 0 ∨ CopiedIn (steps ++ [⟨w, m, w'⟩]) k o' := by
  cases hrefresh with
  | @copied o feed ho hother howner hfeed =>
    -- the step that is appended is the one that copied
    by_cases hkey : k = k'
    · subst hkey
      rw [World.setKeel_keel_self] at hk'
      obtain rfl := KeelAccount.oracle.inj (Option.some.inj hk')
      refine .inr ⟨steps, _, [], rfl, ⟨hmove, howner, hfeed⟩, ?_⟩
      intro s' hs'
      obtain rfl := List.mem_singleton.mp hs'
      exact ⟨_, World.setKeel_keel_self, rfl, rfl, rfl⟩
    · have hk := hk'
      rw [World.setKeel_keel_of_ne hkey] at hk
      exact h.keep hk ⟨rfl, rfl, rfl⟩ hk'

/-- **One step.** -/
theorem Provenance.move (h : Provenance steps w) (hmove : Moves w m w') :
    Provenance (steps ++ [⟨w, m, w'⟩]) w' := by
  intro k o' hk'
  rcases hmove.cases with ⟨tx, accounts, data, es, rfl, heffect⟩ | ⟨-, hsame⟩
  · have hchange := heffect.changes k
    rw [hk'] at hchange
    generalize hk : w.keel k = old at hchange
    cases hchange with
    | same => exact h.keep hk ⟨rfl, rfl, rfl⟩ hk'
    | newOracle _ _ hslot => exact .inl hslot
    | @updateOracle o _ args _ _ _ _ hupdated =>
      -- another feed leaves slot 0, and without one only the authority is another
      by_cases hargs : args.feedArgs = none
      · obtain ⟨hfeed, hvalue, -, hslot⟩ := hupdated.kept hargs
        exact h.keep hk ⟨hfeed, hvalue, hslot⟩ hk'
      · exact .inl (hupdated.restarted hargs)
    -- the effect does not say what was read, so the instruction is looked at
    | refreshOracle _ hdata =>
      obtain ⟨rest, rfl⟩ := List.head?_eq_some_iff.mp hdata
      cases hmove with
      | call _ hrun =>
        have hrun' : processRefreshOracle accounts w = .ok ((), w') := hrun
        obtain ⟨k', hrefresh⟩ := processRefreshOracle_refreshed hrun'
        exact h.refresh hrefresh ⟨_, _, _, rfl⟩ hk'
  · have hk := hk'
    rw [hsame.keel] at hk
    exact h.keep hk ⟨rfl, rfl, rfl⟩ hk'

/-- And over a run. -/
theorem Provenance.run (h : Provenance steps w) (htrace : Trace Moves w steps' w') :
    Provenance (steps ++ steps') w' := by
  -- by induction on the run, which is appended to the one before
  induction htrace generalizing steps with
  | nil =>
    rw [List.append_nil]
    exact h
  | cons hstep _ ih =>
    rw [List.append_cons]
    exact ih (h.move hstep)

/-- The slot stands still in a transaction. -/
theorem Commits.inOrder {t : Transaction} (h : Commits w t steps w') : ∀ s ∈ steps, s.InOrder := by
  intro s hs
  have hmem : s.move ∈ t.moves := by
    rw [← h.2]
    exact List.mem_map_of_mem hs
  have hclock := Moves.clock_eq_run (.single (h.1.step_mem hs)) (fun s' hs' => by
    obtain rfl := List.mem_singleton.mp hs'
    exact hmem)
  exact (congrArg (·.slot.toNat) hclock).ge

/-- **Every swap is settled at a price with a history.** In a run from the start whose slots do
    not go back, the price of a Repay that succeeds is one that a RefreshOracle of the run copied
    from the oracle's present feed, that the oracle has had ever since, and that is not older than
    the configuration allows. -/
theorem repay_price_provenance (hgenesis : World.Genesis w₀) (h : Trace Moves w₀ steps w)
    (horder : ∀ s ∈ steps, s.InOrder) (hrepay : Moves w (.call tx accounts (16 :: data)) w') :
    ∃ k o cfg, w.keel k = some (.oracle o) ∧ cfg.oracle = k ∧ RepaysAgainst accounts w o cfg ∧
      CopiedIn steps k o ∧
      w.clock.slot.toNat ≤ o.lastUpdateSlot.toNat + cfg.maxStaleness.toNat := by
  have hbelow := ReachableInOrder.staleness ⟨w₀, steps, hgenesis, h, horder⟩
  have hprovenance : Provenance steps w := by
    have hnone : Provenance [] w₀ := by
      intro k o hk
      rw [hgenesis.keel k] at hk
      cases hk
    exact hnone.run h
  cases hrepay with
  | call hsigners hrun =>
    have hrun' : processAtomicSwapRepay accounts w = .ok ((), w') := hrun
    obtain ⟨ctx, es, hbind, hdone⟩ := processAtomicSwapRepay_done hrun'
    obtain ⟨rest, haccounts⟩ := AtomicSwapRepay.bind_eq hbind
    cases hdone with
    | @done c p i i' cfg lent rA rA' rB rB' o final deltaA deltaB w₁ es hparties hrepaid hcredits =>
      have hagainst : RepaysAgainst accounts w o cfg := by
        rw [haccounts]
        exact ⟨⟨_, rfl, hparties.oracle.keel⟩, _, _, rfl, hparties.integration.keel, hrepaid.config⟩
      obtain ⟨hage, hpos⟩ := hbelow.repay (.call hsigners hrun) hagainst
      refine ⟨ctx.oracle.pubkey, o, cfg, hparties.oracle.keel, hrepaid.oracle, hagainst, ?_, hage⟩
      rcases hprovenance hparties.oracle.keel with hunread | hcopied
      · -- a price from slot 0 would be too old
        rw [hunread] at hpos
        exact absurd hpos (lt_irrefl 0)
      · exact hcopied

end AlmController

namespace AlmController

open Simulator

/-- In the example swap the Repay finds a price that was copied in the run. -/
theorem repay_price_provenance_example :
    ∃ (w₀ w w' : World) (steps : List (Step World Move)) (tx : TxContext) (k : Pubkey) (o : Oracle),
      World.Genesis w₀ ∧ Trace Moves w₀ steps w ∧
      Moves w (.call tx repay.accounts repay.data) w' ∧ w.keel k = some (.oracle o) ∧
      CopiedIn steps k o := by
  obtain ⟨steps, w', hcommits, -⟩ := @swap_commits_steps evenPrice 100 (sale 60 60) _
    (fun _ => true) true (by decide +kernel)
  obtain ⟨s, between, r, tx, tx', rfl, hs, hr⟩ := swap_steps hcommits
  obtain ⟨w₀, steps₀, hgenesis, -, htrace₀, hclock⟩ := (@swapWorld_attained evenPrice).run
  have hsplit : Trace Moves (swapWorld evenPrice) ([s, between] ++ r :: []) w' := hcommits.1
  obtain ⟨hbefore, hrepay, -⟩ := hsplit.split_cons
  rw [hr] at hrepay
  have horder : ∀ x ∈ steps₀ ++ [s, between], x.InOrder := by
    intro x hx
    rcases List.mem_append.mp hx with hx | hx
    · exact (hclock x hx).2
    · apply hcommits.inOrder
      exact List.mem_append_left [r] hx
  obtain ⟨k, o, cfg, hk, -, -, hcopied, -⟩ :=
    repay_price_provenance hgenesis (htrace₀.append hbefore) horder hrepay
  exact ⟨w₀, _, _, _, tx', k, o, hgenesis, htrace₀.append hbefore, hrepay, hk, hcopied⟩

end AlmController
