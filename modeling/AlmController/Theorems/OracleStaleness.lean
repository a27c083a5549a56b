import AlmController.Simulator
import AlmController.Spec.Repay
import AlmController.Spec.Sound

/-!
# Stale prices

Repay takes `clock.slot - max_staleness` with a subtraction that wraps. That it never does
is due to another instruction: an integration is only created with a `max_staleness` below
the slot of that moment, its configuration never changes, and slots never go back. The
inequality is strict, and this is what makes resetting an oracle to slot 0 work: slot 0 is
always too old.

`oracle_staleness_guard` has three parts, all of runs whose slots do not go back: the subtraction
does not wrap, a Repay that succeeds has a price from within the window, and a feed that was just
installed has to be read before anything is settled by it. It does not say that a price is right,
nor that the feed is: `PriceProvenance` follows it back to its feed, and no further.
-/

/-- The slot did not go back. -/
def Step.InOrder (s : Step AlmController.World AlmController.Move) : Prop :=
  s.before.clock.slot.toNat ≤ s.after.clock.slot.toNat

namespace AlmController

open Prog

variable [Chain]

variable {tx : TxContext} {accounts : List AccountMeta} {data : List UInt8} {w w' : World}
  {es : List LogEntry} {k feed : Pubkey} {m : Move}

/-- The states that runs with such slots lead to. -/
def ReachableInOrder (w : World) : Prop :=
  ∃ w₀ steps, World.Genesis w₀ ∧ Trace Moves w₀ steps w ∧ ∀ s ∈ steps, s.InOrder

/-- The states of the examples are such states. -/
theorem Attained.reachableInOrder (h : Attained w) : ReachableInOrder w := by
  obtain ⟨w₀, steps, hgenesis, -, htrace, hclock⟩ := h.run
  exact ⟨w₀, steps, hgenesis, htrace, fun s hs => (hclock s hs).2⟩

/-- What follows such a run in order is one. -/
theorem ReachableInOrder.append {steps : List (Step World Move)} (h : ReachableInOrder w)
    (htrace : Trace Moves w steps w') (horder : ∀ s ∈ steps, s.InOrder) : ReachableInOrder w' := by
  obtain ⟨w₀, steps₀, hgenesis, htrace₀, horder₀⟩ := h
  refine ⟨w₀, steps₀ ++ steps, hgenesis, htrace₀.append htrace, ?_⟩
  intro s hs
  rcases List.mem_append.mp hs with hs | hs
  · exact horder₀ s hs
  · exact horder s hs

/-! ## The age that is allowed -/

/-- **The invariant.** No swap allows prices from slot 0. -/
def StalenessBelowSlot (w : World) : Prop :=
  ∀ ⦃k i cfg⦄, w.keel k = some (.integration i) → i.config = .AtomicSwap cfg →
    cfg.maxStaleness.toNat < w.clock.slot.toNat

/-- Creating an integration checks its window against the slot of the moment. -/
theorem Change.staleness_of_new {i : Integration} {cfg : AtomicSwapConfig}
    (h : Change tx accounts data w w' es k none (some (.integration i)))
    (hcfg : i.config = .AtomicSwap cfg) : cfg.maxStaleness.toNat < w.clock.slot.toNat := by
  cases h with
  | newIntegration _ _ _ _ _ _ hstaleness => exact UInt64.lt_iff_toNat_lt.mp (hstaleness cfg hcfg)

/-- A configuration that is there was there before, or was just checked. -/
theorem StalenessBelowSlot.effect (hw : StalenessBelowSlot w)
    (h : Effect tx accounts data w w' es) : StalenessBelowSlot w' := by
  intro k i cfg hi hcfg
  have hchange := h.changes k
  rw [hi] at hchange
  rw [h.clock]
  -- no instruction changes a configuration, so an old one is still below the slot
  rcases hchange.integration_origin with ⟨i₀, hi₀, hsame⟩ | ⟨hnone, -⟩
  · exact hw hi₀ (hsame.config.symm.trans hcfg)
  · rw [hnone] at hchange
    exact hchange.staleness_of_new hcfg

/-- And the slot only grows. -/
theorem StalenessBelowSlot.move (hw : StalenessBelowSlot w) (h : Moves w m w')
    (horder : Step.InOrder ⟨w, m, w'⟩) : StalenessBelowSlot w' := by
  rcases h.cases with ⟨tx, accounts, data, es, -, heffect⟩ | ⟨-, hsame⟩
  · exact hw.effect heffect
  · intro k i cfg hi hcfg
    rw [hsame.keel] at hi
    exact lt_of_lt_of_le (hw hi hcfg) horder

/-- **No swap allows prices from slot 0**, in any state that was reached in order. -/
theorem ReachableInOrder.staleness (h : ReachableInOrder w) : StalenessBelowSlot w := by
  obtain ⟨w₀, steps, hgenesis, htrace, horder⟩ := h
  refine Trace.invariant (I := StalenessBelowSlot) (fun hI hmove => hI.move hmove.1 hmove.2)
    (htrace.restrict horder) ?_
  intro k i cfg hi
  rw [hgenesis.keel k] at hi
  cases hi

/-! ## A new feed -/

/-- The move gives the oracle at `k` its first feed, or another one. -/
inductive Move.Installs : Move → Pubkey → Pubkey → Prop
  | first {tx : TxContext} {accounts : List AccountMeta} {data : List UInt8}
      {k feed : Pubkey} : accounts[4]?.map AccountMeta.pubkey = some feed →
      accounts[5]?.map AccountMeta.pubkey = some k → Installs (.call tx accounts (12 :: data)) k feed
  | another {tx : TxContext} {accounts : List AccountMeta} {args : UpdateOracleArgs}
      {k feed : Pubkey} : args.feedArgs ≠ none → accounts[3]?.map AccountMeta.pubkey = some feed →
      accounts[4]?.map AccountMeta.pubkey = some k →
      Installs (.call tx accounts (13 :: Borsh.write args)) k feed

omit [Chain] in
/-- Only a call installs a feed. -/
theorem Move.Installs.call (h : m.Installs k feed) :
    ∃ tx accounts data, m = .call tx accounts data := by
  cases h with
  | first => exact ⟨_, _, _, rfl⟩
  | another => exact ⟨_, _, _, rfl⟩

/-- The move is a RefreshOracle of `k`, from this feed. -/
def Move.Refreshes (m : Move) (k feed : Pubkey) : Prop :=
  ∃ tx accounts data, m = .call tx accounts (14 :: data) ∧
    accounts[0]?.map AccountMeta.pubkey = some feed ∧ accounts[1]?.map AccountMeta.pubkey = some k

/-- The oracle at `k` was refreshed, from the feed that it had then. -/
def RefreshedIn (k : Pubkey) (s : Step World Move) : Prop :=
  ∃ o, s.before.keel k = some (.oracle o) ∧ s.move.Refreshes k o.feed.priceFeed

/-- The oracle at `k` has this feed, and nothing read from it. -/
def Unread (w : World) (k feed : Pubkey) : Prop :=
  ∃ o, w.keel k = some (.oracle o) ∧ o.lastUpdateSlot = 0 ∧ o.feed.priceFeed = feed

omit [Chain] in
theorem InitializeOracle.bind_eq {ctx : InitializeOracle}
    (h : InitializeOracle.bind accounts = some ctx) :
    accounts[4]? = some ctx.priceFeed ∧ accounts[5]? = some ctx.oracle := by
  unfold bind at h
  split at h
  · obtain rfl := Option.some.inj h
    exact ⟨rfl, rfl⟩
  · cases h

omit [Chain] in
theorem UpdateOracle.bind_feed {ctx : UpdateOracle} (h : UpdateOracle.bind accounts = some ctx) :
    accounts[3]? = some ctx.priceFeed := by
  unfold bind at h
  split at h
  · obtain rfl := Option.some.inj h
    rfl
  · cases h

/-- An oracle starts at slot 0, with the feed that it was made with. -/
theorem processInitializeOracle_unread {u : Unit}
    (h : processInitializeOracle accounts data w = .ok (u, w'))
    (hfeed : accounts[4]?.map AccountMeta.pubkey = some feed)
    (hk : accounts[5]?.map AccountMeta.pubkey = some k) : Unread w' k feed := by
  simp only [processInitializeOracle, Oracle.initAccount, bind_ok, fromAccounts_ok, rejectIf_ok,
    parseArgs_ok, pure_ok, Controller.rejectHalted_ok, and_assoc, exists_and_left,
    exists_eq_left', exists_const] at h
  obtain ⟨-, ctx, hbind, args, -, c, _, -, -, -, _, _, -, -, o, w₂, ⟨_, _, hinit, rfl, rfl⟩,
    hevent⟩ := h
  obtain ⟨-, rfl⟩ := emitEvent_ok hevent
  obtain ⟨-, -, calls, w₁, -, rfl⟩ := initAccount_ok hinit
  obtain ⟨hfeed', hk'⟩ := InitializeOracle.bind_eq hbind
  rw [hfeed'] at hfeed
  rw [hk'] at hk
  obtain rfl := Option.some.inj hfeed
  obtain rfl := Option.some.inj hk
  exact ⟨_, World.setKeel_keel_self, rfl, rfl⟩

omit [Chain] in
/-- Another feed takes the slot back to 0. -/
theorem Oracle.updateFeed_feed {o o' : Oracle} {feedArgs : Option FeedArgs}
    {priceFeed : AccountMeta} (h : o.updateFeed feedArgs priceFeed w = .ok (o', w'))
    (hne : feedArgs ≠ none) : o'.lastUpdateSlot = 0 ∧ o'.feed.priceFeed = priceFeed.pubkey := by
  unfold updateFeed at h
  split at h
  · exact absurd rfl hne
  · simp only [bind_ok, pure_ok] at h
    obtain ⟨_, _, -, rfl, -⟩ := h
    exact ⟨rfl, rfl⟩

omit [Chain] in
/-- What else UpdateOracle may do leaves both alone. -/
theorem Oracle.updateAuthority_frame {o : Oracle} {newAuthority : AccountMeta} :
    (o.updateAuthority newAuthority).lastUpdateSlot = o.lastUpdateSlot ∧
      (o.updateAuthority newAuthority).feed = o.feed := by
  unfold updateAuthority
  split
  · exact ⟨rfl, rfl⟩
  · exact ⟨rfl, rfl⟩

/-- So after an update of the feed nothing was read from it either. -/
theorem processUpdateOracle_unread {u : Unit} {args : UpdateOracleArgs}
    (h : processUpdateOracle accounts (Borsh.write args) w = .ok (u, w'))
    (hargs : args.feedArgs ≠ none) (hfeed : accounts[3]?.map AccountMeta.pubkey = some feed)
    (hk : accounts[4]?.map AccountMeta.pubkey = some k) : Unread w' k feed := by
  simp only [processUpdateOracle, bind_ok, fromAccounts_ok, parseArgs_ok, save_ok,
    Controller.rejectHalted_ok, and_assoc, exists_and_left, exists_eq_left', exists_const] at h
  obtain ⟨-, ctx, hbind, args', hargs', c, _, -, -, -, o, _, -, o', _, hupdate, h⟩ := h
  obtain ⟨_, w₁, -, -, -, rfl⟩ := h
  obtain rfl := Borsh.write_injective hargs'
  rw [UpdateOracle.bind_feed hbind] at hfeed
  rw [UpdateOracle.bind_eq hbind] at hk
  obtain rfl := Option.some.inj hfeed
  obtain rfl := Option.some.inj hk
  obtain ⟨hslot, hpriceFeed⟩ := Oracle.updateFeed_feed hupdate hargs
  refine ⟨_, World.setKeel_keel_self, ?_, ?_⟩
  · rw [Oracle.updateAuthority_frame.1]
    exact hslot
  · rw [Oracle.updateAuthority_frame.2]
    exact hpriceFeed

/-- After its feed was installed, an oracle is unread. -/
theorem Moves.unread (h : Moves w m w') (hinstalls : m.Installs k feed) : Unread w' k feed := by
  cases hinstalls with
  | first hfeed hk =>
    cases h with
    | call _ hrun =>
      have hrun' : processInitializeOracle _ _ w = .ok ((), w') := hrun
      exact processInitializeOracle_unread hrun' hfeed hk
  | another hargs hfeed hk =>
    cases h with
    | call _ hrun =>
      have hrun' : processUpdateOracle _ _ w = .ok ((), w') := hrun
      exact processUpdateOracle_unread hrun' hargs hfeed hk

/-- Only installing and refreshing touch an oracle's feed and slot. -/
theorem Change.unread {o : Oracle} {new : Option KeelAccount}
    (h : Change tx accounts data w w' es k (some (.oracle o)) new) (hslot : o.lastUpdateSlot = 0) :
    (∃ o', new = some (.oracle o') ∧ o'.lastUpdateSlot = 0 ∧
      (o'.feed = o.feed ∨ ∃ feed, (Move.call tx accounts data).Installs k feed)) ∨
    (Move.call tx accounts data).Refreshes k o.feed.priceFeed := by
  cases h with
  | same => exact .inl ⟨o, rfl, hslot, .inl rfl⟩
  | @updateOracle _ o' args _ hdata hk _ hupdated =>
    refine .inl ⟨o', rfl, ?_⟩
    -- an update may leave the feed alone, and then the slot too
    by_cases hargs : args.feedArgs = none
    · obtain ⟨hfeed, -, -, hkept⟩ := hupdated.kept hargs
      exact ⟨hkept.trans hslot, .inl hfeed⟩
    · refine ⟨hupdated.restarted hargs, .inr ?_⟩
      -- the feed stands before the oracle in the accounts, so there is one
      obtain ⟨a, ha, hpubkey⟩ := Option.map_eq_some_iff.mp hk
      have hlen : 3 < accounts.length := Nat.lt_of_succ_lt (List.getElem?_eq_some_iff.mp ha).1
      refine ⟨accounts[3].pubkey, ?_⟩
      rw [hdata]
      refine .another hargs ?_ hk
      rw [List.getElem?_eq_getElem hlen]
      rfl
  | refreshOracle _ hdata hfeed hk =>
    obtain ⟨rest, rfl⟩ := List.head?_eq_some_iff.mp hdata
    exact .inr ⟨tx, accounts, rest, rfl, hfeed, hk⟩

/-- **One step.** An oracle stays at slot 0 until it is refreshed, and with its feed until it
    is given another one. -/
theorem Moves.unread_slot {o : Oracle} (h : Moves w m w') (hk : w.keel k = some (.oracle o))
    (hslot : o.lastUpdateSlot = 0) (hidle : ¬ RefreshedIn k ⟨w, m, w'⟩) :
    ∃ o', w'.keel k = some (.oracle o') ∧ o'.lastUpdateSlot = 0 ∧
      (o'.feed = o.feed ∨ ∃ feed, m.Installs k feed) := by
  rcases h.cases with ⟨tx, accounts, data, es, rfl, heffect⟩ | ⟨-, hsame⟩
  · have hchange := heffect.changes k
    rw [hk] at hchange
    rcases hchange.unread hslot with hkept | hrefreshes
    · exact hkept
    · exact absurd ⟨o, hk, hrefreshes⟩ hidle
  · exact ⟨o, by rw [hsame.keel, hk], hslot, .inl rfl⟩

/-- The same over a run. -/
theorem Unread.run {steps : List (Step World Move)} (hunread : Unread w k feed)
    (h : Trace Moves w steps w') (hidle : ∀ s ∈ steps, ¬ RefreshedIn k s) :
    ∃ feed', Unread w' k feed' ∧
      ((∀ s ∈ steps, ∀ feed, ¬ s.move.Installs k feed) → feed' = feed) := by
  -- by induction on the run: the feed of the moment may change, the slot stays 0
  induction h generalizing feed with
  | nil => exact ⟨feed, hunread, fun _ => rfl⟩
  | cons hmove _ ih =>
    obtain ⟨o, hk, hslot, rfl⟩ := hunread
    obtain ⟨hhead, htail⟩ := List.forall_mem_cons.mp hidle
    obtain ⟨o', hk', hslot', hfeed⟩ := hmove.unread_slot hk hslot hhead
    obtain ⟨feed', hunread', hsame⟩ := ih ⟨o', hk', hslot', rfl⟩ htail
    refine ⟨feed', hunread', ?_⟩
    intro hnone
    obtain ⟨hhead, htail⟩ := List.forall_mem_cons.mp hnone
    rcases hfeed with hfeed | ⟨f, hinstalls⟩
    · rw [hsame htail, hfeed]
    · exact absurd hinstalls (hhead f)

/-! ## Repay -/

/-- A Repay that succeeds found its price young enough. -/
theorem Moves.repay_fresh {o : Oracle} {cfg : AtomicSwapConfig}
    (h : Moves w (.call tx accounts (16 :: data)) w') (hagainst : RepaysAgainst accounts w o cfg) :
    ¬ o.lastUpdateSlot < w.clock.slot - cfg.maxStaleness := by
  cases h with
  | call _ hrun =>
    have hrun' : processAtomicSwapRepay accounts w = .ok ((), w') := hrun
    obtain ⟨_, _, _, _, _, _, _, _, _, _, _, _, _, -, -, hrun⟩ := hagainst.run hrun'
    exact hrun.fresh

/-- What the check of Repay says, once the subtraction does not wrap. -/
theorem StalenessBelowSlot.repay {o : Oracle} {cfg : AtomicSwapConfig} (hw : StalenessBelowSlot w)
    (h : Moves w (.call tx accounts (16 :: data)) w') (hagainst : RepaysAgainst accounts w o cfg) :
    w.clock.slot.toNat ≤ o.lastUpdateSlot.toNat + cfg.maxStaleness.toNat ∧
      0 < o.lastUpdateSlot.toNat := by
  obtain ⟨k, i, -, hi, hcfg⟩ := hagainst.integration
  have hbelow := hw hi hcfg
  have hfresh := UInt64.le_iff_toNat_le.mp (UInt64.not_lt.mp (h.repay_fresh hagainst))
  -- the invariant is what makes the subtraction of the source one on naturals
  rw [UInt64.toNat_sub_of_le _ _ (UInt64.le_iff_toNat_le.mpr hbelow.le)] at hfresh
  exact ⟨by omega, by omega⟩

/-- At slot 0 a price is too old for every swap. -/
theorem Unread.repay_fails (hunread : Unread w k feed) (hw : StalenessBelowSlot w)
    (hk : accounts[12]?.map AccountMeta.pubkey = some k) :
    ¬ Moves w (.call tx accounts (16 :: data)) w' := by
  intro h
  cases h with
  | call hsigners hrun =>
    have hrun' : processAtomicSwapRepay accounts w = .ok ((), w') := hrun
    obtain ⟨o, cfg, hagainst⟩ := RepaysAgainst.of_repay hrun'
    have hmove : Moves w (.call tx accounts (16 :: data)) w' := .call hsigners hrun
    -- a Repay that succeeds has a price from a slot above 0, and this oracle has slot 0
    have hpos := (hw.repay hmove hagainst).2
    obtain ⟨o', ho', hslot, -⟩ := hunread
    obtain ⟨k', hk', ho⟩ := hagainst.oracle
    rw [hk] at hk'
    obtain rfl := Option.some.inj hk'
    rw [ho'] at ho
    obtain rfl := KeelAccount.oracle.inj (Option.some.inj ho)
    rw [hslot] at hpos
    exact absurd hpos (lt_irrefl 0)

/-- **No Repay on a price that is too old**, in any state of a run whose slots do not go
    back. -/
theorem oracle_staleness_guard (hw : ReachableInOrder w) :
    -- the slot from which on a price is young enough is one
    (∀ {k i cfg}, w.keel k = some (.integration i) → i.config = .AtomicSwap cfg →
      (w.clock.slot.checkedSub cfg.maxStaleness).isSome) ∧
    -- a Repay that succeeds has a price from that slot or later
    (∀ {tx accounts data w' o cfg}, Moves w (.call tx accounts (16 :: data)) w' →
      RepaysAgainst accounts w o cfg →
        w.clock.slot.toNat ≤ o.lastUpdateSlot.toNat + cfg.maxStaleness.toNat) ∧
    -- after a feed was installed, none succeeds before the oracle was refreshed from its feed,
    -- which is the new one for as long as no other is installed
    (∀ {m k feed w₁ steps w₂}, m.Installs k feed → Moves w m w₁ → Trace Moves w₁ steps w₂ →
      (∀ s ∈ steps, s.InOrder) → (∀ s ∈ steps, ¬ RefreshedIn k s) →
        (∃ feed', Unread w₂ k feed' ∧
          ((∀ s ∈ steps, ∀ feed, ¬ s.move.Installs k feed) → feed' = feed)) ∧
        ∀ tx accounts data w₃, accounts[12]?.map AccountMeta.pubkey = some k →
          ¬ Moves w₂ (.call tx accounts (16 :: data)) w₃) := by
  have hbelow := hw.staleness
  refine ⟨?_, ?_, ?_⟩
  · intro k i cfg hi hcfg
    have hlt := hbelow hi hcfg
    exact Option.isSome_iff_exists.mpr ⟨_, if_pos (UInt64.le_iff_toNat_le.mpr hlt.le)⟩
  · intro tx accounts data w' o cfg hmove hagainst
    exact (hbelow.repay hmove hagainst).1
  · intro m k feed w₁ steps w₂ hinstalls hmove htrace horder hidle
    obtain ⟨feed', hunread, hsame⟩ := (hmove.unread hinstalls).run htrace hidle
    refine ⟨⟨feed', hunread, hsame⟩, ?_⟩
    intro tx accounts data w₃ hk
    -- installing a feed takes no time
    have hfirst : Step.InOrder ⟨w, m, w₁⟩ := by
      obtain ⟨_, _, _, rfl⟩ := hinstalls.call
      obtain ⟨es, heffect⟩ := hmove.effect
      exact le_of_eq (congrArg (·.slot.toNat) heffect.clock.symm)
    have hw₂ : ReachableInOrder w₂ :=
      hw.append (.cons hmove htrace) (List.forall_mem_cons.mpr ⟨hfirst, horder⟩)
    exact hunread.repay_fails hw₂.staleness hk

end AlmController

namespace AlmController

open Simulator

/-- UpdateOracle, to the feed that the oracle already has. -/
def reinstallFeed : Instruction :=
  instruction 13
    [plain controllerKey, plain authorityKey, signing operator, plain feed, plain oracleKey,
      plain ID]
    (Borsh.write (UpdateOracleArgs.mk (some ⟨0⟩)))

/-- The example swaps cannot be repaid once the feed was installed again. -/
theorem oracle_staleness_guard_reinstalled :
    ((swapWorld evenPrice).clock.slot.checkedSub swapConfig.maxStaleness).isSome ∧
    ∃ w₁, Moves (swapWorld evenPrice)
        (.call (swapContext 100) reinstallFeed.accounts reinstallFeed.data) w₁ ∧
      Unread w₁ oracleKey feed ∧
        ¬ ∃ w₃, Moves w₁ (.call (swapContext 100) repay.accounts repay.data) w₃ := by
  obtain ⟨hbelow, -, hinstalled⟩ := oracle_staleness_guard
    (@swapWorld_attained evenPrice).reachableInOrder
  have hintegration : (swapWorld evenPrice).keel swapKey = some (.integration swapIntegration) := by
    decide +kernel
  refine ⟨hbelow hintegration rfl, ?_⟩
  have hsome : ((swapWorld evenPrice).call (swapContext 100) reinstallFeed.accounts
      reinstallFeed.data).isSome := by
    decide +kernel
  obtain ⟨w₁, hw₁⟩ := Option.isSome_iff_exists.mp hsome
  have hmove := World.call_moves hw₁
  have hnone : ∀ s ∈ ([] : List (Step World Move)), s.InOrder := fun _ hs =>
    absurd hs List.not_mem_nil
  have hidle : ∀ s ∈ ([] : List (Step World Move)), ¬ RefreshedIn oracleKey s := fun _ hs =>
    absurd hs List.not_mem_nil
  have hinstalls : Move.Installs (.call (swapContext 100) reinstallFeed.accounts reinstallFeed.data)
      oracleKey feed :=
    @Move.Installs.another _ _ (UpdateOracleArgs.mk (some ⟨0⟩)) _ _ nofun rfl rfl
  obtain ⟨⟨feed', hunread, hsame⟩, hfails⟩ := hinstalled hinstalls hmove .nil hnone hidle
  have hfeed : feed' = feed := hsame fun _ hs => absurd hs List.not_mem_nil
  refine ⟨w₁, hmove, hfeed ▸ hunread, ?_⟩
  intro ⟨w₃, hrepay⟩
  exact hfails _ _ _ w₃ rfl hrepay

end AlmController
