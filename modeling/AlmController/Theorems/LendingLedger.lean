import AlmController.Simulator.Drift

/-!
# The ledger of a lending position

Interest accrues without the program, so it reports what a position gained or lost whenever it
looks: every Push, Pull and SyncIntegration first takes the recorded balance, by an event, to the
value found. A deposit or a withdrawal then changes the value, and a second event tells by how
much. The value is read again, and recorded. So the events on the integration add up to what is
recorded, if the second event tells the change of the value.

For klend it does, as the event is computed from the value before and after. For Drift it tells
what the market's vault gained or lost. Drift keeps a position as a scaled balance, and rounds
its value down: a deposit of a hundred tokens may be worth ninety-nine. Then one token is in an
event and in no balance, and the next sync, which starts at the recorded balance, does not make
up for it.

`lending_ledger` is about every run from an empty program in which each move in Drift changes the
value of the position by the amount it moves. That is a condition on the state before the step
and on Drift's rounding there (`MovesItsValue`), and for klend there is none. Of the lending
programs it supposes (`LendingLaws`) that a market keeps its mint, that tokens move between
accounts of one mint, that no withdrawal raises the value of a position, and that at klend no
deposit lowers it.
-/

namespace AlmController

open Prog

/-- The events on the integration at `k` add up to its recorded balance, in its position's mint. -/
def Reconstructed (marketMint : UInt16 → Pubkey) (k : Pubkey) :
    Option KeelAccount → List LogEntry → Prop
  | none, log => ∀ m, position k m log = 0
  | some (.integration i), log => ∀ mint, i.config.positionMint marketMint = some mint →
      ∃ state, i.state.lending? = some state ∧ position k mint log = state.balance.toNat
  | some _, _ => True

variable [Chain]

variable {marketMint : UInt16 → Pubkey} {tx : TxContext} {accounts : List AccountMeta}
  {data : List UInt8} {w w' : World} {es log : List LogEntry} {k : Pubkey}
  {old new : Option KeelAccount} {m : Move}

/-- If the step is a Push into Drift on the integration at `k`, or a Pull out of it, the
    deposit or the withdrawal changes the value of the position by what the market's vault gains
    or loses. -/
def MovesItsValue (k : Pubkey) (s : Step World Move) : Prop :=
  ∀ tx accounts ctx c, PushAccounts.bind accounts = some ctx → ctx.integration.pubkey = k →
    s.before.keel ctx.controller.pubkey = some (.controller c) →
    (∀ args : PushArgs, s.move = .call tx accounts (10 :: Borsh.write args) →
      DepositsExactly s.before c ctx args) ∧
    (∀ args : PullArgs, s.move = .call tx accounts (11 :: Borsh.write args) →
      WithdrawsExactly s.before c ctx args)

/-! ## One instruction -/

omit [Chain] in
/-- Entries that are silent on the account, which stayed what it was. -/
theorem Reconstructed.of_silent (hes : ∀ m, position k m es = 0)
    (h : Reconstructed marketMint k old log) : Reconstructed marketMint k old (log ++ es) := by
  have hlog : ∀ m, position k m (log ++ es) = position k m log := by
    intro m
    rw [position_append, hes, add_zero]
  cases old with
  | none =>
    intro m
    rw [hlog]
    exact h m
  | some a =>
    cases a with
    | integration i =>
      intro mint hmint
      rw [hlog]
      exact h mint hmint
    | _ => trivial

omit [Chain] in
/-- An integration that is no lending position now was none before. -/
theorem Reconstructed.of_other {i i' : Integration} (hconfig : i'.config = i.config)
    (hstate : i.state.lending? = none)
    (h : Reconstructed marketMint k (some (.integration i)) log) :
    Reconstructed marketMint k (some (.integration i')) (log ++ es) := by
  intro mint hmint
  rw [hconfig] at hmint
  obtain ⟨state, hlending, -⟩ := h mint hmint
  rw [hstate] at hlending
  cases hlending

/-- A position starts with nothing recorded and nothing told. -/
theorem Integration.Fresh.lending {i : Integration} {mint : Pubkey} (h : i.Fresh)
    (hmint : i.config.positionMint marketMint = some mint) :
    ∃ state, i.state.lending? = some state ∧ state.balance = 0 := by
  have hidle := h.idle
  have hprotocol := h.protocol
  -- the configuration decides the state, and a state of the other protocols is no position
  cases hconfig : i.config with
  | Kamino config =>
    rw [hconfig] at hprotocol
    cases hstate : i.state with
    | Kamino state =>
      rw [hstate] at hidle
      exact ⟨state, rfl, hidle⟩
    | _ =>
      rw [hstate] at hprotocol
      cases hprotocol
  | Drift config =>
    rw [hconfig] at hprotocol
    cases hstate : i.state with
    | Drift state =>
      rw [hstate] at hidle
      exact ⟨state, rfl, hidle⟩
    | _ =>
      rw [hstate] at hprotocol
      cases hprotocol
  | _ =>
    rw [hconfig] at hmint
    cases hmint

/-- **The instructions that book on no integration**, or on one that swaps. -/
theorem Change.reconstructed (h : Change tx accounts data w w' es k old new)
    (hbook : ¬ MayBook data) (hold : Reconstructed marketMint k old log) :
    Reconstructed marketMint k new (log ++ es) := by
  cases h with
  -- an integration that was not touched, or not in what counts
  | same hsilent => exact hold.of_silent hsilent.position
  | newIntegration hsilent _ _ _ hfresh =>
    intro mint hmint
    obtain ⟨state, hstate, hbalance⟩ := hfresh.lending hmint
    refine ⟨state, hstate, ?_⟩
    rw [position_append, hold, hsilent.position, hbalance]
    rfl
  | @manageIntegration i i' _ hsilent _ _ _ _ hupdate =>
    obtain ⟨-, -, hconfig, hstate⟩ := Integration.update_frame hupdate
    intro mint hmint
    rw [hconfig] at hmint
    rw [hstate]
    exact hold.of_silent hsilent.position mint hmint
  -- booking is left to the three instructions below
  | bookIntegration hmay => exact absurd hmay hbook
  -- a swap has no position
  | lendIntegration _ _ hbooked hstate =>
    refine hold.of_other ?_ (by rw [hstate]; rfl)
    rw [hbooked.frame]
  | repayIntegration _ _ _ hbooked hstate =>
    refine hold.of_other ?_ (by rw [hstate]; rfl)
    rw [hbooked.frame]
  | @resetIntegration i _ _ _ _ hstate =>
    exact Reconstructed.of_other (i := i) rfl (by rw [hstate]; rfl) hold
  | _ => trivial

/-- **Push, Pull and SyncIntegration.** -/
theorem FlowTold.reconstructed {exact : Controller → Prop} {ck ik : Pubkey}
    (h : FlowTold exact ck ik w w' es) (laws : LendingLaws marketMint)
    (hmarkets : w.bank.MarketsOf marketMint)
    (hexact : ik = k → ∀ c, w.keel ck = some (.controller c) → exact c)
    (hold : Reconstructed marketMint k (w.keel k) w.log) :
    Reconstructed marketMint k (w'.keel k) w'.log := by
  rw [h.log]
  -- of the integration named the change is told, and of any other nothing is
  by_cases hk : k = ik
  · subst hk
    obtain ⟨c, i, i', hc, hi, hi', hconfig, htells⟩ := h.named
    rw [hi] at hold
    rw [hi']
    intro mint hmint
    rw [hconfig] at hmint
    obtain ⟨state, hstate, hbefore⟩ := hold mint hmint
    obtain ⟨state₁, state', hstate₁, hstate', hchange⟩ :=
      htells marketMint laws hmarkets (hexact rfl c hc) mint hmint
    rw [hstate] at hstate₁
    obtain rfl := Option.some.inj hstate₁
    refine ⟨state', hstate', ?_⟩
    rw [position_append, hbefore, hchange]
  · obtain ⟨hsilent, hkeel⟩ := h.others k hk
    rcases hkeel with hkeel | ⟨r, hkeel⟩
    · rw [hkeel]
      exact hold.of_silent hsilent
    · rw [hkeel]
      trivial

/-! ## Any run -/

/-- **One step**, whatever it is. -/
theorem Moves.reconstructed (laws : LendingLaws marketMint) (h : Moves w m w')
    (hmarkets : w.bank.MarketsOf marketMint) (hexact : MovesItsValue k ⟨w, m, w'⟩)
    (hold : Reconstructed marketMint k (w.keel k) w.log) :
    Reconstructed marketMint k (w'.keel k) w'.log := by
  rcases h.cases with ⟨tx, accounts, data, es, rfl, heffect⟩ | ⟨-, hsame⟩
  · by_cases hbook : MayBook data
    · cases h with
      | call hsigners hrun =>
      rcases hbook with hdata | hdata | hdata
      · obtain ⟨rest, rfl⟩ := List.head?_eq_some_iff.mp hdata
        have hrun' : processSyncIntegration accounts w = .ok ((), w') := hrun
        obtain ⟨ctx, es', -, -, htold⟩ := processSyncIntegration_told hrun'
        exact htold.reconstructed laws hmarkets (fun _ _ _ => trivial) hold
      · obtain ⟨rest, rfl⟩ := List.head?_eq_some_iff.mp hdata
        have hrun' : processPush tx accounts rest w = .ok ((), w') := hrun
        obtain ⟨ctx, args, es', hbind, rfl, -, htold⟩ := processPush_told hrun'
        -- this is where the condition is used: for Drift, and on this integration only
        refine htold.reconstructed laws hmarkets ?_ hold
        intro hk c hc
        exact (hexact tx accounts ctx c hbind hk hc).1 args rfl
      · obtain ⟨rest, rfl⟩ := List.head?_eq_some_iff.mp hdata
        have hrun' : processPull accounts rest w = .ok ((), w') := hrun
        obtain ⟨ctx, args, es', hbind, rfl, -, htold⟩ := processPull_told hrun'
        refine htold.reconstructed laws hmarkets ?_ hold
        intro hk c hc
        exact (hexact tx accounts ctx c hbind hk hc).2 args rfl
    · rw [heffect.log]
      exact (heffect.changes k).reconstructed hbook hold
  · rw [hsame.keel, hsame.log]
    exact hold

/-- The induction carries that the events tell the balance, in every state on the way. -/
theorem Moves.reconstructed_run {steps : List (Step World Move)} (laws : LendingLaws marketMint)
    (h : Trace Moves w steps w') (hmarkets : ∀ s ∈ steps, s.before.bank.MarketsOf marketMint)
    (hexact : ∀ s ∈ steps, MovesItsValue k s)
    (hold : Reconstructed marketMint k (w.keel k) w.log) :
    Reconstructed marketMint k (w'.keel k) w'.log := by
  induction h with
  | nil => exact hold
  | cons hmove _ ih =>
    obtain ⟨hmarketsHead, hmarketsTail⟩ := List.forall_mem_cons.mp hmarkets
    obtain ⟨hexactHead, hexactTail⟩ := List.forall_mem_cons.mp hexact
    apply ih hmarketsTail hexactTail
    exact hmove.reconstructed laws hmarketsHead hexactHead hold

/-- **The events reconstruct a lending position**, in every run in which each deposit in Drift,
    and each withdrawal, changes the value of the position by what it moves. -/
theorem lending_ledger {marketMint : UInt16 → Pubkey} (laws : LendingLaws marketMint)
    {w w' : World} {steps : List (Step World Move)} {k : Pubkey} {i : Integration} {mint : Pubkey}
    (hgenesis : World.Genesis w) (hrun : Trace Moves w steps w')
    (hmarkets : ∀ s ∈ steps, s.before.bank.MarketsOf marketMint)
    (hexact : ∀ s ∈ steps, MovesItsValue k s) (hi : w'.keel k = some (.integration i))
    (hmint : i.config.positionMint marketMint = some mint) :
    ∃ state, i.state.lending? = some state ∧ position k mint w'.log = state.balance.toNat := by
  have hstart : Reconstructed marketMint k (w.keel k) w.log := by
    rw [hgenesis.keel, hgenesis.log]
    intro m
    rfl
  have hend := Moves.reconstructed_run laws hrun hmarkets hexact hstart
  rw [hi] at hend
  exact hend mint hmint

end AlmController

/-! ## A deposit at Drift, exact and rounded -/

namespace AlmController

open Simulator

/-- Neither Push nor Pull. -/
theorem MovesItsValue.of_idle [Chain] {k : Pubkey} {s : Step World Move}
    (h : ∀ tx accounts data, s.move = .call tx accounts data →
      data.head? ≠ some 10 ∧ data.head? ≠ some 11) : MovesItsValue k s := by
  intro tx accounts ctx c _ _ _
  constructor
  · intro args hmove
    exact absurd rfl (h _ _ _ hmove).1
  · intro args hmove
    exact absurd rfl (h _ _ _ hmove).2

/-- A deposit that takes the value from what was in the vault to what is in it. -/
theorem movesItsValue_push {w w' : World} {value value' : UInt64}
    (hbefore : valueAndVault w = (some value, value.toNat))
    (hafter : valueAndVault (depositedAt w) = (some value', value'.toNat)) :
    MovesItsValue driftKey ⟨w, .call pushContext pushDrift.accounts pushDrift.data, w'⟩ := by
  intro tx accounts ctx c hbind _ _
  constructor
  · intro args hmove
    obtain ⟨-, rfl, hdata⟩ := Move.call.inj hmove
    obtain rfl : PushArgs.Drift 0 100 = args := Borsh.write_injective (List.cons.inj hdata).2
    exact depositsExactly hbind hbefore hafter
  · intro args hmove
    obtain ⟨-, -, hdata⟩ := Move.call.inj hmove
    have hhead : (10 : UInt8) = 11 := (List.cons.inj hdata).1
    exact absurd hhead (by decide)

/-- At an interest of one, a hundred tokens are worth a hundred. -/
theorem lending_ledger_example :
    ∃ steps i state, Trace Moves (genesis (driftAccounts 10000000000)) steps (lentAt 10000000000) ∧
      (lentAt 10000000000).keel driftKey = some (.integration i) ∧
      i.state.lending? = some state ∧ state.balance = 100 ∧
      position driftKey mintA (lentAt 10000000000).log = state.balance.toNat := by
  obtain ⟨steps, hrun, hbank, hidle⟩ := @pushStep_run 10000000000 (by decide +kernel)
  have hexact : ∀ s ∈ steps ++ [pushStep 10000000000], MovesItsValue driftKey s := by
    intro s hs
    rcases List.mem_append.mp hs with hs | hs
    · exact .of_idle (hidle s hs)
    · rw [List.mem_singleton.mp hs]
      have hbefore : valueAndVault (driftWorld 10000000000) = (some 0, 0) := by decide +kernel
      have hafter : valueAndVault (depositedAt (driftWorld 10000000000)) = (some 100, 100) := by
        decide +kernel
      exact movesItsValue_push hbefore hafter
  have hposition : positionAt (lentAt 10000000000) = some (some mintA, some ⟨100, 0⟩) := by
    decide +kernel
  obtain ⟨i, hi, hmint, hstate⟩ := positionAt_eq_some hposition
  obtain ⟨state, hstate', hledger⟩ := lending_ledger lendingLaws
    (genesis_genesis (driftAccounts_unassociated 10000000000)) hrun hbank hexact hi hmint
  rw [hstate] at hstate'
  obtain rfl := Option.some.inj hstate'
  exact ⟨_, i, _, hrun, hi, hstate, rfl, hledger⟩

/-- **A rounded deposit is told in full.** The market's interest is a little above one. The vault
    has the hundred tokens, which the event tells. The position is worth ninety-nine, which the
    integration records. -/
theorem lending_ledger_rounded :
    LendingLaws (fun _ => mintA) ∧ World.Genesis (genesis (driftAccounts 10000000001)) ∧
      valueAndVault (driftWorld 10000000001) = (some 0, 0) ∧
      valueAndVault (lentAt 10000000001) = (some 99, 100) ∧
      ∃ steps i state, Trace Moves (genesis (driftAccounts 10000000001)) steps
          (lentAt 10000000001) ∧
        (∀ s ∈ steps, s.before.bank.MarketsOf fun _ => mintA) ∧
        (lentAt 10000000001).keel driftKey = some (.integration i) ∧
        i.config.positionMint (fun _ => mintA) = some mintA ∧ i.state.lending? = some state ∧
        position driftKey mintA (lentAt 10000000001).log ≠ state.balance.toNat := by
  obtain ⟨steps, hrun, hbank, -⟩ := @pushStep_run 10000000001 (by decide +kernel)
  have hposition : positionAt (lentAt 10000000001) = some (some mintA, some ⟨99, 0⟩) := by
    decide +kernel
  obtain ⟨i, hi, hmint, hstate⟩ := positionAt_eq_some hposition
  have htold : position driftKey mintA (lentAt 10000000001).log = 100 := by decide +kernel
  refine ⟨lendingLaws, genesis_genesis (driftAccounts_unassociated 10000000001),
    by decide +kernel, by decide +kernel, _, i, _, hrun, hbank, hi, hmint, hstate, ?_⟩
  rw [htold]
  decide

end AlmController
