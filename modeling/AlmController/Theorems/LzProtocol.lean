import AlmController.Simulator
import AlmController.Spec.Schedule

/-!
# Pushes over LayerZero

A push over LayerZero hands the tokens to whoever signed it, and relies on the rest of
the transaction to send them: a Send by the OFT program must follow, and a Reset after
it. The flag `push_in_flight` is what keeps two pushes from sharing one Send.

The invariant through a transaction: whatever is in flight, the transaction's last
instruction is the Reset of it.

`lz_push_protocol` is about a whole transaction that commits. There is one push at most; it is
followed by the Send and the Reset that the program asks for, in their places; and nothing is in
flight at the end if nothing was at the start. The Send is described as far as the program looks
at it. What the OFT program makes of it is not part of the model.
-/

namespace AlmController

open Prog

variable [Chain]

variable {t : Transaction} {tx : TxContext} {accounts : List AccountMeta} {data : List UInt8}
  {w w' : World} {es : List LogEntry} {k k' : Pubkey} {steps : List (Step World Move)}

/-! ## In flight -/

/-- A push of the integration at `k` is in flight. -/
def InFlight (w : World) (k : Pubkey) : Prop :=
  ∃ i state, w.keel k = some (.integration i) ∧ i.state = .LzBridge state ∧
    state.pushInFlight = true

/-- No push is in flight. -/
def LzIdle (w : World) : Prop :=
  ∀ ⦃k i state⦄, w.keel k = some (.integration i) → i.state = .LzBridge state →
    state.pushInFlight = false

omit [Chain] in
/-- Said of the flags, and said of what is in flight. -/
theorem lzIdle_iff : LzIdle w ↔ ∀ k, ¬ InFlight w k := by
  constructor
  · rintro hidle k ⟨i, state, hk, hstate, hflag⟩
    rw [hidle hk hstate] at hflag
    cases hflag
  · intro h k i state hk hstate
    by_contra hflag
    exact h k ⟨i, state, hk, hstate, Bool.eq_true_of_not_eq_false hflag⟩

omit [Chain] in
/-- At most one integration is at an address. -/
theorem InFlight.state {i : Integration} {state : LzBridgeState} (h : InFlight w k)
    (hk : w.keel k = some (.integration i)) (hstate : i.state = .LzBridge state) :
    state.pushInFlight = true := by
  obtain ⟨i', state', hk', hstate', hflag⟩ := h
  rw [hk] at hk'
  obtain rfl := KeelAccount.integration.inj (Option.some.inj hk')
  rw [hstate] at hstate'
  obtain rfl := IntegrationState.LzBridge.inj hstate'
  exact hflag

/-- **How something comes to be in flight.** -/
theorem Effect.inFlight (h : Effect tx accounts data w w' es) (hk : InFlight w' k) :
    InFlight w k ∨
      ∃ authority accs config amount, tx.SendFollows authority accs config k amount := by
  obtain ⟨i', state, hk', hstate, hflag⟩ := hk
  have hchange := h.changes k
  rw [hk'] at hchange
  generalize hold : w.keel k = old at hchange
  cases hchange with
  | same => exact .inl ⟨i', state, hold, hstate, hflag⟩
  -- a new integration starts with the flag cleared
  | newIntegration _ _ _ _ hfresh =>
    have hidle := hfresh.idle
    rw [hstate] at hidle
    rw [show state.pushInFlight = false from hidle] at hflag
    cases hflag
  | manageIntegration _ _ _ _ _ hupdate =>
    obtain ⟨-, -, -, hkept⟩ := Integration.update_frame hupdate
    exact .inl ⟨_, state, hold, hkept.symm.trans hstate, hflag⟩
  -- only a push over LayerZero sets it, and that one has looked at what follows
  | bookIntegration _ _ _ _ hstep =>
    generalize i'.state = state' at hstep hstate
    cases hstep with
    | kept => exact .inl ⟨_, state, hold, hstate, hflag⟩
    | revalued hrevalued =>
      rw [hstate] at hrevalued
      cases hrevalued
    | inFlight _ _ hsend => exact .inr ⟨_, _, _, _, hsend⟩
  -- the others are of another protocol, or clear it
  | lendIntegration _ _ _ _ _ hlent =>
    rw [hstate] at hlent
    cases hlent
  | repayIntegration _ _ _ _ _ hreset =>
    rw [hstate] at hreset
    cases hreset
  | resetIntegration =>
    obtain rfl := IntegrationState.LzBridge.inj hstate
    cases hflag

/-- **What is in flight stays so**, until a Reset. -/
theorem Effect.stays_inFlight (h : Effect tx accounts data w w' es) (hk : InFlight w k)
    (hnot : ¬ tx.IsReset) : InFlight w' k := by
  -- one case for each way in which an integration changes
  obtain ⟨i, state, hk, hstate, hflag⟩ := hk
  have hchange := h.changes k
  rw [hk] at hchange
  generalize hnew : w'.keel k = new at hchange
  cases hchange with
  | same => exact ⟨i, state, hnew, hstate, hflag⟩
  | manageIntegration _ _ _ _ _ hupdate =>
    obtain ⟨-, -, -, hkept⟩ := Integration.update_frame hupdate
    exact ⟨_, state, hnew, hkept.trans hstate, hflag⟩
  -- a push of the same integration leaves the flag set, and no other protocol is at this address
  | @bookIntegration _ i' _ _ _ _ hstep =>
    generalize hstate' : i'.state = state' at hstep
    cases hstep with
    | kept => exact ⟨i', state, hnew, hstate'.trans hstate, hflag⟩
    | revalued hrevalued =>
      cases hrevalued with
      | drift hdrift =>
        rw [hstate] at hdrift
        cases hdrift
      | kamino hkamino =>
        rw [hstate] at hkamino
        cases hkamino
    | inFlight => exact ⟨i', _, hnew, hstate', rfl⟩
  | lendIntegration _ _ _ hidle =>
    rw [hstate] at hidle
    cases hidle
  | repayIntegration _ _ _ _ hlent =>
    rw [hstate] at hlent
    cases hlent
  -- only a Reset clears it
  | resetIntegration _ hreset => exact absurd hreset hnot

/-- A Reset of the integration clears the flag. -/
theorem Moves.reset (h : Moves w (.call tx accounts (17 :: data)) w') {key : AccountMeta}
    (hkey : accounts[1]? = some key) : ¬ InFlight w' key.pubkey := by
  cases h with
  | call _ hrun =>
    have hreset : processResetLzPushInFlight tx accounts w = .ok ((), w') := hrun
    simp only [processResetLzPushInFlight, bind_ok, fromAccounts_ok, ofExcept_ok, ofOption_ok,
      save_ok, and_assoc, exists_and_left, exists_eq_left'] at hreset
    obtain ⟨-, ctx, hbind, _, -, i, _, -, state, -, -, -, rfl⟩ := hreset
    rw [ResetLzPushInFlight.bind_integration hbind] at hkey
    obtain rfl := Option.some.inj hkey
    -- what was saved has the flag cleared
    intro hflight
    have hflag := hflight.state World.setKeel_keel_self rfl
    cases hflag

/-! ## The whole transaction -/

/-- The transaction ends with the Reset of the integration at `k`. -/
def Transaction.EndsWithReset (t : Transaction) (k : Pubkey) : Prop :=
  ∃ ix, t.instructions[t.instructions.length - 1]? = some ix ∧
    ix.Calls RESET_LZ_PUSH_IN_FLIGHT_DISC ∧ ix.keyAt RESET_LZ_PUSH_INTEGRATION_INDEX = some k

omit [Chain] in
/-- A transaction has one last instruction. -/
theorem Transaction.EndsWithReset.unique (h : t.EndsWithReset k) (h' : t.EndsWithReset k') :
    k = k' := by
  obtain ⟨ix, hix, -, hkey⟩ := h
  obtain ⟨ix', hix', -, hkey'⟩ := h'
  rw [hix] at hix'
  obtain rfl := Option.some.inj hix'
  rw [hkey] at hkey'
  exact Option.some.inj hkey'

/-- Through a transaction, what is in flight will be reset. -/
def Covered (t : Transaction) (w : World) : Prop := ∀ k, InFlight w k → t.EndsWithReset k

/-- What comes to be in flight is covered by what its push saw. -/
theorem Covered.move {m : Move} (hcovered : Covered t w) (h : Moves w m w')
    (hmem : m ∈ t.moves) : Covered t w' := by
  intro k hk
  -- a move of somebody else sets no flag, and a call sets it where its push was checked
  rcases h.cases with ⟨tx, accounts, data, es, rfl, heffect⟩ | ⟨-, hsame⟩
  · rcases heffect.inFlight hk with hk | ⟨authority, accs, config, amount, hsend⟩
    · exact hcovered k hk
    · obtain ⟨i, rfl, -⟩ := Transaction.call_mem hmem
      exact hsend.reset
  · unfold InFlight at hk
    rw [hsame.keel] at hk
    exact hcovered k hk

/-- **A committed transaction leaves nothing in flight.** -/
theorem Commits.lzIdle (h : Commits w t steps w') (hidle : LzIdle w) : LzIdle w' := by
  have hcovered : Covered t w' := by
    refine (h.1.restrict (P := fun step => step.move ∈ t.moves) ?_).invariant
      (I := Covered t) (fun hc hstep => hc.move hstep.1 hstep.2) ?_
    · intro step hstep
      rw [← h.2]
      exact List.mem_map_of_mem hstep
    · exact fun k hk => absurd hk (lzIdle_iff.mp hidle k)
  -- what is in flight at the end is what the last instruction reset, which is absurd
  refine lzIdle_iff.mpr fun k hk => ?_
  obtain ⟨ix, hlast, hcalls, hkey⟩ := hcovered k hk
  -- the last instruction is the last step, as nothing can be called inside of a Reset
  obtain ⟨before, step, i, rfl, hmove, rfl, -⟩ := h.last hlast hcalls.1
  obtain ⟨-, hstep, -⟩ := h.1.split_cons
  obtain ⟨account, haccount, rfl⟩ := Option.map_eq_some_iff.mp hkey
  obtain ⟨rest, hdata⟩ : ∃ rest, ix.data = 17 :: rest := by
    cases hdata : ix.data with
    | nil =>
      rw [Instruction.Calls, hdata] at hcalls
      cases hcalls.2
    | cons d rest =>
      rw [Instruction.Calls, hdata] at hcalls
      exact ⟨rest, congrArg (· :: rest) (Option.some.inj hcalls.2)⟩
  rw [hmove, hdata] at hstep
  exact hstep.reset haccount hk

/-- The states between transactions have nothing in flight. -/
theorem Committed.lzIdle (h : Committed w) : LzIdle w := by
  induction h with
  | genesis h =>
    intro k i state hk
    rw [h.keel] at hk
    cases hk
  | env _ _ ih => exact ih
  | tick _ ih => exact ih
  | commit _ hcommits ih => exact hcommits.lzIdle ih

/-! ## Pushes -/

/-- The step is a push of this amount over LayerZero, directly or by another program. -/
structure PushesLz (step : Step World Move) (tx : TxContext) (ctx : PushAccounts)
    (amount : UInt64) : Prop where
  push : ∃ accounts, PushAccounts.bind accounts = some ctx ∧
    step.move = .call tx accounts (10 :: Borsh.write (PushArgs.LzBridge amount))

/-- What a push over LayerZero found around it. -/
structure LzPushed (tx : TxContext) (ctx : PushAccounts) (amount : UInt64) (w : World)
    (cfg : LzBridgeConfig) (innerCtx : PushLzBridgeAccounts) : Prop where
  config : ∃ i, w.keel ctx.integration.pubkey = some (.integration i) ∧ i.config = .LzBridge cfg
  accounts : PushLzBridgeAccounts.bind ctx.remainingAccounts = some innerCtx
  send : tx.SendFollows ctx.authority.pubkey innerCtx cfg ctx.integration.pubkey amount

/-- **A push goes in flight when none is**, and its Send follows. -/
theorem Moves.pushLz {ctx : PushAccounts} {amount : UInt64}
    (h : Moves w (.call tx accounts (10 :: Borsh.write (PushArgs.LzBridge amount))) w')
    (hbind : PushAccounts.bind accounts = some ctx) :
    (∃ cfg innerCtx, LzPushed tx ctx amount w cfg innerCtx) ∧
      ¬ InFlight w ctx.integration.pubkey ∧ InFlight w' ctx.integration.pubkey := by
  cases h with
  | call _ hrun =>
    obtain ⟨ctx', args, es, hbind', hargs, hdone⟩ := processPush_done hrun
    rw [hbind] at hbind'
    obtain rfl := Option.some.inj hbind'
    obtain rfl := Borsh.write_injective hargs
    -- of all protocols, the arguments leave only this one
    cases hdone with
    | @done c p i i' r r' w₁ es hparties hrun =>
    have hpushed := hrun.state
    generalize hstate' : i'.state = state' at hpushed
    cases hpushed with
    | @lzBridge _ innerCtx cfg state hinner hcfg hstate hflag hsend =>
    -- the push was refused if one was in flight already, and its own is saved as one that is
    refine ⟨⟨cfg, innerCtx, ⟨i, hparties.integration.keel, hcfg⟩, hinner,
      verifySendIxInTx_ok hsend⟩, ?_, ?_⟩
    · intro hflight
      rw [hflight.state hparties.integration.keel hstate] at hflag
      cases hflag
    · refine ⟨i', _, ?_, hstate', rfl⟩
      rw [World.setKeel_keel_of_ne
        (World.key_ne hparties.integration.keel hparties.reserve.keel nofun),
        World.setKeel_keel_self]

/-- Between two steps of the third-to-last instruction nothing is reset. -/
theorem InFlight.persists {n : Nat} {before after : World} (h : Trace Moves before steps after)
    (hlen : ∀ step ∈ steps, ∀ tx accounts data, step.move = .call tx accounts data →
      (tx.current : Nat) ≤ n ∧ n + 1 < tx.instructions.length) (hk : InFlight before k) :
    InFlight after k := by
  refine (h.restrict hlen).invariant (I := fun w => InFlight w k) ?_ hk
  rintro w m w' hk ⟨hmove, hlater⟩
  rcases hmove.cases with ⟨tx, accounts, data, es, rfl, heffect⟩ | ⟨-, hsame⟩
  · obtain ⟨hle, hlt⟩ := hlater _ _ _ rfl
    -- a Reset stands last, and this instruction does not
    refine heffect.stays_inFlight hk fun hreset => ?_
    have hposition := hreset.position
    omega
  · unfold InFlight at hk ⊢
    rw [hsame.keel]
    exact hk

/-- A push stands in its transaction where its own look around says. -/
theorem Commits.pushed {step : Step World Move} {ctx : PushAccounts} {amount : UInt64}
    (h : Commits w t steps w') (hmem : step ∈ steps) (hpush : PushesLz step tx ctx amount)
    (hstep : Moves step.before step.move step.after) :
    tx.instructions = t.instructions ∧
      (∃ cfg innerCtx, LzPushed tx ctx amount step.before cfg innerCtx) ∧
      ¬ InFlight step.before ctx.integration.pubkey ∧ InFlight step.after ctx.integration.pubkey := by
  obtain ⟨accounts, hbind, hmove⟩ := hpush
  have hcall : Move.call tx accounts (10 :: Borsh.write (PushArgs.LzBridge amount)) ∈ t.moves := by
    rw [← h.2, ← hmove]
    exact List.mem_map_of_mem hmem
  -- the context of a call is that of its transaction
  obtain ⟨i, rfl, -⟩ := Transaction.call_mem hcall
  rw [hmove] at hstep
  exact ⟨rfl, hstep.pushLz hbind⟩

/-- **At most one push** over LayerZero succeeds in a transaction. -/
theorem Commits.at_most_one_push (h : Commits w t steps w') :
    steps.Pairwise fun s s' => ∀ {tx ctx amount tx' ctx' amount'},
      PushesLz s tx ctx amount → ¬ PushesLz s' tx' ctx' amount' := by
  refine h.1.pairwise ?_
  intro pre step mid step' post hsteps hstep hmid hstep' tx ctx amount tx' ctx' amount' hpush hpush'
  have hmem : step ∈ steps := by
    rw [hsteps]
    simp
  have hmem' : step' ∈ steps := by
    rw [hsteps]
    simp
  obtain ⟨htx, ⟨cfg, innerCtx, hpushed⟩, -, hflight⟩ := h.pushed hmem hpush hstep
  obtain ⟨htx', ⟨cfg', innerCtx', hpushed'⟩, hnot, -⟩ := h.pushed hmem' hpush' hstep'
  -- both are followed by the same Reset, so they are pushes of one integration
  have hreset := hpushed.send.reset
  have hreset' := hpushed'.send.reset
  rw [htx] at hreset
  rw [htx'] at hreset'
  have hsame := Transaction.EndsWithReset.unique (t := t) hreset hreset'
  rw [← hsame] at hnot
  -- and nothing resets it in between
  refine hnot (InFlight.persists (n := t.instructions.length - 3) hmid ?_ hflight)
  intro between hbetween txb accountsb datab hmove
  have hsorted := h.pairwise
  rw [hsteps] at hsorted
  obtain ⟨accounts', -, hmove'⟩ := hpush'
  -- what comes between two steps is called by an instruction that is between theirs
  have hbefore := (List.pairwise_append.mp (List.pairwise_cons.mp
    (List.pairwise_append.mp hsorted).2.1).2).2.2 between hbetween step' (List.mem_cons_self ..)
  rw [hmove, hmove'] at hbefore
  obtain ⟨hle, -⟩ := hbefore _ rfl _ rfl
  have hposition := hpushed'.send.position
  have hmemb : Move.call txb accountsb datab ∈ t.moves := by
    rw [← h.2, ← hmove]
    refine List.mem_map_of_mem ?_
    rw [hsteps]
    simp [hbetween]
  obtain ⟨i, rfl, -⟩ := Transaction.call_mem hmemb
  -- and the third to last is not the last
  have hlength := congrArg List.length htx'
  have hcontext := congrArg List.length (Transaction.context_instructions (t := t) (i := i))
  omega

/-- **The protocol of a LayerZero push.** -/
theorem lz_push_protocol (h : Commits w t steps w') (hidle : LzIdle w) :
    (steps.Pairwise fun s s' => ∀ {tx ctx amount tx' ctx' amount'},
      PushesLz s tx ctx amount → ¬ PushesLz s' tx' ctx' amount') ∧
    (∀ step ∈ steps, ∀ {tx ctx amount}, PushesLz step tx ctx amount →
      (tx.current : Nat) + 3 = t.topLevel.length ∧
      (∃ cfg innerCtx sendIx, (∃ i, step.before.keel ctx.integration.pubkey =
          some (.integration i) ∧ i.config = .LzBridge cfg) ∧
        PushLzBridgeAccounts.bind ctx.remainingAccounts = some innerCtx ∧
        t.instructions[t.topLevel.length - 2]? = some sendIx ∧
        sendIx.Sends ctx.authority.pubkey innerCtx cfg amount) ∧
      ∃ before last lastTx resetIx, steps = before ++ [last] ∧ Moves last.before last.move w' ∧
        last.move = .call lastTx resetIx.accounts resetIx.data ∧
        t.instructions[t.topLevel.length - 1]? = some resetIx ∧
        resetIx.Calls RESET_LZ_PUSH_IN_FLIGHT_DISC ∧
        resetIx.keyAt RESET_LZ_PUSH_INTEGRATION_INDEX = some ctx.integration.pubkey) ∧
    LzIdle w' := by
  refine ⟨h.at_most_one_push, ?_, h.lzIdle hidle⟩
  intro step hmem tx ctx amount hpush
  obtain ⟨before, after, rfl⟩ := List.append_of_mem hmem
  obtain ⟨-, hstep, -⟩ := h.1.split_cons
  obtain ⟨htx, ⟨cfg, innerCtx, hpushed⟩, -, -⟩ := h.pushed hmem hpush hstep
  -- what the push saw of its transaction is the transaction
  obtain ⟨sendIx, hsendIx, hsends⟩ := hpushed.send.send
  obtain ⟨resetIx, hresetIx, hcalls, hkey⟩ := hpushed.send.reset
  have hposition := hpushed.send.position
  have hlength := congrArg List.length htx
  rw [Transaction.length_instructions] at hlength
  rw [htx] at hsendIx hresetIx
  -- and its last instruction ran
  obtain ⟨pre, last, j, hsteps, hlast, hafter, -⟩ := h.last hresetIx hcalls.1
  rw [Transaction.length_instructions] at hsendIx hresetIx
  refine ⟨hposition.trans hlength,
    ⟨cfg, innerCtx, sendIx, hpushed.config, hpushed.accounts, hsendIx, hsends⟩,
    pre, last, _, resetIx, hsteps, ?_, hlast, hresetIx, hcalls, hkey⟩
  have htrace := h.1
  rw [hsteps] at htrace
  obtain ⟨-, hlaststep, -⟩ := htrace.split_cons
  rw [← hafter]
  exact hlaststep

end AlmController

namespace AlmController

open Simulator

/-! ## A push on the small chain -/

def oftProgram : Pubkey := 0x60000

def oftConfig : LzBridgeConfig where
  program := oftProgram
  mint := mintA
  oftStore := 0x60001
  peerConfig := derived [OFT_PEER_CONFIG_SEED, (0x60001 : Pubkey).bytes, u32BytesBe 7] oftProgram
  oftTokenEscrow := 0x60002
  destinationAddress := 0x70000
  destinationEid := 7
  padding := 0

def oftKey : Pubkey := integrationKey (.LzBridge oftConfig)

def oftAccounts : List (Pubkey × ExtAccount) :=
  (oftConfig.oftStore, ⟨oftProgram, 1, .oftStore ⟨mintA, oftConfig.oftTokenEscrow⟩⟩) ::
    (oftConfig.peerConfig, ⟨oftProgram, 1, .peerConfig⟩) :: accounts evenPrice

theorem oftAccounts_unassociated : Unassociated oftAccounts := by
  refine List.forall_mem_cons.mpr ⟨fun h => absurd rfl h, ?_⟩
  exact List.forall_mem_cons.mpr ⟨fun h => absurd rfl h, accounts_unassociated evenPrice⟩

def initializeOft : Instruction :=
  instruction 6
    [signing payer, plain controllerKey, plain authorityKey, signing operator,
      plain (permissionKey operator), plain oftKey, plain ID, plain SYSTEM_PROGRAM_ID, plain mintA,
      plain oftConfig.oftStore, plain oftConfig.peerConfig, plain oftProgram,
      plain oftConfig.oftTokenEscrow]
    (Borsh.write (InitializeIntegrationArgs.mk .LzBridge .Active 0 100 1000 false
      (.LzBridge oftConfig.destinationAddress oftConfig.destinationEid)))

def oftWorld : World :=
  (genesis oftAccounts).play (setup ++ [.submit [initializeOft] (by decide)])

/-- The operator's own account, which the Send takes from. -/
def operatorA : Pubkey :=
  derived [operator.bytes, TOKEN_PROGRAM_ID.bytes, mintA.bytes] ASSOCIATED_TOKEN_PROGRAM_ID

def pushOft (amount : UInt64) : Instruction :=
  instruction 10
    [plain controllerKey, plain authorityKey, signing operator, plain (permissionKey operator),
      plain oftKey, plain (reserveKey mintA), plain ID, plain mintA, plain (vaultKey mintA),
      plain operatorA, plain TOKEN_PROGRAM_ID, plain ASSOCIATED_TOKEN_PROGRAM_ID,
      plain SYSTEM_PROGRAM_ID, plain INSTRUCTIONS_ID]
    (Borsh.write (PushArgs.LzBridge amount))

def sendOft (amount : UInt64) : Instruction where
  programId := oftProgram
  accounts :=
    [signing operator, plain oftConfig.peerConfig, plain oftConfig.oftStore, plain operatorA,
      plain oftConfig.oftTokenEscrow, plain mintA, plain TOKEN_PROGRAM_ID]
  data := OftSendParams.DISCRIMINATOR ++
    Borsh.write (OftSendParams.mk oftConfig.destinationEid oftConfig.destinationAddress amount)

def resetOft : Instruction :=
  instruction 17 [plain controllerKey, plain oftKey, plain INSTRUCTIONS_ID] []

theorem oftTransaction_length {amount : UInt64} :
    [pushOft amount, sendOft amount, resetOft].length < 2 ^ 16 := by
  show 3 < 2 ^ 16
  decide

/-- Push, Send and Reset. -/
def oftTransaction (amount : UInt64) : Transaction :=
  .ofInstructions [pushOft amount, sendOft amount, resetOft] oftTransaction_length

/-- A push of 100 tokens commits, is the only one, and is no longer in flight. -/
theorem lz_push_protocol_example :
    ∃ steps w', Commits oftWorld (oftTransaction 100) steps w' ∧
      (∃ step ∈ steps, ∃ tx ctx, PushesLz step tx ctx 100) ∧
      (steps.Pairwise fun s s' => ∀ {tx ctx amount tx' ctx' amount'},
        PushesLz s tx ctx amount → ¬ PushesLz s' tx' ctx' amount') ∧ LzIdle w' := by
  obtain ⟨⟨steps, w'⟩, hrun⟩ := Option.isSome_iff_exists.mp
    (by decide +kernel : (oftWorld.submit (oftTransaction 100)).isSome)
  have hcommits : Commits oftWorld (oftTransaction 100) steps w' :=
    World.submit_commits hrun fun _ hmem => absurd hmem Transaction.ofInstructions_env
  have hcommitted : Committed oftWorld := (genesis_play oftAccounts_unassociated _).committed
  obtain ⟨hone, -, hidle⟩ := lz_push_protocol hcommits hcommitted.lzIdle
  refine ⟨steps, w', hcommits, ?_, hone, hidle⟩
  have hpush : Move.call ((oftTransaction 100).context ⟨0, (by decide : 0 < 3)⟩)
      (pushOft 100).accounts (pushOft 100).data ∈ steps.map Step.move := by
    rw [hcommits.2]
    exact List.mem_cons_self
  obtain ⟨step, hstep, hmove⟩ := List.mem_map.mp hpush
  exact ⟨step, hstep, _, _, ⟨_, rfl, hmove⟩⟩

end AlmController
