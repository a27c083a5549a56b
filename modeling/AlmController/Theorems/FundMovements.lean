import AlmController.Simulator
import AlmController.Spec.Sound

/-!
# Who moves funds

Three instructions sign for the tokens of a vault or for a position: Push, Pull and Borrow.
Push and Pull choose a protocol's processor by what the caller wrote into the arguments, and
the processor then asks whether the integration's configuration is of that protocol. The
state, which some of them read first, is of the same protocol in every reachable state.

`fund_movements_authorized` looks at a single step from a state that was reached, whatever
accounts and arguments it has. Its first half starts from what was signed, and finds who was asked
for it. So no path to a transfer is missed because nobody thought of it: an instruction that signs
for a transfer, a burn, a deposit or a withdrawal is one of the three, and it was authorized. The
second half starts from the instruction, and says that its arguments, the configuration and the
state agree on the protocol. Invocations that create or refresh an account are left out, and so is
a harvest of rewards (`Cpi.movesFunds`), which is in `Destinations`.
-/

namespace AlmController

open Prog

variable [Chain]

/-- An instruction that may move funds, with its arguments. -/
inductive Operation
  | push (args : PushArgs)
  | pull (args : PullArgs)
  | borrow (args : AtomicSwapBorrowArgs)

namespace Operation

/-- The instruction data: a discriminator, and the arguments. -/
def data : Operation → List UInt8
  | push args => 10 :: Borsh.write args
  | pull args => 11 :: Borsh.write args
  | borrow args => 15 :: Borsh.write args

/-- The protocol that the arguments are for. -/
def protocol : Operation → IntegrationType
  | push args => args.protocol
  | pull args => args.protocol
  | borrow _ => .AtomicSwap

/-- What a permission has to allow. -/
def allowed (p : Permission) (i : Integration) : Operation → Prop
  | push args => p.mayPush i args
  | pull _ => p.mayPull i
  | borrow _ => p.mayExecuteSwap

/-- Where the reserves stand among the accounts; the one whose vault pays comes first. -/
def reserves : Operation → List Nat
  | push _ => [5]
  | pull _ => [5]
  | borrow _ => [5, 8]

omit [Chain]

/-- The paying reserve stands in the same place in all three. -/
theorem five_mem_reserves (op : Operation) : 5 ∈ op.reserves := by
  cases op with
  | push => exact .head _
  | pull => exact .head _
  | borrow => exact .head _

/-- Its data starts with one of the three discriminators. -/
theorem mayMove (op : Operation) : MayMove op.data := by
  cases op with
  | push => exact .inl rfl
  | pull => exact .inr (.inl rfl)
  | borrow => exact .inr (.inr rfl)

/-- The discriminator and the arguments can be told from the data. -/
theorem data_injective {op op' : Operation} (h : op.data = op'.data) : op = op' := by
  cases op with
  | push args =>
    cases op' with
    | push args' => rw [Borsh.write_injective (List.cons.inj h).2]
    | pull => exact absurd (List.cons.inj h).1 (by decide)
    | borrow => exact absurd (List.cons.inj h).1 (by decide)
  | pull args =>
    cases op' with
    | push => exact absurd (List.cons.inj h).1 (by decide)
    | pull args' => rw [Borsh.write_injective (List.cons.inj h).2]
    | borrow => exact absurd (List.cons.inj h).1 (by decide)
  | borrow args =>
    cases op' with
    | push => exact absurd (List.cons.inj h).1 (by decide)
    | pull => exact absurd (List.cons.inj h).1 (by decide)
    | borrow args' => rw [Borsh.write_injective (List.cons.inj h).2]

end Operation

/-- The reserve that an instruction names at this place. -/
def ReserveAt (w : World) (accounts : List AccountMeta) (n : Nat) (r : Reserve) : Prop :=
  ∃ k, accounts[n]?.map AccountMeta.pubkey = some k ∧ w.keel k = some (.reserve r)

omit [Chain] in
/-- One account at an address, one address at a place. -/
theorem ReserveAt.unique {w : World} {accounts : List AccountMeta} {n : Nat} {r r' : Reserve}
    (h : ReserveAt w accounts n r) (h' : ReserveAt w accounts n r') : r = r' := by
  obtain ⟨k, hk, hr⟩ := h
  obtain ⟨k', hk', hr'⟩ := h'
  rw [hk] at hk'
  obtain rfl := Option.some.inj hk'
  rw [hr] at hr'
  exact KeelAccount.reserve.inj (Option.some.inj hr')

/-- **An operation that was authorized**: by whom, on which integration. -/
structure Operation.Authorized (op : Operation) (w : World) (accounts : List AccountMeta)
    (ck : Pubkey) (c : Controller) (p : Permission) (i : Integration) : Prop where
  controller : w.keel ck = some (.controller c)
  controllerActive : c.status = .Active
  permission : ∃ k, accounts[3]?.map AccountMeta.pubkey = some k ∧
    w.keel k = some (.permission p)
  permissionController : p.controller = ck
  permissionActive : p.status = .Active
  signer : ∃ a, accounts[2]? = some a ∧ a.isSigner = true ∧ a.pubkey = p.authority
  allowed : op.allowed p i
  integration : ∃ k, accounts[4]?.map AccountMeta.pubkey = some k ∧
    w.keel k = some (.integration i)
  integrationController : i.controller = ck
  integrationActive : i.status = .Active
  config : i.config.protocol = some op.protocol
  state : i.state.protocol = some op.protocol
  reserves : ∀ n ∈ op.reserves, ∃ r, ReserveAt w accounts n r ∧ r.controller = ck ∧
    r.status = .Active

variable {op : Operation} {tx : TxContext} {accounts : List AccountMeta} {data : List UInt8}
  {w w' : World} {es : List LogEntry}

/-- What the entries of an operation say: who signs, and what is moved. -/
structure Operation.Done (op : Operation) (w : World) (accounts : List AccountMeta)
    (es : List LogEntry) (ck : Pubkey) (r : Reserve) : Prop where
  authorized : ∃ c p i, op.Authorized w accounts ck c p i
  signs : ∀ call k, (call, k) ∈ signedCalls es → k = ck
  reserve : ReserveAt w accounts 5 r
  movesOnly : MovesOnly r.vault es

/-! ## Push and Pull -/

section Flow

variable {ctx : PushAccounts} {w₁ : World} {c : Controller} {p : Permission}
  {i i' : Integration} {r r' : Reserve}

/-- The parties of a flow, seen from the accounts. -/
theorem FlowParties.authorized (h : FlowParties ctx w c p i r) (hsound : Sound w)
    (hbind : PushAccounts.bind accounts = some ctx) (hplaces : op.reserves = [5])
    (hallowed : op.allowed p i) (hconfig : i.config.protocol = some op.protocol) :
    op.Authorized w accounts ctx.controller.pubkey c p i ∧ ReserveAt w accounts 5 r := by
  obtain rfl := PushAccounts.bind_eq hbind
  have hreserve : ReserveAt w (ctx.controller :: ctx.controllerAuthority :: ctx.authority ::
      ctx.permission :: ctx.integration :: ctx.reserveA :: ctx.programId :: ctx.remainingAccounts)
      5 r := ⟨_, rfl, h.reserve.keel⟩
  -- the state is of the protocol of the configuration, as in every sound state
  obtain ⟨-, -, -, hprotocol, -⟩ := hsound.integration h.integration.keel
  refine ⟨⟨h.controller.keel, h.controllerActive, ⟨_, rfl, h.permission.keel⟩,
    h.permission.controller, h.permissionActive, ⟨_, rfl, h.signer, h.permission.authority.symm⟩,
    hallowed, ⟨_, rfl, h.integration.keel⟩, h.integration.controller, h.integrationActive, hconfig,
    hprotocol.trans hconfig, ?_⟩, hreserve⟩
  intro n hn
  rw [hplaces] at hn
  obtain rfl := List.mem_singleton.mp hn
  exact ⟨r, hreserve, h.reserve.controller, h.reserveActive⟩

omit [Chain] in
/-- Whoever signs, signs as this controller. -/
theorem Within.signer_eq {s : Scope} {ck : Pubkey} (h : Within s es) (hs : s.controllers = [ck]) :
    ∀ call k, (call, k) ∈ signedCalls es → k = ck := by
  intro call k hcall
  have hmem := h.signer_mem hcall
  rw [hs] at hmem
  exact List.mem_singleton.mp hmem

/-- What a Push has checked, seen from the accounts, and what it then signed. -/
theorem PushDone.authorized {args : PushArgs} (h : PushDone tx ctx args w w' es)
    (hsound : Sound w) (hbind : PushAccounts.bind accounts = some ctx) :
    w'.log = w.log ++ es ∧ ∃ ck r, (Operation.push args).Done w accounts es ck r := by
  cases h with
  | done hparties hrun =>
    obtain ⟨hauthorized, hreserve⟩ := @FlowParties.authorized _ (.push args) _ _ _ _ _ _ _ hparties
      hsound hbind rfl hrun.allowed hrun.config
    exact ⟨hrun.flow.grows.log, _, _, ⟨_, _, _, hauthorized⟩, hrun.flow.within.signer_eq rfl,
      hreserve, hrun.movesOnly⟩

/-- The same of a Pull. -/
theorem PullDone.authorized {args : PullArgs} (h : PullDone ctx args w w' es)
    (hsound : Sound w) (hbind : PushAccounts.bind accounts = some ctx) :
    w'.log = w.log ++ es ∧ ∃ ck r, (Operation.pull args).Done w accounts es ck r := by
  cases h with
  | done hparties hrun =>
    obtain ⟨hauthorized, hreserve⟩ := @FlowParties.authorized _ (.pull args) _ _ _ _ _ _ _ hparties
      hsound hbind rfl hrun.allowed hrun.config
    exact ⟨hrun.flow.grows.log, _, _, ⟨_, _, _, hauthorized⟩, hrun.flow.within.signer_eq rfl,
      hreserve, hrun.movesOnly⟩

end Flow

/-! ## Borrow -/

/-- The parties of a Borrow, which names two reserves. -/
theorem BorrowParties.authorized {ctx : AtomicSwapBorrow} {args : AtomicSwapBorrowArgs}
    {c : Controller} {p : Permission} {i : Integration} {rA rB : Reserve}
    (h : BorrowParties ctx w c p i rA rB) (hsound : Sound w)
    (hbind : AtomicSwapBorrow.bind accounts = some ctx)
    (hconfig : i.config.protocol = some .AtomicSwap) :
    (Operation.borrow args).Authorized w accounts ctx.controller.pubkey c p i ∧
      ReserveAt w accounts 5 rA := by
  obtain ⟨rest, haccounts⟩ := AtomicSwapBorrow.bind_eq hbind
  obtain ⟨-, -, -, hprotocol, -⟩ := hsound.integration h.integration.keel
  have hpermission : accounts[3]?.map AccountMeta.pubkey = some ctx.permission.pubkey := by
    rw [haccounts]
    rfl
  have hsigner : accounts[2]? = some ctx.authority := by
    rw [haccounts]
    rfl
  have hintegration : accounts[4]?.map AccountMeta.pubkey = some ctx.integration.pubkey := by
    rw [haccounts]
    rfl
  have hreserveA : ReserveAt w accounts 5 rA := by
    refine ⟨ctx.reserveA.pubkey, ?_, h.reserveA.keel⟩
    rw [haccounts]
    rfl
  have hreserveB : ReserveAt w accounts 8 rB := by
    refine ⟨ctx.reserveB.pubkey, ?_, h.reserveB.keel⟩
    rw [haccounts]
    rfl
  -- each place of the list was bound to the account that was checked
  refine ⟨⟨h.controller.keel, h.controllerActive, ⟨_, hpermission, h.permission.keel⟩,
    h.permission.controller, h.allowed.1, ⟨_, hsigner, h.signer, h.permission.authority.symm⟩,
    h.allowed, ⟨_, hintegration, h.integration.keel⟩, h.integration.controller,
    h.integrationActive, hconfig, hprotocol.trans hconfig, ?_⟩, hreserveA⟩
  intro n hn
  rcases List.mem_cons.mp hn with rfl | hn
  · exact ⟨rA, hreserveA, h.reserveA.controller, h.reserveAActive⟩
  · obtain rfl := List.mem_singleton.mp hn
    exact ⟨rB, hreserveB, h.reserveB.controller, h.reserveBActive⟩

/-- And what a Borrow signed. -/
theorem BorrowDone.authorized {ctx : AtomicSwapBorrow} {args : AtomicSwapBorrowArgs}
    (h : BorrowDone tx ctx args.amount w w' es) (hsound : Sound w)
    (hbind : AtomicSwapBorrow.bind accounts = some ctx) :
    w'.log = w.log ++ es ∧ ∃ ck r, (Operation.borrow args).Done w accounts es ck r := by
  cases h with
  | done hparties hrun =>
    have hconfig := congrArg IntegrationConfig.protocol hrun.config
    obtain ⟨hauthorized, hreserve⟩ : (Operation.borrow args).Authorized w accounts _ _ _ _ ∧
        ReserveAt w accounts 5 _ := hparties.authorized hsound hbind hconfig
    exact ⟨hrun.grows.log, _, _, ⟨_, _, _, hauthorized⟩, hrun.within.signer_eq rfl, hreserve,
      hrun.movesOnly⟩

/-! ## Every instruction -/

/-- An instruction of one of the three kinds, with what it did. -/
theorem Moves.operation (h : Moves w (.call tx accounts data) w') (hsound : Sound w)
    (hdata : MayMove data) :
    ∃ op es ck r, data = Operation.data op ∧ w'.log = w.log ++ es ∧ op.Done w accounts es ck r := by
  cases h with
  | call hsigners hrun =>
    -- the first byte says which of the three it was
    rcases hdata with hdata | hdata | hdata
    · obtain ⟨rest, rfl⟩ := List.head?_eq_some_iff.mp hdata
      have hrun' : processPush tx accounts rest w = .ok ((), w') := hrun
      obtain ⟨ctx, args, es, hbind, rfl, hdone⟩ := processPush_done hrun'
      obtain ⟨hlog, ck, r, hop⟩ := hdone.authorized hsound hbind
      exact ⟨.push args, es, ck, r, rfl, hlog, hop⟩
    · obtain ⟨rest, rfl⟩ := List.head?_eq_some_iff.mp hdata
      have hrun' : processPull accounts rest w = .ok ((), w') := hrun
      obtain ⟨ctx, args, es, hbind, rfl, hdone⟩ := processPull_done hrun'
      obtain ⟨hlog, ck, r, hop⟩ := hdone.authorized hsound hbind
      exact ⟨.pull args, es, ck, r, rfl, hlog, hop⟩
    · obtain ⟨rest, rfl⟩ := List.head?_eq_some_iff.mp hdata
      have hrun' : processAtomicSwapBorrow tx accounts rest w = .ok ((), w') := hrun
      obtain ⟨ctx, args, es, hbind, rfl, hdone⟩ := processAtomicSwapBorrow_done hrun'
      obtain ⟨hlog, ck, r, hop⟩ := hdone.authorized hsound hbind
      exact ⟨.borrow args, es, ck, r, rfl, hlog, hop⟩

/-- **Funds move only with authority**, in every reachable state. -/
theorem fund_movements_authorized (hw : Reachable w)
    (h : Moves w (.call tx accounts data) w') :
    -- whatever was signed that moves funds was signed for an operation that was authorized,
    -- and moves the vault of the reserve it named
    (∀ {es call ck}, w'.log = w.log ++ es → (call, ck) ∈ signedCalls es →
      call.movesFunds = true →
        ∃ op c p i r, data = Operation.data op ∧ op.Authorized w accounts ck c p i ∧
          ReserveAt w accounts 5 r ∧ r.controller = ck ∧ call.vault? = some r.vault) ∧
    -- and no operation that succeeds has another protocol than its integration
    (∀ {op}, data = Operation.data op →
      ∃ k i, accounts[4]?.map AccountMeta.pubkey = some k ∧ w.keel k = some (.integration i) ∧
        i.config.protocol = some op.protocol ∧ i.state.protocol = some op.protocol) := by
  refine ⟨?_, ?_⟩
  · intro es call ck hlog hcall hmoves
    obtain ⟨es', heffect⟩ := h.effect
    have hsame : es = es' := List.append_cancel_left (hlog.symm.trans heffect.log)
    subst hsame
    -- the instructions that move no funds are ruled out by their effects
    have hdata : MayMove data := by
      rcases heffect.funds with hnone | hdata
      · exact absurd (hnone hcall) (by simp [hmoves])
      · exact hdata
    obtain ⟨op, es', ck', r, hop, hlog', hdone⟩ := h.operation hw.sound hdata
    have hsame : es = es' := List.append_cancel_left (hlog.symm.trans hlog')
    subst hsame
    obtain rfl := hdone.signs call ck hcall
    obtain ⟨c, p, i, hauthorized⟩ := hdone.authorized
    obtain ⟨r', hr', hcontroller, -⟩ := hauthorized.reserves 5 op.five_mem_reserves
    obtain rfl := hdone.reserve.unique hr'
    exact ⟨op, c, p, i, r, hop, hauthorized, hdone.reserve, hcontroller,
      hdone.movesOnly call _ hcall hmoves⟩
  · intro op hop
    -- the data is that of one operation, so the one that was done is this one
    obtain ⟨op', es, ck, r, hop', -, hdone⟩ := h.operation hw.sound (hop ▸ op.mayMove)
    obtain rfl := Operation.data_injective (hop.symm.trans hop')
    obtain ⟨c, p, i, hauthorized⟩ := hdone.authorized
    obtain ⟨k, hk, hi⟩ := hauthorized.integration
    exact ⟨k, i, hk, hi, hauthorized.config, hauthorized.state⟩

end AlmController

namespace AlmController

open Simulator

/-- The Borrow of the example swap was authorized, and moves the vault of its reserve. -/
theorem fund_movements_authorized_borrow :
    ∃ (call : Cpi) (op : Operation) (c : Controller) (p : Permission) (i : Integration)
      (r : Reserve), (borrow 100).data = op.data ∧
      op.Authorized (swapWorld evenPrice) (borrow 100).accounts controllerKey c p i ∧
      ReserveAt (swapWorld evenPrice) (borrow 100).accounts 5 r ∧
      call.movesFunds = true ∧ call.vault? = some r.vault := by
  have hmove : Moves (swapWorld evenPrice) _ _ :=
    @borrowStep_moves (swapWorld evenPrice) 100 (by decide +kernel)
  have hlog : (lent (swapWorld evenPrice) 100).log = (swapWorld evenPrice).log ++
      (lent (swapWorld evenPrice) 100).log.drop (swapWorld evenPrice).log.length := by
    decide +kernel
  have hcall : (Cpi.transferChecked
        ⟨vaultKey mintA, mintA, traderA, authorityKey, 100, 6, TOKEN_PROGRAM_ID⟩, controllerKey) ∈
      signedCalls ((lent (swapWorld evenPrice) 100).log.drop
        (swapWorld evenPrice).log.length) := by
    decide +kernel
  obtain ⟨op, c, p, i, r, hop, hauthorized, hreserve, -, hvault⟩ :=
    (fund_movements_authorized swapWorld_attained.reachable hmove).1 hlog hcall rfl
  exact ⟨_, op, c, p, i, r, hop, hauthorized, hreserve, rfl, hvault⟩

end AlmController
