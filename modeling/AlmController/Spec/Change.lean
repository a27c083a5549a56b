import AlmController.Spec.Borrow
import AlmController.Spec.Repay

/-!
# How one account may change

An instruction changes an account of the program in one of a few ways, and each way
comes with what it took: who signed, which status the controller had, what was booked.
`Change` lists them. It is about one account at a time, and says of every account that
an instruction did not name that it stayed the same and that the log is silent on it.

`Effect` is what a successful instruction did to the whole world. That every instruction
has one is `processInstruction_effect`; the invariants of the program are read off
`Change`, case by case, and look at no processor again.
-/

namespace AlmController

open Prog

variable [Chain]

/-! ## What the entries say about one account -/

/-- The address of the account that a flow was booked on. -/
def LimiterId.address : LimiterId → Option Pubkey
  | .reserve controller mint => pdaOf [RESERVE_SEED, controller.bytes, mint.bytes]
  | .integration controller hash => pdaOf [INTEGRATION_SEED, controller.bytes, hash.bytes]

theorem Reserve.limiterId_address {r : Reserve} : r.limiterId.address = pdaOf r.seeds := rfl

theorem Integration.limiterId_address {i : Integration} : i.limiterId.address = pdaOf i.seeds := rfl

/-- No event tells a balance or a position of the account at `k`, and no flow was booked on it. -/
structure Silent (k : Pubkey) (es : List LogEntry) : Prop where
  ledger : ledger k es = 0
  position : ∀ m, position k m es = 0
  flows : ∀ id, LimiterId.address id = some k → flowsOf id es = []

theorem Within.silent {s : Scope} {es : List LogEntry} {k : Pubkey} (h : Within s es)
    (hlimiters : ∀ id ∈ s.limiters, id.address ≠ some k) (hreserves : k ∉ s.reserves)
    (hintegrations : k ∉ s.integrations) : Silent k es :=
  ⟨h.ledger_eq_zero hreserves, fun _ => h.position_eq_zero hintegrations, fun id hid =>
    h.flowsOf_eq_nil fun hmem => hlimiters id hmem hid⟩

/-- Entries that are about no account at all. -/
theorem Within.silent_of_empty {s : Scope} {es : List LogEntry} (h : Within s es)
    (hlimiters : s.limiters = []) (hreserves : s.reserves = []) {k : Pubkey}
    (hintegrations : k ∉ s.integrations) : Silent k es := by
  refine h.silent ?_ ?_ hintegrations
  · rw [hlimiters]
    exact fun _ hmem => absurd hmem List.not_mem_nil
  · rw [hreserves]
    exact List.not_mem_nil

omit [Chain] in
/-- Where no controller signs, nothing moves funds. -/
theorem Within.movesNone {s : Scope} {es : List LogEntry} (h : Within s es)
    (hfunds : s.controllers = [] ∨ MovesNone es) : MovesNone es := by
  rcases hfunds with hnobody | hfunds
  · intro call k hcall
    have hmem := h.signer_mem hcall
    rw [hnobody] at hmem
    exact absurd hmem List.not_mem_nil
  · exact hfunds

/-! ## Who may -/

/-- The controller at `ck` is neither Frozen nor in the middle of an atomic swap. -/
def Running (w : World) (ck : Pubkey) : Prop :=
  ∃ c, w.keel ck = some (.controller c) ∧ ¬ c.isFrozen ∧ ¬ c.isAtomicSwapLocked

/-- Some signer holds a permission of controller `ck` with this power. -/
def Authorized (w : World) (accounts : List AccountMeta) (ck : Pubkey)
    (power : Permission → Prop) : Prop :=
  ∃ k p, w.keel k = some (.permission p) ∧ p.controller = ck ∧ power p ∧
    ∃ a ∈ accounts, a.isSigner = true ∧ a.pubkey = p.authority

theorem Controller.At.running {c : Controller} {w : World} {ck authority : Pubkey}
    (h : c.At w ck authority) (hfrozen : ¬ c.isFrozen) (hlocked : ¬ c.isAtomicSwapLocked) :
    Running w ck :=
  ⟨c, h.keel, hfrozen, hlocked⟩

theorem Controller.At.running_of_active {c : Controller} {w : World} {ck authority : Pubkey}
    (h : c.At w ck authority) (hactive : c.isActive) : Running w ck := by
  refine h.running ?_ ?_
  · intro hfrozen
    rw [Controller.isFrozen, hactive] at hfrozen
    cases hfrozen
  · intro hlocked
    rw [Controller.isAtomicSwapLocked, hactive] at hlocked
    cases hlocked

theorem Permission.At.authorized {p : Permission} {w : World} {ck k : Pubkey}
    {signer : AccountMeta} {accounts : List AccountMeta} {power : Permission → Prop}
    (h : p.At w ck k signer.pubkey) (hmem : signer ∈ accounts) (hsigner : signer.isSigner = true)
    (hpower : power p) : Authorized w accounts ck power :=
  ⟨k, p, h.keel, h.controller, hpower, signer, hmem, hsigner, h.authority.symm⟩

/-! ## Integrations -/

/-- Every swap configured exchanges two different tokens. -/
def SwapsDistinct (w : World) : Prop :=
  ∀ ⦃k i cfg⦄, w.keel k = some (.integration i) → i.config = .AtomicSwap cfg →
    cfg.inputToken ≠ cfg.outputToken

/-- The state of a swap that is not going on. -/
def AtomicSwapState.closed : AtomicSwapState := ⟨0, 0, 0, 0, 0, 0⟩

/-- The state of an integration that has done nothing yet. -/
def IntegrationState.Idle : IntegrationState → Prop
  | .AtomicSwap state => state = .closed
  | .LzBridge state => state.pushInFlight = false
  | .Drift state => state.balance = 0
  | .Kamino state => state.balance = 0
  | _ => True

/-- An integration as InitializeIntegration leaves it. -/
structure Integration.Fresh (i : Integration) : Prop where
  protocol : i.state.protocol = i.config.protocol
  configured : i.config.protocol ≠ none
  distinct : ∀ cfg, i.config = .AtomicSwap cfg → cfg.inputToken ≠ cfg.outputToken
  idle : i.state.Idle
  hash : i.hash = i.config.hash

/-- How a push, a pull or a sync may change an integration's state. -/
inductive StateStep (tx : TxContext) (k : Pubkey) (i : Integration) : IntegrationState → Prop
  | kept : StateStep tx k i i.state
  | revalued {state : IntegrationState} : Revalued i state → StateStep tx k i state
  /-- A push over LayerZero went in flight. -/
  | inFlight {authority : Pubkey} {accounts : PushLzBridgeAccounts} {config : LzBridgeConfig}
      {state : LzBridgeState} {amount : UInt64} :
      i.state = .LzBridge state → state.pushInFlight = false →
        tx.SendFollows authority accounts config k amount →
          StateStep tx k i (.LzBridge { state with pushInFlight := true })

omit [Chain] in
theorem PushedState.stateStep {tx : TxContext} {ctx : PushAccounts} {i : Integration}
    {args : PushArgs} {state : IntegrationState} (h : PushedState tx ctx i args state) :
    StateStep tx ctx.integration.pubkey i state := by
  cases h with
  | splTokenExternal => exact .kept
  | cctpBridge => exact .kept
  | lzBridge _ _ hstate hinFlight hsend =>
    exact .inFlight hstate hinFlight (verifySendIxInTx_ok hsend)
  | drift hstate => exact .revalued (.drift hstate)
  | kamino hstate => exact .revalued (.kamino hstate)

omit [Chain] in
theorem PulledState.stateStep {tx : TxContext} {k : Pubkey} {i : Integration} {args : PullArgs}
    {state : IntegrationState} (h : PulledState i args state) : StateStep tx k i state := by
  cases h with
  | drift hstate => exact .revalued (.drift hstate)
  | kamino hstate => exact .revalued (.kamino hstate)

/-! ## Oracles -/

/-- What UpdateOracle makes of an oracle: a new feed is read from the start. -/
structure Oracle.Updated (o : Oracle) (args : UpdateOracleArgs) (o' : Oracle) : Prop where
  controller : o'.controller = o.controller
  restarted : args.feedArgs ≠ none → o'.lastUpdateSlot = 0
  kept : args.feedArgs = none → o'.feed = o.feed ∧ o'.value = o.value ∧
    o'.precision = o.precision ∧ o'.lastUpdateSlot = o.lastUpdateSlot

/-! ## Kinds of instructions -/

/-- The instructions that may move funds: Push, Pull and Borrow. -/
def MayMove (data : List UInt8) : Prop :=
  data.head? = some 10 ∨ data.head? = some 11 ∨ data.head? = some 15

/-- The instructions that book on one integration: SyncIntegration, Push and Pull. -/
def MayBook (data : List UInt8) : Prop :=
  data.head? = some 9 ∨ data.head? = some 10 ∨ data.head? = some 11

/-- A Borrow locks the controller at `ck`, or a Repay unlocks it. -/
inductive TurnsLock (data : List UInt8) (w w' : World) (ck : Pubkey) : Prop
  | locks {c : Controller} : data.head? = some 15 → w.keel ck = some (.controller c) →
      c.isActive → w'.keel ck = some (.controller { c with status := .AtomicSwapLock }) →
      TurnsLock data w w' ck
  | unlocks {c : Controller} : data.head? = some 16 → w.keel ck = some (.controller c) →
      c.isAtomicSwapLocked → w'.keel ck = some (.controller { c with status := .Active }) →
      TurnsLock data w w' ck

/-! ## The ways of changing -/

/-- **How an instruction may change the account at `k`**, from the first value to the
    second. -/
inductive Change (tx : TxContext) (accounts : List AccountMeta) (data : List UInt8)
    (w w' : World) (es : List LogEntry) (k : Pubkey) : Option KeelAccount → Option KeelAccount → Prop
  | same {a : Option KeelAccount} : Silent k es → Change tx accounts data w w' es k a a
  -- controllers
  | newController {c : Controller} : Silent k es → pdaOf c.seeds = some k →
      c.status ≠ .AtomicSwapLock →
      Controller.deriveAuthority k = .ok (c.authority, c.authorityBump) →
      (∃ kp p, w'.keel kp = some (.permission p) ∧ p.controller = k ∧ p.mayManagePermissions) →
      Change tx accounts data w w' es k none (some (.controller c))
  | setStatus {c : Controller} {status : ControllerStatus} : Silent k es →
      data = 2 :: Borsh.write (ManageControllerArgs.mk status) →
      accounts[0]?.map AccountMeta.pubkey = some k → c.status ≠ status →
      (c.isFrozen → status = .Active) → Authorized w accounts k (·.maySetStatus status) →
      Change tx accounts data w w' es k (some (.controller c))
        (some (.controller { c with status := status }))
  | lock {c : Controller} : Silent k es → c.isActive → TurnsLock data w w' k →
      Change tx accounts data w w' es k (some (.controller c))
        (some (.controller { c with status := .AtomicSwapLock }))
  | unlock {c : Controller} : Silent k es → c.isAtomicSwapLocked → TurnsLock data w w' k →
      Change tx accounts data w w' es k (some (.controller c))
        (some (.controller { c with status := .Active }))
  -- permissions
  | firstPermission {p : Permission} : Silent k es → w.keel p.controller = none →
      Change tx accounts data w w' es k none (some (.permission p))
  | newPermission {p : Permission} : Silent k es →
      accounts[6]?.map AccountMeta.pubkey = some k → Running w p.controller →
      Authorized w accounts p.controller Permission.mayManagePermissions →
      Change tx accounts data w w' es k none (some (.permission p))
  /-- A manager may change any permission, its own included, but it stays a manager. -/
  | managePermission {p p' sp : Permission} {ksp : Pubkey} : Silent k es →
      data.head? = some 3 → accounts[6]?.map AccountMeta.pubkey = some k → Running w p.controller →
      Authorized w accounts p.controller Permission.mayManagePermissions →
      w.keel ksp = some (.permission sp) → sp.controller = p.controller →
      sp.mayManagePermissions → (ksp = k → p'.mayManagePermissions) →
      p'.controller = p.controller → p'.authority = p.authority →
      Change tx accounts data w w' es k (some (.permission p)) (some (.permission p'))
  | suspendPermission {p : Permission} : Silent k es →
      data.head? = some 3 → accounts[6]?.map AccountMeta.pubkey = some k → Running w p.controller →
      Authorized w accounts p.controller Permission.maySuspendPermissions →
      ¬ p.mayManagePermissions →
      Change tx accounts data w w' es k (some (.permission p))
        (some (.permission { p with status := .Suspended }))
  -- reserves
  | newReserve {r fresh : Reserve} {c : Controller} : pdaOf r.seeds = some k →
      w.keel r.controller = some (.controller c) → Running w r.controller →
      Authorized w accounts r.controller Permission.mayManageReservesAndIntegrations →
      (TokenLaws → IsVaultOf r.vault c.authority r.mint) → fresh.lastBalance = 0 →
      (∃ slope maxOutflow, fresh.toRateLimit = .init w.clock slope maxOutflow) →
      Reserve.Booked w.clock (flowsOf r.limiterId es) fresh r →
      ledger k es = r.lastBalance.toNat →
      Change tx accounts data w w' es k none (some (.reserve r))
  | manageReserve {r r' : Reserve} {args : ManageReserveArgs} : Silent k es →
      data = 5 :: Borsh.write args → accounts[4]?.map AccountMeta.pubkey = some k →
      Running w r.controller →
      Authorized w accounts r.controller Permission.mayManageReservesAndIntegrations →
      r.update w.clock args.status args.rateLimitSlope args.rateLimitMaxOutflow = .ok r' →
      Change tx accounts data w w' es k (some (.reserve r)) (some (.reserve r'))
  | bookReserve {r r' : Reserve} : pdaOf r.seeds = some k → Running w r.controller →
      Reserve.Booked w.clock (flowsOf r.limiterId es) r r' →
      ledger k es = net (flowsOf r.limiterId es) →
      Change tx accounts data w w' es k (some (.reserve r)) (some (.reserve r'))
  /-- Borrow and Repay book on two reserves, which are the same only for a swap of a
      token with itself. -/
  | swapReserve {r r' : Reserve} {c : Controller} {flows : List Flow} :
      pdaOf r.seeds = some k → w.keel r.controller = some (.controller c) →
      c.isActive ∨ c.isAtomicSwapLocked → Reserve.Booked w.clock flows r r' →
      (SwapsDistinct w → flows = flowsOf r.limiterId es) → TurnsLock data w w' r.controller →
      Change tx accounts data w w' es k (some (.reserve r)) (some (.reserve r'))
  -- integrations
  | newIntegration {i : Integration} : Silent k es → pdaOf i.seeds = some k →
      Running w i.controller →
      Authorized w accounts i.controller Permission.mayManageReservesAndIntegrations → i.Fresh →
      (∃ slope maxOutflow, i.toRateLimit = .init w.clock slope maxOutflow) →
      (∀ cfg, i.config = .AtomicSwap cfg → cfg.maxStaleness < w.clock.slot) →
      Change tx accounts data w w' es k none (some (.integration i))
  | manageIntegration {i i' : Integration} {args : ManageIntegrationArgs} : Silent k es →
      data = 7 :: Borsh.write args → accounts[4]?.map AccountMeta.pubkey = some k →
      Running w i.controller →
      Authorized w accounts i.controller Permission.mayManageReservesAndIntegrations →
      i.update w.clock args.status args.description args.rateLimitSlope
        args.rateLimitMaxOutflow = .ok i' →
      Change tx accounts data w w' es k (some (.integration i)) (some (.integration i'))
  | bookIntegration {i i' : Integration} : MayBook data → pdaOf i.seeds = some k →
      Running w i.controller →
      Integration.Booked w.clock (flowsOf i.limiterId es) i i' → StateStep tx k i i'.state →
      Change tx accounts data w w' es k (some (.integration i)) (some (.integration i'))
  | lendIntegration {i i' : Integration} {idle lent : AtomicSwapState} :
      pdaOf i.seeds = some k → Running w i.controller →
      Integration.Booked w.clock (flowsOf i.limiterId es) i i' → i.state = .AtomicSwap idle →
      ¬ idle.hasSwapStarted → i'.state = .AtomicSwap lent → TurnsLock data w w' i.controller →
      lent.hasSwapStarted →
      Change tx accounts data w w' es k (some (.integration i)) (some (.integration i'))
  | repayIntegration {i i' : Integration} {lent : AtomicSwapState} {c : Controller} :
      pdaOf i.seeds = some k → w.keel i.controller = some (.controller c) →
      c.isAtomicSwapLocked → Integration.Booked w.clock (flowsOf i.limiterId es) i i' →
      i.state = .AtomicSwap lent → i'.state = .AtomicSwap lent.reset →
      TurnsLock data w w' i.controller →
      Change tx accounts data w w' es k (some (.integration i)) (some (.integration i'))
  | resetIntegration {i : Integration} {state : LzBridgeState} : Silent k es → tx.IsReset →
      accounts[1]?.map AccountMeta.pubkey = some k → i.state = .LzBridge state →
      Change tx accounts data w w' es k (some (.integration i))
        (some (.integration { i with state := .LzBridge { state with pushInFlight := false } }))
  -- oracles
  | newOracle {o : Oracle} : Silent k es → Running w o.controller → o.lastUpdateSlot = 0 →
      Change tx accounts data w w' es k none (some (.oracle o))
  /-- A new feed starts over; else only the authority changes. -/
  | updateOracle {o o' : Oracle} {args : UpdateOracleArgs} : Silent k es →
      data = 13 :: Borsh.write args → accounts[4]?.map AccountMeta.pubkey = some k →
      Running w o.controller → o.Updated args o' →
      Change tx accounts data w w' es k (some (.oracle o)) (some (.oracle o'))
  | refreshOracle {o : Oracle} {value : BitVec (8 * 16)} {slot : UInt64} : Silent k es →
      data.head? = some 14 → accounts[0]?.map AccountMeta.pubkey = some o.feed.priceFeed →
      accounts[1]?.map AccountMeta.pubkey = some k →
      Change tx accounts data w w' es k (some (.oracle o))
        (some (.oracle { o with value := value, lastUpdateSlot := slot }))

/-- **What a successful instruction did.** -/
structure Effect (tx : TxContext) (accounts : List AccountMeta) (data : List UInt8)
    (w w' : World) (es : List LogEntry) : Prop where
  clock : w'.clock = w.clock
  log : w'.log = w.log ++ es
  bank : BankSteps w.clock w.bank w'.bank
  /-- Only a running controller signs. -/
  signers : ∀ ⦃call ck⦄, (call, ck) ∈ signedCalls es → Running w ck
  funds : MovesNone es ∨ MayMove data
  changes : ∀ k, Change tx accounts data w w' es k (w.keel k) (w'.keel k)

/-- An effect from its footprint: what happened at the keys that were named, and a scope
    that reaches no further than they do. -/
theorem Effect.of_footprint {tx : TxContext} {accounts : List AccountMeta} {data : List UInt8}
    {w w' : World} {es : List LogEntry} {s : Scope} (ks : List Pubkey)
    (hgrew : Grows w w' es) (hwithin : Within s es)
    (hlimiters : ∀ id ∈ s.limiters, ∃ k ∈ ks, id.address = some k)
    (hreserves : s.reserves ⊆ ks) (hintegrations : s.integrations ⊆ ks)
    (hcontrollers : ∀ ck ∈ s.controllers, Running w ck) (hfunds : MovesNone es ∨ MayMove data)
    (hframe : ∀ k, k ∉ ks → w'.keel k = w.keel k)
    (hchanges : ∀ k ∈ ks, Change tx accounts data w w' es k (w.keel k) (w'.keel k)) :
    Effect tx accounts data w w' es := by
  refine ⟨hgrew.clock, hgrew.log, hgrew.bank,
    fun _ _ hcall => hcontrollers _ (hwithin.signer_mem hcall), hfunds, ?_⟩
  intro k
  by_cases hk : k ∈ ks
  · exact hchanges k hk
  · rw [hframe k hk]
    refine .same (hwithin.silent ?_ (fun hmem => hk (hreserves hmem))
      fun hmem => hk (hintegrations hmem))
    intro id hid heq
    obtain ⟨k', hk', haddress⟩ := hlimiters id hid
    rw [heq] at haddress
    exact hk (Option.some.inj haddress ▸ hk')

/-- An instruction that saved one account, and whose entries are about no balance. -/
theorem Effect.of_save {tx : TxContext} {accounts : List AccountMeta} {data : List UInt8}
    {w w₁ w' : World} {es : List LogEntry} {s : Scope} {k : Pubkey} {a : KeelAccount}
    (hgrows : Extends w w₁ es) (hwithin : Within s es) (hlimiters : s.limiters = [])
    (hreserves : s.reserves = []) (hintegrations : s.integrations ⊆ [k])
    (hcontrollers : ∀ ck ∈ s.controllers, Running w ck)
    (hfunds : s.controllers = [] ∨ MovesNone es) (hw' : w' = w₁.setKeel k a)
    (hchange : (k ∉ s.integrations → Silent k es) →
      Change tx accounts data w w' es k (w.keel k) (some a)) :
    Effect tx accounts data w w' es := by
  have hkeel : w'.keel k = some a := by rw [hw', World.setKeel_keel_self]
  refine .of_footprint [k] ?_ hwithin ?_ ?_ hintegrations hcontrollers
    (.inl (hwithin.movesNone hfunds)) ?_ ?_
  · rw [hw']
    exact hgrows.grew.setKeel
  · rw [hlimiters]
    exact fun _ hmem => absurd hmem List.not_mem_nil
  · rw [hreserves]
    exact List.nil_subset _
  · intro k' hk'
    rw [hw', World.setKeel_keel_of_ne (fun heq => hk' (List.mem_singleton.mpr heq)), hgrows.keel]
  · intro k' hk'
    obtain rfl := List.mem_singleton.mp hk'
    rw [hkeel]
    exact hchange (hwithin.silent_of_empty hlimiters hreserves)

/-- An instruction that changed one account, and reported it by one event. -/
theorem Effect.of_report {tx : TxContext} {accounts : List AccountMeta} {data : List UInt8}
    {w : World} {e : SvmAlmControllerEvent} {k : Pubkey} {old a : KeelAccount}
    (hold : w.keel k = some old) (hevent : (LogEntry.event e).Within {})
    (hchange : Silent k [.event e] → Change tx accounts data w
      ((w.addLog (.event e)).setKeel k a) [.event e] k (some old) (some a)) :
    Effect tx accounts data w ((w.addLog (.event e)).setKeel k a) [.event e] := by
  refine .of_save (s := {}) Extends.refl.addLog (.singleton hevent) rfl rfl (List.nil_subset _) ?_
    (.inl rfl) rfl ?_
  · exact fun _ hmem => absurd hmem List.not_mem_nil
  · intro hsilent
    rw [hold]
    exact hchange (hsilent List.not_mem_nil)

/-- An instruction that saved nothing. -/
theorem Effect.of_extends {tx : TxContext} {accounts : List AccountMeta} {data : List UInt8}
    {w w' : World} {es : List LogEntry} {s : Scope} (hgrows : Extends w w' es)
    (hwithin : Within s es) (hlimiters : s.limiters = []) (hreserves : s.reserves = [])
    (hintegrations : s.integrations = []) (hcontrollers : ∀ ck ∈ s.controllers, Running w ck)
    (hfunds : s.controllers = [] ∨ MovesNone es) : Effect tx accounts data w w' es := by
  refine .of_footprint [] hgrows.grew hwithin ?_ ?_ ?_ hcontrollers
    (.inl (hwithin.movesNone hfunds)) ?_ ?_
  · rw [hlimiters]
    exact fun _ hmem => absurd hmem List.not_mem_nil
  · rw [hreserves]
    exact List.nil_subset _
  · rw [hintegrations]
    exact List.nil_subset _
  · exact fun k _ => congrFun hgrows.keel k
  · exact fun _ hmem => absurd hmem List.not_mem_nil

end AlmController
