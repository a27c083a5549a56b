import AlmController.Spec.Pull
import AlmController.Spec.Push
import AlmController.Spec.Sync

/-!
# Accounts in their places

An account that was loaded sits at the address derived from its own data, and belongs
to the controller it was asked for. The structures below say so for each kind, and
`PushDone` and `PullDone` say what the two instructions that move funds established,
from the accounts they were given to the accounts they saved.
-/

namespace AlmController

open Prog

variable [Chain]

/-! ## Loaded accounts -/

/-- The controller at `k`, with this authority. -/
structure Controller.At (c : Controller) (w : World) (k authority : Pubkey) : Prop where
  keel : w.keel k = some (.controller c)
  seeds : pdaOf c.seeds = some k
  authority : c.authority = authority

/-- A permission of controller `ck`, for this authority. -/
structure Permission.At (p : Permission) (w : World) (ck k authority : Pubkey) : Prop where
  keel : w.keel k = some (.permission p)
  authority : p.authority = authority
  controller : p.controller = ck
  seeds : pdaOf p.seeds = some k

/-- A reserve of controller `ck`. -/
structure Reserve.At (r : Reserve) (w : World) (ck k : Pubkey) : Prop where
  keel : w.keel k = some (.reserve r)
  controller : r.controller = ck
  seeds : pdaOf r.seeds = some k

/-- An integration of controller `ck`. -/
structure Integration.At (i : Integration) (w : World) (ck k : Pubkey) : Prop where
  keel : w.keel k = some (.integration i)
  controller : i.controller = ck
  seeds : pdaOf i.seeds = some k

/-- An oracle. -/
structure Oracle.At (o : Oracle) (w : World) (k : Pubkey) : Prop where
  keel : w.keel k = some (.oracle o)
  seeds : pdaOf o.seeds = some k

omit [Chain] in
/-- Saving an account hides none of another kind. -/
theorem World.keel_of_setKeel {w : World} {k k' : Pubkey} {a b : KeelAccount}
    (h : (w.setKeel k a).keel k' = some b) (hne : a ≠ b) : w.keel k' = some b := by
  by_cases hk : k' = k
  · subst hk
    rw [World.setKeel_keel_self] at h
    exact absurd (Option.some.inj h) hne
  · rwa [World.setKeel_keel_of_ne hk] at h

omit [Chain] in
/-- Different accounts have different keys. -/
theorem World.key_ne {w : World} {k k' : Pubkey} {a b : KeelAccount} (h : w.keel k = some a)
    (h' : w.keel k' = some b) (hne : a ≠ b) : k ≠ k' := by
  intro hk
  rw [hk, h'] at h
  exact hne (Option.some.inj h).symm

omit [Chain] in
theorem World.setKeel_comm {w : World} {k k' : Pubkey} {a b : KeelAccount} (h : k ≠ k') :
    (w.setKeel k a).setKeel k' b = (w.setKeel k' b).setKeel k a := by
  unfold World.setKeel
  rw [Function.update_comm h]

omit [Chain] in
theorem World.setKeel_setKeel {w : World} {k : Pubkey} {a b : KeelAccount} :
    (w.setKeel k a).setKeel k b = w.setKeel k b := by
  unfold World.setKeel
  rw [Function.update_idem]

omit [Chain] in
theorem World.setKeel_eq_self {w : World} {k : Pubkey} {a : KeelAccount} (h : w.keel k = some a) :
    w.setKeel k a = w := by
  unfold World.setKeel
  rw [← h, Function.update_eq_self]

section Loads

variable {w w' : World} {account : AccountMeta} {ck authority : Pubkey} {c : Controller}
  {p : Permission} {r : Reserve} {i : Integration} {o : Oracle}

theorem Controller.loadAndCheck_at (h : Controller.loadAndCheck account authority w = .ok (c, w')) :
    w = w' ∧ c.At w account.pubkey authority := by
  obtain ⟨hkeel, hseeds, hauth, hw⟩ := Controller.loadAndCheck_ok.mp h
  exact ⟨hw, hkeel, hseeds, hauth⟩

theorem Permission.loadAndCheck_at
    (h : Permission.loadAndCheck account ck authority w = .ok (p, w')) :
    w = w' ∧ p.At w ck account.pubkey authority := by
  obtain ⟨hkeel, hauth, hck, hseeds, hw⟩ := Permission.loadAndCheck_ok.mp h
  exact ⟨hw, hkeel, hauth, hck, hseeds⟩

theorem Reserve.loadAndCheck_at (h : Reserve.loadAndCheck account ck w = .ok (r, w')) :
    w = w' ∧ r.At w ck account.pubkey := by
  obtain ⟨hkeel, hck, hseeds, hw⟩ := Reserve.loadAndCheck_ok.mp h
  exact ⟨hw, hkeel, hck, hseeds⟩

theorem Integration.loadAndCheck_at (h : Integration.loadAndCheck account ck w = .ok (i, w')) :
    w = w' ∧ i.At w ck account.pubkey := by
  obtain ⟨hkeel, hck, hseeds, hw⟩ := Integration.loadAndCheck_ok.mp h
  exact ⟨hw, hkeel, hck, hseeds⟩

theorem Oracle.loadAndCheck_at {controller authority : Option Pubkey}
    (h : Oracle.loadAndCheck account controller authority w = .ok (o, w')) :
    w = w' ∧ o.At w account.pubkey ∧ (∀ c, controller = some c → o.controller = c) ∧
      ∀ a, authority = some a → o.authority = a := by
  obtain ⟨hkeel, hck, hauth, hseeds, hw⟩ := Oracle.loadAndCheck_ok.mp h
  exact ⟨hw, ⟨hkeel, hseeds⟩, hck, hauth⟩

end Loads

omit [Chain] in
/-- The check of an account struct that asks for a signature. -/
theorem AccountsHold.isSigner {specs : List AccountSpec} {accounts : List AccountMeta} {w : World}
    (h : AccountsHold specs accounts w) {n : Nat} {spec : AccountSpec} {account : AccountMeta}
    (hspec : specs[n]? = some spec) (ha : accounts[n]? = some account)
    (hsigner : .signer ∈ spec.attrs) : account.isSigner = true := by
  obtain ⟨hn, rfl⟩ := List.getElem?_eq_some_iff.mp hspec
  exact (h.holds hn ha).signer hsigner

/-! ## Push and Pull -/

omit [Chain] in
theorem PushAccounts.bind_eq {accounts : List AccountMeta} {ctx : PushAccounts}
    (h : PushAccounts.bind accounts = some ctx) :
    accounts = ctx.controller :: ctx.controllerAuthority :: ctx.authority :: ctx.permission ::
      ctx.integration :: ctx.reserveA :: ctx.programId :: ctx.remainingAccounts := by
  unfold bind at h
  split at h
  · obtain rfl := Option.some.inj h
    rfl
  · cases h

/-- Everyone involved in a flow: active, in their places, and signed for. -/
structure FlowParties (ctx : PushAccounts) (w : World) (c : Controller) (p : Permission)
    (i : Integration) (r : Reserve) : Prop where
  signer : ctx.authority.isSigner = true
  controller : c.At w ctx.controller.pubkey ctx.controllerAuthority.pubkey
  controllerActive : c.isActive
  permission : p.At w ctx.controller.pubkey ctx.permission.pubkey ctx.authority.pubkey
  permissionActive : p.status = .Active
  integration : i.At w ctx.controller.pubkey ctx.integration.pubkey
  integrationActive : i.status = .Active
  reserve : r.At w ctx.controller.pubkey ctx.reserveA.pubkey
  reserveActive : r.status = .Active

theorem loadForFlow_ok {ctx : PushAccounts} {accounts : List AccountMeta} {c : Controller}
    {p : Permission} {refreshed : Integration} {r : Reserve} {w w' : World}
    (haccounts : AccountsHold PushAccounts.specs accounts w)
    (hbind : PushAccounts.bind accounts = some ctx)
    (h : loadForFlow ctx w = .ok ((c, p, refreshed, r), w')) :
    w = w' ∧ ∃ i, FlowParties ctx w c p i r ∧ i.refreshRateLimit w.clock = .ok refreshed := by
  simp only [loadForFlow, bind_ok, read_ok, rejectIf_ok, ofExcept_ok, pure_ok, not_not,
    Prod.mk.injEq] at h
  obtain ⟨_, _, ⟨rfl, rfl⟩, _, _, hcl, _, _, ⟨hactive, rfl⟩, _, _, hpl, _, _, ⟨hpactive, rfl⟩, h⟩ := h
  obtain ⟨i, _, hil, _, _, ⟨hiactive, rfl⟩, _, _, ⟨hrefresh, rfl⟩, _, _, hrl, _, _, ⟨hractive, rfl⟩,
    h⟩ := h
  obtain ⟨⟨rfl, rfl, rfl, rfl⟩, rfl⟩ := h
  obtain ⟨rfl, hc⟩ := Controller.loadAndCheck_at hcl
  obtain ⟨rfl, hp⟩ := Permission.loadAndCheck_at hpl
  obtain ⟨rfl, hi⟩ := Integration.loadAndCheck_at hil
  obtain ⟨rfl, hr⟩ := Reserve.loadAndCheck_at hrl
  refine ⟨rfl, i, ⟨?_, hc, hactive, hp, hpactive, hi, hiactive, hr, hractive⟩, hrefresh⟩
  have hget : accounts[2]? = some ctx.authority := by
    rw [PushAccounts.bind_eq hbind]
    rfl
  exact haccounts.isSigner rfl hget (.head _)

/-- A refresh before the run is part of the run. -/
theorem FlowRun.of_refresh {ck ik rk : Pubkey} {w : World} {i i' : Integration} {r : Reserve}
    (h : i.refreshRateLimit w.clock = .ok i') : FlowRun ck ik rk w w i i' r r [] :=
  ⟨.refl, .nil, .of_refresh h, .refl, rfl⟩

section Refreshed

variable {tx : TxContext} {ctx : PushAccounts} {p : Permission} {w w' : World}
  {i refreshed i' : Integration} {r r' : Reserve} {es : List LogEntry}

theorem PushRun.of_refresh {args : PushArgs} (hrefresh : i.refreshRateLimit w.clock = .ok refreshed)
    (h : PushRun tx ctx args p w w' refreshed i' r r' es) :
    PushRun tx ctx args p w w' i i' r r' es := by
  have hflow := (FlowRun.of_refresh hrefresh).trans h.flow
  have hid := (Integration.Booked.of_refresh hrefresh).limiterId_eq
  have hmetered := h.metered
  rw [hid] at hmetered
  simp only [Integration.refreshRateLimit, except_bind_ok, except_pure_ok] at hrefresh
  obtain ⟨_, -, rfl⟩ := hrefresh
  refine ⟨hflow, ?_, h.config, h.allowed, h.movesOnly, h.tracked, hmetered⟩
  have hstate := h.state
  generalize i'.state = state at hstate
  cases hstate with
  | splTokenExternal => exact .splTokenExternal
  | cctpBridge => exact .cctpBridge
  | lzBridge hbind hconfig hstate hinFlight hsend =>
    exact .lzBridge hbind hconfig hstate hinFlight hsend
  | drift hstate => exact .drift hstate
  | kamino hstate => exact .kamino hstate

theorem PullRun.of_refresh {args : PullArgs} (hrefresh : i.refreshRateLimit w.clock = .ok refreshed)
    (h : PullRun ctx args p w w' refreshed i' r r' es) : PullRun ctx args p w w' i i' r r' es := by
  have hflow := (FlowRun.of_refresh hrefresh).trans h.flow
  simp only [Integration.refreshRateLimit, except_bind_ok, except_pure_ok] at hrefresh
  obtain ⟨_, -, rfl⟩ := hrefresh
  refine ⟨hflow, ?_, h.config, h.allowed, h.movesOnly, h.tracked⟩
  have hstate := h.state
  generalize i'.state = state at hstate
  cases hstate with
  | drift hstate => exact .drift hstate
  | kamino hstate => exact .kamino hstate

end Refreshed

/-- **What a successful Push did**, up to the saving of the two accounts. -/
inductive PushDone (tx : TxContext) (ctx : PushAccounts) (args : PushArgs) (w : World) :
    World → List LogEntry → Prop
  | done {c : Controller} {p : Permission} {i i' : Integration} {r r' : Reserve} {w₁ : World}
      {es : List LogEntry} :
      FlowParties ctx w c p i r → PushRun tx ctx args p w w₁ i i' r r' es →
        PushDone tx ctx args w ((w₁.setKeel ctx.integration.pubkey (.integration i')).setKeel
          ctx.reserveA.pubkey (.reserve r')) es

/-- **What a successful Pull did**, likewise. -/
inductive PullDone (ctx : PushAccounts) (args : PullArgs) (w : World) :
    World → List LogEntry → Prop
  | done {c : Controller} {p : Permission} {i i' : Integration} {r r' : Reserve} {w₁ : World}
      {es : List LogEntry} :
      FlowParties ctx w c p i r → PullRun ctx args p w w₁ i i' r r' es →
        PullDone ctx args w ((w₁.setKeel ctx.integration.pubkey (.integration i')).setKeel
          ctx.reserveA.pubkey (.reserve r')) es

/-! ## What a flow tells -/

/-- **What the events of a Push, Pull or SyncIntegration tell**: the change of the integration
    named, if it is a lending position and a transfer with Drift was exact, and nothing of any
    other. -/
structure FlowTold (exact : Controller → Prop) (ck ik : Pubkey) (w w' : World)
    (es : List LogEntry) : Prop where
  log : w'.log = w.log ++ es
  named : ∃ c i i', w.keel ck = some (.controller c) ∧ w.keel ik = some (.integration i) ∧
    w'.keel ik = some (.integration i') ∧ i'.config = i.config ∧ TellsIf (exact c) w ik i i' es
  others : ∀ k, k ≠ ik → (∀ m, position k m es = 0) ∧
    (w'.keel k = w.keel k ∨ ∃ r, w'.keel k = some (.reserve r))

section FlowTold

variable {ck ik rk authority : Pubkey} {w w₁ : World} {c : Controller} {i refreshed i' : Integration}
  {r r' : Reserve} {es : List LogEntry}

omit [Chain] in
theorem TellsChange.of_refresh {marketMint : UInt16 → Pubkey} {clock : Clock}
    (hrefresh : i.refreshRateLimit clock = .ok refreshed)
    (h : TellsChange marketMint ik refreshed i' es) : TellsChange marketMint ik i i' es := by
  simp only [Integration.refreshRateLimit, except_bind_ok, except_pure_ok] at hrefresh
  obtain ⟨_, -, rfl⟩ := hrefresh
  exact h

theorem TellsIf.of_refresh {exact : Prop} {clock : Clock}
    (hrefresh : i.refreshRateLimit clock = .ok refreshed)
    (h : TellsIf exact w ik refreshed i' es) : TellsIf exact w ik i i' es :=
  fun marketMint laws hmarkets hexact => (h marketMint laws hmarkets hexact).of_refresh hrefresh

/-- A processor's run, and the saving of its two accounts. -/
theorem FlowRun.told {exact : Controller → Prop} (h : FlowRun ck ik rk w w₁ i i' r r' es)
    (hc : c.At w ck authority) (hi : i.At w ck ik) (hr : r.At w ck rk)
    (htells : TellsIf (exact c) w ik i i' es) :
    FlowTold exact ck ik w ((w₁.setKeel ik (.integration i')).setKeel rk (.reserve r')) es := by
  have hne : ik ≠ rk := World.key_ne hi.keel hr.keel KeelAccount.noConfusion
  refine ⟨h.grows.log, ⟨c, i, i', hc.keel, hi.keel, ?_, ?_, htells⟩, ?_⟩
  · rw [World.setKeel_keel_of_ne hne, World.setKeel_keel_self]
  · rw [h.integration.frame]
  · intro k hk
    refine ⟨fun m => h.within.position_eq_zero fun hmem => hk (List.mem_singleton.mp hmem), ?_⟩
    by_cases hrk : k = rk
    · rw [hrk]
      exact .inr ⟨r', World.setKeel_keel_self⟩
    · rw [World.setKeel_keel_of_ne hrk, World.setKeel_keel_of_ne hk, h.grows.keel]
      exact .inl rfl

end FlowTold

theorem processPush_told {tx : TxContext} {accounts : List AccountMeta} {data : List UInt8}
    {w w' : World} {u : Unit} (h : processPush tx accounts data w = .ok (u, w')) :
    ∃ ctx args es, PushAccounts.bind accounts = some ctx ∧ data = Borsh.write args ∧
      PushDone tx ctx args w w' es ∧
      FlowTold (fun c => DepositsExactly w c ctx args) ctx.controller.pubkey
        ctx.integration.pubkey w w' es := by
  simp only [processPush, bind_ok, fromAccounts_ok, parseArgs_ok, save_ok, Prod.exists] at h
  obtain ⟨ctx, _, ⟨haccounts, hbind, rfl⟩, args, _, ⟨hargs, rfl⟩, c, p, refreshed, r, _, hload, i',
    r', w₁, hrun, _, _, ⟨-, -, rfl⟩, -, -, rfl⟩ := h
  obtain ⟨rfl, i, hparties, hrefresh⟩ := loadForFlow_ok haccounts hbind hload
  obtain ⟨es, hrun, htells⟩ := processPushProtocol_run hparties.reserve.seeds hrun
  have hrun := hrun.of_refresh hrefresh
  exact ⟨ctx, args, es, hbind, hargs, .done hparties hrun, hrun.flow.told hparties.controller
    hparties.integration hparties.reserve (htells.of_refresh hrefresh)⟩

theorem processPush_done {tx : TxContext} {accounts : List AccountMeta} {data : List UInt8}
    {w w' : World} {u : Unit} (h : processPush tx accounts data w = .ok (u, w')) :
    ∃ ctx args es, PushAccounts.bind accounts = some ctx ∧ data = Borsh.write args ∧
      PushDone tx ctx args w w' es := by
  obtain ⟨ctx, args, es, hbind, hargs, hdone, -⟩ := processPush_told h
  exact ⟨ctx, args, es, hbind, hargs, hdone⟩

theorem processPull_told {accounts : List AccountMeta} {data : List UInt8} {w w' : World}
    {u : Unit} (h : processPull accounts data w = .ok (u, w')) :
    ∃ ctx args es, PushAccounts.bind accounts = some ctx ∧ data = Borsh.write args ∧
      PullDone ctx args w w' es ∧
      FlowTold (fun c => WithdrawsExactly w c ctx args) ctx.controller.pubkey
        ctx.integration.pubkey w w' es := by
  simp only [processPull, bind_ok, fromAccounts_ok, parseArgs_ok, save_ok, Prod.exists] at h
  obtain ⟨ctx, _, ⟨haccounts, hbind, rfl⟩, args, _, ⟨hargs, rfl⟩, c, p, refreshed, r, _, hload, i',
    r', w₁, hrun, _, _, ⟨-, -, rfl⟩, -, -, rfl⟩ := h
  obtain ⟨rfl, i, hparties, hrefresh⟩ := loadForFlow_ok haccounts hbind hload
  obtain ⟨es, hrun, htells⟩ := processPullProtocol_run hparties.reserve.seeds hrun
  have hrun := hrun.of_refresh hrefresh
  exact ⟨ctx, args, es, hbind, hargs, .done hparties hrun, hrun.flow.told hparties.controller
    hparties.integration hparties.reserve (htells.of_refresh hrefresh)⟩

theorem processPull_done {accounts : List AccountMeta} {data : List UInt8} {w w' : World}
    {u : Unit} (h : processPull accounts data w = .ok (u, w')) :
    ∃ ctx args es, PushAccounts.bind accounts = some ctx ∧ data = Borsh.write args ∧
      PullDone ctx args w w' es := by
  obtain ⟨ctx, args, es, hbind, hargs, hdone, -⟩ := processPull_told h
  exact ⟨ctx, args, es, hbind, hargs, hdone⟩

end AlmController
