import AlmController.Spec.Governance
import AlmController.Spec.Oracle
import AlmController.Spec.SwapDeeds

/-!
# The deeds that set something

What sets up an account, or changes a setting of one, tells it in an event that holds the value
before and the value after. InitializeController is the only instruction with two of them. The
five that manage an account tell nothing but this one change, and tell it in full
(`ActedOpenly.of_event`).

RefreshOracle, ResetLzPushInFlight and ClaimRent are here too; they set nothing, and tell nothing.
-/

namespace AlmController

open Prog

variable [Chain]

variable {tx : TxContext} {accounts : List AccountMeta} {data : List UInt8} {w w₁ w' : World}
  {u : Unit} {ck k authority : Pubkey}

/-! ## The controllers that are named -/

section Names

omit [Chain]

theorem ResetLzPushInFlight.names {ctx : ResetLzPushInFlight}
    (h : ResetLzPushInFlight.bind accounts = some ctx) :
    Names accounts ctx.controller.pubkey := by
  unfold bind at h
  split at h
  · obtain rfl := Option.some.inj h
    exact .of_mem (.head _)
  · cases h

theorem ClaimRentAccounts.names {ctx : ClaimRentAccounts}
    (h : ClaimRentAccounts.bind accounts = some ctx) :
    Names accounts ctx.controller.pubkey := by
  unfold bind at h
  split at h
  · obtain rfl := Option.some.inj h
    exact .of_mem (.head _)
  · cases h

theorem ManageControllerAccounts.names {ctx : ManageControllerAccounts}
    (h : ManageControllerAccounts.bind accounts = some ctx) :
    Names accounts ctx.controller.pubkey := by
  obtain ⟨rest, rfl⟩ := ManageControllerAccounts.bind_eq h
  exact .of_mem (.head _)

theorem ManagePermissionAccounts.names {ctx : ManagePermissionAccounts}
    (h : ManagePermissionAccounts.bind accounts = some ctx) :
    Names accounts ctx.controller.pubkey := by
  obtain ⟨rest, rfl⟩ := ManagePermissionAccounts.bind_eq h
  exact .of_mem (.tail _ (.head _))

theorem ManageReserveAccounts.names {ctx : ManageReserveAccounts}
    (h : ManageReserveAccounts.bind accounts = some ctx) :
    Names accounts ctx.controller.pubkey := by
  obtain ⟨rest, rfl⟩ := ManageReserveAccounts.bind_eq h
  exact .of_mem (.head _)

theorem ManageIntegrationAccounts.names {ctx : ManageIntegrationAccounts}
    (h : ManageIntegrationAccounts.bind accounts = some ctx) :
    Names accounts ctx.controller.pubkey := by
  unfold bind at h
  split at h
  · obtain rfl := Option.some.inj h
    exact .of_mem (.head _)
  · cases h

theorem UpdateOracle.names {ctx : UpdateOracle} (h : UpdateOracle.bind accounts = some ctx) :
    Names accounts ctx.controller.pubkey := by
  unfold bind at h
  split at h
  · obtain rfl := Option.some.inj h
    exact .of_mem (.head _)
  · cases h

theorem InitializeOracle.names {ctx : InitializeOracle}
    (h : InitializeOracle.bind accounts = some ctx) :
    Names accounts ctx.controller.pubkey := by
  unfold bind at h
  split at h
  · obtain rfl := Option.some.inj h
    exact .of_mem (.tail _ (.head _))
  · cases h

theorem InitializeIntegrationAccounts.names {ctx : InitializeIntegrationAccounts}
    (h : InitializeIntegrationAccounts.bind accounts = some ctx) :
    Names accounts ctx.controller.pubkey := by
  unfold bind at h
  split at h
  · obtain rfl := Option.some.inj h
    exact .of_mem (.tail _ (.head _))
  · cases h

theorem InitializeReserveAccounts.names {ctx : InitializeReserveAccounts}
    (h : InitializeReserveAccounts.bind accounts = some ctx) :
    Names accounts ctx.controller.pubkey := by
  obtain ⟨rest, rfl⟩ := InitializeReserveAccounts.bind_eq h
  exact .of_mem (.tail _ (.head _))

theorem InitializeControllerAccounts.names {ctx : InitializeControllerAccounts}
    (h : InitializeControllerAccounts.bind accounts = some ctx) :
    Names accounts ctx.controller.pubkey := by
  obtain ⟨rest, rfl⟩ := InitializeControllerAccounts.bind_eq h
  exact .of_mem (.tail _ (.tail _ (.head _)))

end Names

/-! ## Deeds without an event -/

/-- A Reset takes the flag back, which is part of the state and not a setting. -/
theorem processResetLzPushInFlight_deed
    (h : processResetLzPushInFlight tx accounts w = .ok (u, w')) : Acted accounts w w' := by
  simp only [processResetLzPushInFlight, bind_ok, fromAccounts_ok, ofExcept_ok, ofOption_ok,
    IntegrationState.lzBridge?_eq, save_ok, and_assoc, exists_and_left, exists_eq_left'] at h
  obtain ⟨-, ctx, hbind, _, -, i, _, hil, state, hstate, -, -, rfl⟩ := h
  obtain ⟨rfl, hi⟩ := Integration.loadAndCheck_at hil
  have hlogs : Logs (fun e => e.Authentic w ctx.controller.pubkey ∧ e.update? = none) w w :=
    Std.Refl.refl w
  refine ⟨_, ResetLzPushInFlight.names hbind, Deed.of_logs (s := [(_, _)]) rfl hlogs
    (List.forall_mem_singleton.mpr ?_)⟩
  refine .integration hi (@Integration.Booked.of_state w.clock _ _) ?_
  rw [hstate]
  rfl

/-- **What RefreshOracle did** to the oracle at `k`: it copied the current result of the oracle's
    own feed. -/
inductive RefreshedOracle (k : Pubkey) (w : World) : World → Prop
  | copied {o : Oracle} {feed : PullFeed} : o.At w k → w.keel o.feed.priceFeed = none →
      w.owner o.feed.priceFeed = SWITCHBOARD_ON_DEMAND_PROGRAM_ID →
      (w.bank o.feed.priceFeed).data.pullFeed? = some feed →
      RefreshedOracle k w
        (w.setKeel k (.oracle { o with value := feed.value, lastUpdateSlot := feed.slot }))

/-- The feed is the one that the oracle names, and its account is of the program that the source
    asks for. -/
theorem processRefreshOracle_refreshed (h : processRefreshOracle accounts w = .ok (u, w')) :
    ∃ k, RefreshedOracle k w w' := by
  simp only [processRefreshOracle, bind_ok, fromAccounts_ok, rejectIf_ok, read_ok, save_ok,
    readData_ok, not_not, id, and_assoc, exists_and_left, exists_eq_left', exists_const] at h
  obtain ⟨-, ctx, -, o, _, hol, hsame, -, howner, hfresh, feed, hfeed, -, -, rfl⟩ := h
  obtain ⟨rfl, ho, -⟩ := Oracle.loadAndCheck_at hol
  rw [hsame] at hfresh hfeed howner
  exact ⟨_, .copied ho hfresh howner hfeed⟩

/-- It asks for no controller, and is a deed of the oracle's. -/
theorem RefreshedOracle.deed (h : RefreshedOracle k w w') : ∃ ck, Deed ck w w' [] := by
  cases h with
  | @copied o feed ho =>
    refine ⟨o.controller, .of_operates (List.append_nil _).symm ?_ fun _ he =>
      absurd he List.not_mem_nil⟩
    intro k'
    by_cases hk : k' = k
    · rw [hk]
      exact .inr ⟨_, World.setKeel_keel_self, .oracle o, ho.keel, .oracle rfl rfl rfl rfl, rfl, rfl⟩
    · exact .inl (World.setKeel_keel_of_ne hk)

/-- ClaimRent signs for one transfer of lamports. -/
theorem processClaimRent_deed (h : processClaimRent accounts w = .ok (u, w')) :
    Acted accounts w w' := by
  simp only [processClaimRent, bind_ok, fromAccounts_ok, rejectIf_ok, read_ok, invokeSigned_ok,
    not_not, id, and_assoc, exists_and_left, exists_eq_left', exists_const] at h
  obtain ⟨-, ctx, hbind, c, _, hcl, -, p, _, hpl, -, -, -, _, -, bank, hinvoke, rfl⟩ := h
  obtain ⟨rfl, hc⟩ := Controller.loadAndCheck_at hcl
  obtain ⟨rfl, -⟩ := Permission.loadAndCheck_at hpl
  refine ⟨_, ClaimRentAccounts.names hbind, _, Deed.of_prepares hc.keel
    (.of_invoke rfl (fun k hk => ?_) hinvoke)⟩
  exact (Option.some.inj hk).symm

/-! ## ManageController and ManagePermission -/

/-- **Saving an account, telling it in one event and nothing else** is what managing it is. What
    the system program does first changes nothing and tells nothing. -/
theorem ActedOpenly.of_event {calls : List Cpi} {e : SvmAlmControllerEvent}
    {old : Option KeelAccount}
    {a : KeelAccount} (hnames : Names accounts ck) (hcalls : SystemSteps calls w w₁)
    (hk : w.keel k = old) (htouched : Touched ck k old (some a)) (hck : a.controllerAt k = ck)
    (he : e.update? = some ⟨k, old, some a⟩) (hevent : e.controller = ck)
    (hfounds : ∀ i, old = none → a ≠ .integration i) :
    ActedOpenly accounts w ((w₁.setKeel k a).addLog (.event e)) := by
  have hk₁ : w₁.keel k = old := by
    rw [hcalls.keel_eq]
    exact hk
  have hdeed : Deed ck w₁ ((w₁.setKeel k a).addLog (.event e)) [.event e] :=
    .of_event hk₁ htouched hck he hevent fun i hnone ha => absurd ha (hfounds i hnone)
  refine ⟨ck, hnames, _, (Deed.of_systemSteps hcalls).trans hdeed, ?_⟩
  intro e' he' u hu
  rcases List.mem_append.mp he' with hcall | hsingle
  · obtain ⟨call, -, rfl⟩ := List.mem_map.mp hcall
    cases hu
  · obtain rfl := List.mem_singleton.mp hsingle
    obtain rfl := Option.some.inj (he.symm.trans hu)
    have hself : ((w₁.setKeel k a).addLog (.event e)).keel k = some a := World.setKeel_keel_self
    rw [hk, hself]

/-- ManageController saves the new status and tells it. -/
theorem processManageController_openly
    (h : processManageController accounts data w = .ok (u, w')) : ActedOpenly accounts w w' := by
  simp only [processManageController, bind_ok, fromAccounts_ok, rejectIf_ok, parseArgs_ok,
    Controller.updateAndSave_ok, not_not, and_assoc, exists_and_left, exists_eq_left',
    exists_const] at h
  obtain ⟨-, ctx, hbind, args, -, c, _, hcl, -, p, _, hpl, -, -, _, rfl, -, -, hevent⟩ := h
  obtain ⟨rfl, hc⟩ := Controller.loadAndCheck_at hcl
  obtain ⟨rfl, -⟩ := Permission.loadAndCheck_at hpl
  obtain ⟨-, rfl⟩ := emitEvent_ok hevent
  exact .of_event (ManageControllerAccounts.names hbind) .nil hc.keel
    (.changed (.controller rfl rfl) rfl) rfl rfl rfl
    fun _ hnone => absurd hnone (Option.some_ne_none _)

/-- What ManagePermission saves and what its event tells are the same. -/
structure PermissionTold (ctx : ManagePermissionAccounts) (w w' : World) (p : Permission)
    (old : Option Permission) : Prop where
  before : w.keel ctx.permission.pubkey = old.map .permission
  after : ∃ calls w₁, SystemSteps calls w w₁ ∧
    w' = w₁.setKeel ctx.permission.pubkey (.permission p)
  touched : Touched ctx.controller.pubkey ctx.permission.pubkey (old.map .permission)
    (some (.permission p))
  own : p.controller = ctx.controller.pubkey

/-- In each of the three cases the value returned is the value saved, and the old one is what was
    there. -/
theorem changePermission_told {sp p : Permission} {old : Option Permission}
    {ctx : ManagePermissionAccounts} {args : ManagePermissionArgs}
    (h : changePermission sp ctx args w = .ok ((p, old), w')) : PermissionTold ctx w w' p old := by
  unfold changePermission at h
  by_cases hmanage : sp.mayManagePermissions
  · rw [if_pos hmanage] at h
    simp only [managePermission, bind_ok, read_ok, id, and_assoc, exists_and_left,
      exists_eq_left'] at h
    by_cases hempty : w.dataIsEmpty ctx.permission.pubkey
    · rw [if_pos hempty] at h
      simp only [verifySystemAccount, Permission.initAccount, bind_ok, read_ok, rejectIf_ok, pure_ok,
        id, Prod.mk.injEq, and_assoc, exists_and_left, exists_eq_left', exists_const] at h
      obtain ⟨-, -, -, _, _, ⟨_, _, hinit, rfl, rfl⟩, rfl, rfl, rfl⟩ := h
      obtain ⟨hfresh, hseeds, hsteps⟩ := initAccount_ok hinit
      exact ⟨hfresh, hsteps, .created hseeds rfl, rfl⟩
    · rw [if_neg hempty] at h
      simp only [bind_ok, save_ok, pure_ok, Prod.mk.injEq, and_assoc, exists_and_left,
        exists_eq_left', exists_const] at h
      obtain ⟨_, _, hpl, -, -, rfl, rfl, rfl⟩ := h
      obtain ⟨rfl, hp⟩ := Permission.loadAndCheck_at hpl
      exact ⟨hp.keel, ⟨_, _, .nil, rfl⟩, .changed (.permission rfl rfl) hp.controller,
        hp.controller⟩
  · rw [if_neg hmanage] at h
    by_cases hsuspend : sp.maySuspendPermissions
    · rw [if_pos hsuspend] at h
      simp only [suspendPermission, bind_ok, rejectIf_ok, save_ok, pure_ok, not_not, Prod.mk.injEq,
        and_assoc, exists_and_left, exists_eq_left', exists_const] at h
      obtain ⟨-, _, _, hpl, -, -, -, rfl, rfl, rfl⟩ := h
      obtain ⟨rfl, hp⟩ := Permission.loadAndCheck_at hpl
      exact ⟨hp.keel, ⟨_, _, .nil, rfl⟩, .changed (.permission rfl rfl) hp.controller,
        hp.controller⟩
    · rw [if_neg hsuspend, fail_ok] at h
      exact h.elim

/-- ManagePermission tells whichever of the three it did. -/
theorem processManagePermission_openly
    (h : processManagePermission accounts data w = .ok (u, w')) : ActedOpenly accounts w w' := by
  simp only [processManagePermission, bind_ok, fromAccounts_ok, rejectIf_ok, parseArgs_ok,
    Controller.rejectHalted_ok, Prod.exists, and_assoc, exists_and_left, exists_eq_left',
    exists_const] at h
  obtain ⟨-, ctx, hbind, args, -, -, c, _, hcl, -, -, sp, _, hspl, p, old, w₂, hchange, hevent⟩ := h
  obtain ⟨rfl, -⟩ := Controller.loadAndCheck_at hcl
  obtain ⟨rfl, -⟩ := Permission.loadAndCheck_at hspl
  have htold := changePermission_told hchange
  obtain ⟨calls, w₁, hcalls, rfl⟩ := htold.after
  obtain ⟨-, rfl⟩ := emitEvent_ok hevent
  exact .of_event (ManagePermissionAccounts.names hbind) hcalls htold.before htold.touched
    htold.own rfl rfl fun _ _ => KeelAccount.noConfusion

/-! ## Reserves, integrations, oracles -/

/-- ManageReserve tells the limits before and after. It saves the reserve past its event. -/
theorem processManageReserve_openly (h : processManageReserve accounts data w = .ok (u, w')) :
    ActedOpenly accounts w w' := by
  simp only [processManageReserve, bind_ok, fromAccounts_ok, rejectIf_ok, parseArgs_ok, read_ok,
    ofExcept_ok, Controller.rejectHalted_ok, save_ok, not_not, and_assoc, exists_and_left,
    exists_eq_left', exists_const] at h
  obtain ⟨-, ctx, hbind, args, -, c, _, hcl, -, -, p, _, hpl, -, r, _, hrl, r', hupdate, h⟩ := h
  obtain ⟨_, w₁, hevent, -, -, rfl⟩ := h
  obtain ⟨rfl, hc⟩ := Controller.loadAndCheck_at hcl
  obtain ⟨rfl, hp⟩ := Permission.loadAndCheck_at hpl
  obtain ⟨rfl, hr⟩ := Reserve.loadAndCheck_at hrl
  obtain ⟨-, rfl⟩ := emitEvent_ok hevent
  obtain ⟨hck, hmint, hvault, -⟩ := Reserve.update_frame hupdate
  exact .of_event (ManageReserveAccounts.names hbind) .nil hr.keel
    (.changed (.reserve hck hmint hvault) hr.controller) (hck.trans hr.controller) rfl rfl
    fun _ hnone => absurd hnone (Option.some_ne_none _)

/-- ManageIntegration leaves the configuration, so the integration stays the same one. -/
theorem processManageIntegration_openly
    (h : processManageIntegration accounts data w = .ok (u, w')) : ActedOpenly accounts w w' := by
  simp only [processManageIntegration, bind_ok, fromAccounts_ok, rejectIf_ok, parseArgs_ok,
    read_ok, ofExcept_ok, Controller.rejectHalted_ok, save_ok, not_not, and_assoc,
    exists_and_left, exists_eq_left', exists_const] at h
  obtain ⟨-, ctx, hbind, args, -, c, _, hcl, -, -, p, _, hpl, -, i, _, hil, i', hupdate, h⟩ := h
  obtain ⟨-, -, hevent⟩ := h
  obtain ⟨rfl, hc⟩ := Controller.loadAndCheck_at hcl
  obtain ⟨rfl, hp⟩ := Permission.loadAndCheck_at hpl
  obtain ⟨rfl, hi⟩ := Integration.loadAndCheck_at hil
  obtain ⟨-, rfl⟩ := emitEvent_ok hevent
  obtain ⟨hck, hhash, hconfig, hstate⟩ := Integration.update_frame hupdate
  have hsame : i.SameIdentity i' := ⟨hck, hhash, hconfig, congrArg IntegrationState.protocol hstate⟩
  exact .of_event (ManageIntegrationAccounts.names hbind) .nil hi.keel
    (.changed (.integration hsame) hi.controller) (hck.trans hi.controller) rfl rfl
    fun _ hnone => absurd hnone (Option.some_ne_none _)

omit [Chain] in
/-- A new feed and a new authority leave an oracle where it is. -/
theorem Oracle.updateFeed_same {o o' : Oracle} {feedArgs : Option FeedArgs}
    {priceFeed newAuthority : AccountMeta} (h : o.updateFeed feedArgs priceFeed w = .ok (o', w')) :
    (KeelAccount.oracle o).Same (.oracle (o'.updateAuthority newAuthority)) := by
  have hkept : ∀ o'' : Oracle, (KeelAccount.oracle o).Same (.oracle o'') →
      (KeelAccount.oracle o).Same (.oracle (o''.updateAuthority newAuthority)) := by
    intro o'' hsame
    unfold Oracle.updateAuthority
    split
    · exact hsame
    · exact hsame.trans (.oracle rfl rfl rfl rfl)
  apply hkept
  unfold updateFeed at h
  split at h
  · obtain ⟨rfl, -⟩ := pure_ok.mp h
    exact .refl
  · simp only [bind_ok, pure_ok] at h
    obtain ⟨_, _, -, rfl, -⟩ := h
    exact .oracle rfl rfl rfl rfl

/-- UpdateOracle tells its feed and its authority. -/
theorem processUpdateOracle_openly (h : processUpdateOracle accounts data w = .ok (u, w')) :
    ActedOpenly accounts w w' := by
  simp only [processUpdateOracle, bind_ok, fromAccounts_ok, parseArgs_ok, save_ok,
    Controller.rejectHalted_ok, and_assoc, exists_and_left, exists_eq_left', exists_const] at h
  obtain ⟨-, ctx, hbind, args, -, c, _, hcl, -, -, o, _, hol, o', _, hfeed, h⟩ := h
  obtain ⟨_, w₁, hevent, -, -, rfl⟩ := h
  obtain ⟨rfl, -⟩ := Controller.loadAndCheck_at hcl
  obtain ⟨rfl, ho, hcontroller, -⟩ := Oracle.loadAndCheck_at hol
  have hsame : (KeelAccount.oracle o).Same (.oracle (o'.updateAuthority ctx.newAuthority)) :=
    Oracle.updateFeed_same hfeed
  obtain ⟨rfl, -⟩ := Oracle.updateFeed_ok hfeed
  obtain ⟨-, rfl⟩ := emitEvent_ok hevent
  have hown : (KeelAccount.oracle o).controllerAt ctx.oracle.pubkey = ctx.controller.pubkey :=
    hcontroller _ rfl
  exact .of_event (UpdateOracle.names hbind) .nil ho.keel (.changed hsame hown)
    (hsame.controllerAt_eq.trans hown) rfl rfl
    fun _ hnone => absurd hnone (Option.some_ne_none _)

/-! ## New accounts -/

/-- **Creating an account and telling it** is a deed, after what the system program does. -/
theorem Deed.of_created {calls : List Cpi} {e : SvmAlmControllerEvent} {a : KeelAccount}
    (hcalls : SystemSteps calls w w₁) (hfresh : w.keel k = none) (haddress : a.address = some k)
    (hck : a.controllerAt k = ck) (he : e.update? = some ⟨k, none, some a⟩)
    (hevent : e.controller = ck)
    (hfounds : ∀ i, a = .integration i →
      i.WellConfigured ((w₁.setKeel k a).addLog (.event e))) :
    Deed ck w ((w₁.setKeel k a).addLog (.event e))
      ((calls.map fun call => .cpi call none) ++ [.event e]) := by
  apply (Deed.of_systemSteps hcalls).trans
  apply Deed.of_event _ (.created haddress hck) hck he hevent fun i _ => hfounds i
  rw [hcalls.keel_eq]
  exact hfresh

/-- InitializeOracle makes one account and tells it. -/
theorem processInitializeOracle_deed (h : processInitializeOracle accounts data w = .ok (u, w')) :
    Acted accounts w w' := by
  simp only [processInitializeOracle, Oracle.initAccount, bind_ok, fromAccounts_ok, rejectIf_ok,
    parseArgs_ok, pure_ok, Controller.rejectHalted_ok, and_assoc, exists_and_left,
    exists_eq_left', exists_const] at h
  obtain ⟨-, ctx, hbind, args, -, c, _, hcl, -, -, _, _, htype, -, o, w₂, ⟨_, _, hinit, rfl, rfl⟩,
    hevent⟩ := h
  obtain ⟨rfl, -⟩ := Controller.loadAndCheck_at hcl
  obtain rfl := readOnly_verifyOracleType htype
  obtain ⟨hfresh, hseeds, calls, w₁, hcalls, rfl⟩ := initAccount_ok hinit
  obtain ⟨-, rfl⟩ := emitEvent_ok hevent
  exact ⟨_, InitializeOracle.names hbind, _, Deed.of_created hcalls hfresh hseeds rfl rfl rfl
    fun _ => KeelAccount.noConfusion⟩

/-- InitializeIntegration first prepares the protocol, then makes the account, which is
    configured as its protocol asks. -/
theorem processInitializeIntegration_deed
    (h : processInitializeIntegration accounts data w = .ok (u, w')) : Acted accounts w w' := by
  simp only [processInitializeIntegration, Integration.initAccount, bind_ok, fromAccounts_ok,
    rejectIf_ok, parseArgs_ok, pure_ok, read_ok, Controller.rejectHalted_ok, not_not, and_assoc,
    exists_and_left, exists_eq_left', exists_const, Prod.exists] at h
  obtain ⟨-, ctx, hbind, args, -, c, _, hcl, -, -, p, _, hpl, -, h⟩ := h
  obtain ⟨rfl, hc⟩ := Controller.loadAndCheck_at hcl
  obtain ⟨rfl, -⟩ := Permission.loadAndCheck_at hpl
  obtain ⟨config, state, w₁, hprotocol, i, w₂, ⟨_, _, hinit, rfl, rfl⟩, hevent⟩ := h
  obtain ⟨es, hprepares⟩ := setsUp_initializeProtocol hprotocol
  obtain ⟨hfresh, hseeds, calls, w₂, hcalls, rfl⟩ := initAccount_ok hinit
  obtain ⟨-, rfl⟩ := emitEvent_ok hevent
  refine ⟨_, InitializeIntegrationAccounts.names hbind, _,
    (Deed.of_prepares hc.keel hprepares).trans
      (Deed.of_created hcalls hfresh hseeds rfl rfl rfl ?_)⟩
  intro i' hi'
  obtain rfl := KeelAccount.integration.inj hi'
  have hcoherent := processInitializeProtocol_coherent hprotocol
  rw [← hc.authority] at hcoherent
  -- everything that was checked is still there
  rw [hprepares.grows.keel] at hfresh
  exact Integration.WellConfigured.mono ⟨c, hc.keel, hcoherent⟩ .refl
    (.of_fresh hfresh (hcalls.keel_eq.trans hprepares.grows.keel))

/-- The new reserve is synced before the instruction ends. -/
theorem processInitializeReserve_deed (hbank : TokenLaws → w.bank.WellFormed)
    (h : processInitializeReserve accounts data w = .ok (u, w')) : Acted accounts w w' := by
  simp only [processInitializeReserve, Reserve.initAccount, bind_ok, fromAccounts_ok, rejectIf_ok,
    parseArgs_ok, read_ok, pure_ok, invoke_ok, Controller.rejectHalted_ok, save_ok, not_not,
    and_assoc, exists_and_left, exists_eq_left', exists_const] at h
  obtain ⟨-, ctx, hbind, args, -, c, _, hcl, -, -, p, _, hpl, -, h⟩ := h
  obtain ⟨rfl, hc⟩ := Controller.loadAndCheck_at hcl
  obtain ⟨rfl, -⟩ := Permission.loadAndCheck_at hpl
  obtain ⟨_, _, hmint, _, _, hextensions, _, ⟨bank, hinvoke, rfl⟩, h⟩ := h
  obtain ⟨r, _, ⟨_, _, hinit, hr, rfl⟩, _, w₃, hevent, r', w₄, hsync, -, -, rfl⟩ := h
  have hown : r.controller = ctx.controller.pubkey := by
    rw [← hr]
    rfl
  rw [hr] at hinit
  obtain rfl := readOnly_mint hmint
  obtain rfl := readOnly_validateMintExtensions hextensions
  obtain ⟨hfresh, hseeds, calls, w₁, hcalls, rfl⟩ := initAccount_ok hinit
  obtain ⟨-, rfl⟩ := emitEvent_ok hevent
  have hcreated : Deed ctx.controller.pubkey w _ _ :=
    Deed.of_prepares hc.keel (.of_unsigned rfl hinvoke)
  have htold := hcreated.trans (Deed.of_created (a := .reserve r) (e := .ReserveUpdate
    ⟨ctx.authority.pubkey, ctx.controller.pubkey, ctx.reserve.pubkey, none, some r⟩) hcalls hfresh
    hseeds hown rfl rfl fun _ => KeelAccount.noConfusion)
  obtain ⟨c', hc', -⟩ := htold.retains.controller hc.keel
  have hwellFormed : TokenLaws → w₁.bank.WellFormed := by
    intro laws
    exact hcalls.extends.bank.invariant (fun hwf h => laws.wellFormed h hwf)
      (laws.wellFormed hinvoke (hbank laws))
  obtain ⟨es, hsynced⟩ := Reserve.syncBalance_deed (by exact hwellFormed) hc'
    ⟨World.setKeel_keel_self, hown, hseeds⟩ hsync
  exact ⟨_, InitializeReserveAccounts.names hbind, _, htold.trans hsynced⟩

/-! ## InitializeController -/

/-- Two accounts are created before either is told, so this deed is put together as if each had
    been told when it was saved. -/
theorem processInitializeController_deed
    (h : processInitializeController accounts data w = .ok (u, w')) : Acted accounts w w' := by
  simp only [processInitializeController, Permission.initAccount, bind_ok, fromAccounts_ok,
    rejectIf_ok, parseArgs_ok, pure_ok, and_assoc, exists_and_left, exists_eq_left',
    exists_const] at h
  obtain ⟨-, ctx, hbind, -, args, -, -, c, _, hc, p, w₃, ⟨_, _, hinit, hp, rfl⟩, _, _, hevent, hevent'⟩ :=
    h
  have hown : p.controller = ctx.controller.pubkey := by
    rw [← hp]
  rw [hp] at hinit
  obtain ⟨-, -, -, -, hfresh, hseeds, calls, w₁, hcalls, rfl⟩ := Controller.initAccount_ok hc
  obtain ⟨hfreshP, hseedsP, calls', w₂, hcalls', rfl⟩ := initAccount_ok hinit
  obtain ⟨-, rfl⟩ := emitEvent_ok hevent
  obtain ⟨-, rfl⟩ := emitEvent_ok hevent'
  have hne : ctx.permission.pubkey ≠ ctx.controller.pubkey := by
    intro heq
    rw [heq, World.setKeel_keel_self] at hfreshP
    cases hfreshP
  rw [World.setKeel_keel_of_ne hne, hcalls.keel_eq] at hfreshP
  have hcreated : Deed ctx.controller.pubkey w { w₂ with keel := w.keel }
      ((calls ++ calls').map fun call => .cpi call none) := by
    refine .of_unsigned ?_ rfl
    show w₂.log = _
    rw [hcalls'.log_eq, List.map_append, ← List.append_assoc, ← hcalls.log_eq]
    rfl
  have htoldC := hcreated.trans (Deed.of_event (a := .controller c) (e := .ControllerUpdate
    ⟨ctx.authority.pubkey, ctx.controller.pubkey, ctx.controller.pubkey, none, some c⟩) hfresh
    (.created hseeds rfl) rfl rfl rfl fun _ _ => KeelAccount.noConfusion)
  have htoldP := htoldC.trans (Deed.of_event (a := .permission p) (e := .PermissionUpdate
    ⟨ctx.authority.pubkey, ctx.controller.pubkey, ctx.permission.pubkey, none, some p⟩)
    ((World.setKeel_keel_of_ne hne).trans hfreshP) (.created hseedsP hown) hown rfl rfl
    fun _ _ => KeelAccount.noConfusion)
  have hworld : w₂ = World.setKeel { w₂ with keel := w.keel } ctx.controller.pubkey
      (.controller c) := by
    have hkeel : w₂.keel = (w.setKeel ctx.controller.pubkey (.controller c)).keel := by
      rw [hcalls'.keel_eq]
      unfold World.setKeel
      rw [hcalls.keel_eq]
    exact congrArg (fun keel => { w₂ with keel := keel }) hkeel
  rw [hworld]
  exact ⟨_, InitializeControllerAccounts.names hbind, _, htoldP⟩

end AlmController
