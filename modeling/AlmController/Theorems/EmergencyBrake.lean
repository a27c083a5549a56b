import AlmController.Spec.Enabled
import AlmController.Theorems.Frozen

/-!
# The emergency brake

Freezing is worth something if it works when it is needed, and if there is a way back. It always
works: in every state that was reached, in the middle of a swap as well, ManageController fails for
the reasons it states and for no other. Whether there is a way back is decided when the controller
is frozen: from then on nobody gets another power, so it can be made Active again if and only if
there is an Active permission that may unfreeze, of somebody who can sign.

Both theorems suppose that the controller's authority account is what it always is, an address
without data that the system program owns (`AuthorityFree`). Nothing in this program makes it
anything else. But the controller signs invocations of other programs as this account, and the
status of a controller cannot change without an event, which the authority signs too. So what
those programs did with the account is a hypothesis.

`status_change_enabled_iff` is about one call by one holder of a permission, and says exactly when
it succeeds. `thaw_possible_iff` is about all runs. What it does not say is who holds a key: that
somebody can sign for an address is a fact about the world, and stands on the right-hand side.
-/

namespace AlmController

open Prog

variable [Chain]

variable {tx : TxContext} {accounts : List AccountMeta} {data : List UInt8} {w w' : World}
  {m : Move} {es : List LogEntry} {ck pk : Pubkey} {c : Controller} {p : Permission}
  {status : ControllerStatus} {steps : List (Step World Move)}

/-! ## When the status can be set -/

/-- The accounts of a ManageController that the holder of the permission at `pk` signs. -/
def statusAccounts (ck pk : Pubkey) (c : Controller) (p : Permission) : List AccountMeta :=
  [⟨ck, false, true⟩, ⟨c.authority, false, false⟩, ⟨p.authority, true, false⟩, ⟨pk, false, false⟩,
    ⟨ID, false, false⟩]

omit [Chain] in
theorem statusAccounts_hold (hc : w.keel ck = some (.controller c))
    (hp : w.keel pk = some (.permission p)) (hfree : c.AuthorityFree w) :
    AccountsHold ManageControllerAccounts.specs (statusAccounts ck pk c p) w := by
  apply AccountsHold.of_admits
  refine .cons (.own hc (List.forall_mem_singleton.mpr rfl)) (.cons ?_ (.cons (.signer rfl)
    (.cons (.own hp fun _ hattr => absurd hattr List.not_mem_nil) (.cons (.key rfl) .nil))))
  exact .system hfree.owner (List.forall_mem_singleton.mpr hfree.empty)

/-- The permission's authority is the only one to sign. -/
theorem statusAccounts_signers (hsign : Chain.canSign p.authority = true) :
    SignersPresent (statusAccounts ck pk c p) := by
  intro a ha hsigner
  simp only [statusAccounts, List.mem_cons, List.not_mem_nil, or_false] at ha
  rcases ha with rfl | rfl | rfl | rfl | rfl
  · cases hsigner
  · cases hsigner
  · exact hsign
  · cases hsigner
  · cases hsigner

/-- ManageController succeeds, and this is what it does. -/
theorem processManageController_succeeds (hw : Reachable w) (hc : w.keel ck = some (.controller c))
    (hp : w.keel pk = some (.permission p)) (hown : p.controller = ck) (hfree : c.AuthorityFree w)
    (hstatus : c.status ≠ status) (hout : c.isFrozen → status = .Active)
    (hmay : p.maySetStatus status) :
    ∃ e, processManageController (statusAccounts ck pk c p)
      (Borsh.write (ManageControllerArgs.mk status)) w =
        .ok ((), (w.setKeel ck (.controller { c with status := status })).addLog (.event e)) := by
  have hplaced : pdaOf c.seeds = some ck := hw.accounted.placed ck _ hc
  have hplacedPermission : pdaOf p.seeds = some pk := hw.accounted.placed pk _ hp
  have hfrozen : ¬ (c.isFrozen ∧ status ≠ .Active) := fun h => h.2 (hout h.1)
  -- the accounts are accepted, and so is the permission
  have hbind : fromAccounts ManageControllerAccounts.specs ManageControllerAccounts.bind
      (statusAccounts ck pk c p) w = .ok (⟨⟨ck, false, true⟩, ⟨c.authority, false, false⟩,
        ⟨p.authority, true, false⟩, ⟨pk, false, false⟩, ⟨ID, false, false⟩⟩, w) :=
    fromAccounts_ok.mpr ⟨statusAccounts_hold hc hp hfree, rfl, rfl⟩
  have hargs : parseArgs ManageControllerArgs (Borsh.write (ManageControllerArgs.mk status)) w =
      .ok (⟨status⟩, w) := parseArgs_ok.mpr ⟨rfl, rfl⟩
  have hload : Controller.loadAndCheck ⟨ck, false, true⟩ c.authority w = .ok (c, w) :=
    Controller.loadAndCheck_ok.mpr ⟨hc, hplaced, rfl, rfl⟩
  have hpermission : Permission.loadAndCheck ⟨pk, false, false⟩ ck p.authority w = .ok (p, w) :=
    Permission.loadAndCheck_ok.mpr ⟨hp, rfl, hown, hplacedPermission, rfl⟩
  -- the new status is saved, and the event is emitted in the new state
  have hsaved : c.updateAndSave ⟨ck, false, true⟩ status w = .ok ({ c with status := status },
      w.setKeel ck (.controller { c with status := status })) :=
    Controller.updateAndSave_ok.mpr ⟨hstatus, rfl, ⟨_, hc, rfl⟩, rfl, rfl⟩
  have hderived : Controller.deriveAuthority ck = .ok (c.authority, c.authorityBump) :=
    hw.anchored hc
  have hfree' : c.AuthorityFree (w.setKeel ck (.controller { c with status := status })) :=
    hfree.setKeel hc
  refine ⟨.ControllerUpdate ⟨p.authority, ck, ck, some c, some { c with status := status }⟩, ?_⟩
  rw [processManageController, bind_of_ok hbind, bind_of_ok hargs, bind_of_ok hload,
    bind_of_ok (rejectIf_of_not hfrozen), bind_of_ok hpermission,
    bind_of_ok (rejectIf_of_not (not_not.mpr hmay)), bind_of_ok hsaved]
  exact emitEvent_of_anchored (c := { c with status := status }) hplaced hderived
    ⟨hfree'.empty, hfree'.owner⟩

/-- **The brake works whenever it may.** In every state that was reached in which the controller's
    authority account is untouched, whoever has a permission of the controller, and can sign, sets
    its status if and only if it is another status, a frozen controller only goes to Active, and
    the permission has the power for it. -/
theorem status_change_enabled_iff (hw : Reachable w) (hc : w.keel ck = some (.controller c))
    (hp : w.keel pk = some (.permission p)) (hown : p.controller = ck) (hfree : c.AuthorityFree w)
    (hsign : Chain.canSign p.authority = true) :
    (∃ w', Moves w (.call tx (statusAccounts ck pk c p)
      (2 :: Borsh.write (ManageControllerArgs.mk status))) w' ∧
        w'.keel = Function.update w.keel ck (some (.controller { c with status := status }))) ↔
      c.status ≠ status ∧ (c.isFrozen → status = .Active) ∧ p.maySetStatus status := by
  constructor
  · rintro ⟨w', hmove, -⟩
    cases hmove with
    | call hsigners hrun =>
      have hrun' : processManageController (statusAccounts ck pk c p)
          (Borsh.write (ManageControllerArgs.mk status)) w = .ok ((), w') := hrun
      simp only [processManageController, bind_ok, fromAccounts_ok, parseArgs_ok, rejectIf_ok,
        Controller.loadAndCheck_ok, Permission.loadAndCheck_ok, Controller.updateAndSave_ok, not_not,
        and_assoc, exists_and_left, exists_eq_left', exists_const] at hrun'
      obtain ⟨-, ctx, hbind, args, hargs, c', hc', -, -, hout, p', hp', -, -, -, hmay, hstatus, -⟩ :=
        hrun'
      obtain rfl := Option.some.inj hbind
      obtain rfl := Borsh.write_injective hargs
      rw [hc] at hc'
      obtain rfl := KeelAccount.controller.inj (Option.some.inj hc')
      rw [hp] at hp'
      obtain rfl := KeelAccount.permission.inj (Option.some.inj hp')
      refine ⟨hstatus, ?_, hmay⟩
      intro hfrozen
      by_contra hne
      exact hout ⟨hfrozen, hne⟩
  · rintro ⟨hstatus, hout, hmay⟩
    obtain ⟨e, hrun⟩ := processManageController_succeeds hw hc hp hown hfree hstatus hout hmay
    exact ⟨_, .call (statusAccounts_signers hsign) hrun, rfl⟩

/-! ## The way back -/

/-- Nobody who can sign may unfreeze the controller at `ck`. -/
def NobodyUnfreezes (w : World) (ck : Pubkey) : Prop :=
  ∀ ⦃k p⦄, w.keel k = some (.permission p) → p.controller = ck → p.mayUnfreezeController →
    Chain.canSign p.authority = false

/-- While the controller is frozen, its permissions stay. -/
theorem Effect.frozen_permissions (h : Effect tx accounts data w w' es) (hfrozen : FrozenAt w ck)
    {k : Pubkey} (hp : w'.keel k = some (.permission p)) (hown : p.controller = ck) :
    w.keel k = some (.permission p) := by
  have hstopped : ∀ {ck'}, Running w ck' → ck' ≠ ck := by
    intro ck' hrunning heq
    subst heq
    exact hfrozen.not_running hrunning
  have hchange := h.changes k
  rw [hp] at hchange
  generalize hk : w.keel k = old at hchange
  cases hchange with
  | same => rfl
  | firstPermission _ hnone =>
    obtain ⟨c, hc⟩ := hfrozen.exists
    rw [hown, hc] at hnone
    cases hnone
  | newPermission _ _ hrunning => exact absurd hown (hstopped hrunning)
  | managePermission _ _ _ hrunning _ _ _ _ _ hcontroller =>
    exact absurd (hcontroller.symm.trans hown) (hstopped hrunning)
  | suspendPermission _ _ _ hrunning => exact absurd hown (hstopped hrunning)

/-- **The invariant of being stuck.** -/
structure Stuck (w : World) (ck : Pubkey) : Prop where
  frozen : FrozenAt w ck
  nobody : NobodyUnfreezes w ck

theorem Stuck.move (h : Stuck w ck) (hmove : Moves w m w') : Stuck w' ck := by
  cases hmove with
  | env => exact ⟨h.frozen, h.nobody⟩
  | tick => exact ⟨h.frozen, h.nobody⟩
  | call hsigners hrun =>
    obtain ⟨es, heffect⟩ := processInstruction_effect hsigners hrun
    constructor
    · have hkept : w'.keel ck = w.keel ck := by
        by_contra hne
        -- it would take a signature of somebody who may unfreeze
        obtain ⟨-, k, p, hk, hown, hmay, a, ha, hsigner, hauthority⟩ :=
          heffect.frozen_exit h.frozen hne
        have hcan := hsigners a ha hsigner
        rw [hauthority, h.nobody hk hown hmay] at hcan
        cases hcan
      obtain ⟨c, hc, hfrozen⟩ := h.frozen
      exact ⟨c, hkept.trans hc, hfrozen⟩
    · intro k p hk hown hmay
      exact h.nobody (heffect.frozen_permissions h.frozen hk hown) hown hmay

/-- **Frozen for good or not.** A frozen controller, whose authority account is untouched now, can
    become Active, in whatever run, if and only if there is now an Active permission of it that
    may unfreeze, of somebody who can sign. -/
theorem thaw_possible_iff (hw : Reachable w) (hc : w.keel ck = some (.controller c))
    (hfrozen : c.isFrozen) (hfree : c.AuthorityFree w) :
    (∃ steps w' c', Trace Moves w steps w' ∧ w'.keel ck = some (.controller c') ∧ c'.isActive) ↔
      ∃ k p, w.keel k = some (.permission p) ∧ p.controller = ck ∧ p.mayUnfreezeController ∧
        Chain.canSign p.authority = true := by
  constructor
  · rintro ⟨steps, w', c', htrace, hc', hactive⟩
    by_contra hnone
    have hnobody : NobodyUnfreezes w ck := by
      intro k p hk hown hmay
      by_contra hsign
      exact hnone ⟨k, p, hk, hown, hmay, Bool.eq_true_of_not_eq_false hsign⟩
    have hstuck : Stuck w' ck :=
      htrace.invariant (I := (Stuck · ck)) (fun hI hmove => hI.move hmove)
        ⟨⟨c, hc, hfrozen⟩, hnobody⟩
    exact hstuck.frozen.not_active hc' hactive
  · rintro ⟨k, p, hk, hown, hmay, hsign⟩
    have hstatus : c.status ≠ .Active := by
      intro hactive
      rw [Controller.isFrozen, hactive] at hfrozen
      cases hfrozen
    obtain ⟨e, hrun⟩ :=
      processManageController_succeeds hw hc hk hown hfree hstatus (fun _ => rfl) hmay
    have hmove : Moves w (.call ⟨[⟨ID, [], []⟩], ⟨0, Nat.one_pos⟩, by decide⟩
        (statusAccounts ck k c p) (2 :: Borsh.write (ManageControllerArgs.mk .Active))) _ :=
      .call (statusAccounts_signers hsign) hrun
    exact ⟨_, _, { c with status := .Active }, .single hmove, World.setKeel_keel_self, rfl⟩

end AlmController

namespace AlmController

open Simulator

/-- What the operator may do: everything but managing permissions. -/
def operatorPermission : Permission where
  controller := controllerKey
  authority := operator
  status := .Active
  canManagePermissions := false
  canInvokeExternalTransfer := true
  canExecuteSwap := true
  canReallocate := true
  canFreezeController := true
  canUnfreezeController := true
  canManageReservesAndIntegrations := true
  canSuspendPermissions := true
  canLiquidate := true
  padding := 0

/-- The operator freezes the controller of the example. -/
theorem status_change_enabled_iff_example :
    ∃ w', Moves (swapWorld evenPrice) (.call (alone (manageController .Frozen))
      (statusAccounts controllerKey (permissionKey operator) (exampleController .Active)
        operatorPermission)
      (2 :: Borsh.write (ManageControllerArgs.mk .Frozen))) w' ∧
      w'.keel = Function.update (swapWorld evenPrice).keel controllerKey
        (some (.controller { exampleController .Active with status := .Frozen })) :=
  (status_change_enabled_iff swapWorld_attained.reachable swapWorld_controller
    (by decide +kernel : (swapWorld evenPrice).keel (permissionKey operator) =
      some (.permission operatorPermission))
    rfl ⟨by decide +kernel, by decide +kernel⟩ (by decide +kernel)).mpr (by decide)

/-- And can make it Active again. -/
theorem thaw_possible_iff_example :
    ∃ steps w' c', Trace Moves frozenWorld steps w' ∧
      w'.keel controllerKey = some (.controller c') ∧ c'.isActive := by
  have hreachable : Reachable frozenWorld :=
    (genesis_play (accounts_unassociated evenPrice) _).committed.reachable
  have hfree : (exampleController .Frozen).AuthorityFree frozenWorld :=
    ⟨by decide +kernel, by decide +kernel⟩
  have hpermission : frozenWorld.keel (permissionKey operator) =
      some (.permission operatorPermission) := by decide +kernel
  have hsign : Chain.canSign operatorPermission.authority = true := by decide +kernel
  exact (thaw_possible_iff hreachable frozenWorld_controller rfl hfree).mpr
    ⟨_, _, hpermission, rfl, ⟨rfl, rfl⟩, hsign⟩

end AlmController
