import AlmController.Processor.Governance
import AlmController.Spec.Change

/-!
# Effects: controllers and permissions

What InitializeController, ManageController, ManagePermission and ClaimRent did, when
they succeeded, as changes of single accounts.

Each lemma ends in an `Effect`, which says for every account of the table why it may have become
what it is. What an instruction checked is in the reason: a status was set by somebody with the
power for it, a permission was managed under a running controller. An instruction that failed has no
effect, so nothing is said of it. What the events tell is left to the deeds.
-/

namespace AlmController

open Prog

variable [Chain]

variable {tx : TxContext} {accounts : List AccountMeta} {data : List UInt8} {w w' : World}
  {u : Unit}

/-! ## EmitEvent -/

/-- Nobody can call EmitEvent: only an authority may, and it signs for nobody outside. -/
theorem processEmitEvent_effect (hsigners : SignersPresent accounts)
    (h : processEmitEvent accounts data w = .ok (u, w')) : False := by
  obtain ⟨-, authority, controllerPda, bump, rfl, hsigner, hderive⟩ := processEmitEvent_ok h
  have hcan := hsigners authority (.head _) hsigner
  have hfind : Chain.tryFindProgramAddress [CONTROLLER_AUTHORITY_SEED, controllerPda.bytes] ID =
      some (authority.pubkey, bump) := okOr_ok.mp hderive
  rw [Chain.pda_cannot_sign (Chain.find_create hfind)] at hcan
  cases hcan

/-! ## InitializeController -/

omit [Chain] in
theorem InitializeControllerAccounts.bind_eq {ctx : InitializeControllerAccounts}
    (h : InitializeControllerAccounts.bind accounts = some ctx) : ∃ rest,
      accounts = ctx.payer :: ctx.authority :: ctx.controller :: ctx.controllerAuthority ::
        ctx.permission :: ctx.programId :: ctx.systemProgram :: rest := by
  unfold bind at h
  split at h
  · rename_i rest
    obtain rfl := Option.some.inj h
    exact ⟨rest, rfl⟩
  · cases h

theorem Permission.initAccount_ok {account payer : AccountMeta} {ck authority : Pubkey}
    {status : PermissionStatus} {manage invoke swap reallocate freeze unfreeze reserves suspend
    liquidate : Bool} {p : Permission}
    (h : Permission.initAccount account payer ck authority status manage invoke swap reallocate
      freeze unfreeze reserves suspend liquidate w = .ok (p, w')) :
    p.controller = ck ∧ p.authority = authority ∧ p.status = status ∧
      p.canManagePermissions = manage ∧ w.keel account.pubkey = none ∧
      ∃ calls w₁, SystemSteps calls w w₁ ∧ w' = w₁.setKeel account.pubkey (.permission p) := by
  simp only [Permission.initAccount, bind_ok, pure_ok] at h
  obtain ⟨_, _, hinit, rfl, rfl⟩ := h
  obtain ⟨hfresh, -, hsteps⟩ := AlmController.initAccount_ok hinit
  exact ⟨rfl, rfl, rfl, rfl, hfresh, hsteps⟩

/-- InitializeController makes a controller and its first permission, at addresses that had no
    account. -/
theorem processInitializeController_effect
    (h : processInitializeController accounts data w = .ok (u, w')) :
    ∃ es, Effect tx accounts (1 :: data) w w' es := by
  simp only [processInitializeController, bind_ok, fromAccounts_ok, rejectIf_ok, parseArgs_ok,
    and_assoc, exists_and_left, exists_eq_left', exists_const] at h
  obtain ⟨-, ctx, -, -, args, -, hstatus, c, _, hc, p, _, hp, _, _, hevent, hevent'⟩ := h
  obtain ⟨hid, hcstatus, -, ⟨bump, hderive, hbump⟩, hfresh, hseeds, calls, w₁, hcalls, rfl⟩ :=
    Controller.initAccount_ok hc
  obtain ⟨hpc, -, hpstatus, hpmanage, hfreshP, calls', w₂, hcalls', rfl⟩ :=
    Permission.initAccount_ok hp
  obtain ⟨-, rfl⟩ := emitEvent_ok hevent
  obtain ⟨-, rfl⟩ := emitEvent_ok hevent'
  -- the two accounts differ, for the first exists when the second is created
  have hne : ctx.permission.pubkey ≠ ctx.controller.pubkey := by
    intro heq
    rw [heq, World.setKeel_keel_self] at hfreshP
    cases hfreshP
  rw [World.setKeel_keel_of_ne hne, hcalls.keel_eq] at hfreshP
  have hkeel : ∀ k, k ≠ ctx.permission.pubkey →
      (w₂.setKeel ctx.permission.pubkey (.permission p)).keel k =
        (w₁.setKeel ctx.controller.pubkey (.controller c)).keel k := by
    intro k hk
    rw [World.setKeel_keel_of_ne hk, hcalls'.keel_eq]
  have hwithin : ∀ {u v}, Within {} ((((calls.map fun call => .cpi call none) ++
      calls'.map fun call => .cpi call none) ++ [.event (.ControllerUpdate u)]) ++
        [.event (.PermissionUpdate v)]) := fun {_ _} =>
    .append (.append (.append .of_unsigned .of_unsigned) (.singleton trivial)) (.singleton trivial)
  refine ⟨_, .of_footprint [ctx.controller.pubkey, ctx.permission.pubkey]
    (hcalls.extends.grew.setKeel.trans hcalls'.extends.grew.setKeel).addLog.addLog
    hwithin ?_ ?_ ?_ ?_ (.inl (hwithin.movesNone (.inl rfl))) ?_ ?_⟩
  · exact fun _ hmem => absurd hmem List.not_mem_nil
  · exact List.nil_subset _
  · exact List.nil_subset _
  · exact fun _ hmem => absurd hmem List.not_mem_nil
  · intro k hk
    rw [List.mem_cons, List.mem_singleton, not_or] at hk
    show (w₂.setKeel ctx.permission.pubkey (.permission p)).keel k = w.keel k
    rw [hkeel k hk.2, World.setKeel_keel_of_ne hk.1, hcalls.keel_eq]
  · have hkeelP : (w₂.setKeel ctx.permission.pubkey (.permission p)).keel ctx.permission.pubkey =
        some (.permission p) := World.setKeel_keel_self
    have hkeelC : (w₂.setKeel ctx.permission.pubkey (.permission p)).keel ctx.controller.pubkey =
        some (.controller c) := by
      rw [hkeel _ hne.symm, World.setKeel_keel_self]
    refine List.forall_mem_cons.mpr ⟨?_, List.forall_mem_singleton.mpr ?_⟩
    · simp only [World.addLog_keel, hkeelC, hfresh]
      refine .newController (hwithin.silent_of_empty rfl rfl List.not_mem_nil) hseeds ?_ ?_
        ⟨_, p, hkeelP, hpc, hpstatus, hpmanage⟩
      · rw [hcstatus]
        exact hstatus
      · rw [hderive, hbump]
    · simp only [World.addLog_keel, hkeelP, hfreshP]
      refine .firstPermission (hwithin.silent_of_empty rfl rfl List.not_mem_nil) ?_
      rw [hpc]
      exact hfresh

/-! ## ManageController -/

omit [Chain] in
theorem ManageControllerAccounts.bind_eq {ctx : ManageControllerAccounts}
    (h : ManageControllerAccounts.bind accounts = some ctx) : ∃ rest,
      accounts = ctx.controller :: ctx.controllerAuthority :: ctx.authority :: ctx.permission ::
        ctx.programId :: rest := by
  unfold bind at h
  split at h
  · rename_i rest
    obtain rfl := Option.some.inj h
    exact ⟨rest, rfl⟩
  · cases h

/-- ManageController sets a status, for somebody whose permission has the power for it; a frozen
    controller only goes to Active. -/
theorem processManageController_effect
    (h : processManageController accounts data w = .ok (u, w')) :
    ∃ es, Effect tx accounts (2 :: data) w w' es := by
  simp only [processManageController, bind_ok, fromAccounts_ok, rejectIf_ok, parseArgs_ok,
    Controller.updateAndSave_ok, not_not, and_assoc, exists_and_left, exists_eq_left',
    exists_const] at h
  obtain ⟨haccounts, ctx, hbind, args, hargs, c, _, hcl, hfrozen, p, _, hpl, hmay, hne, _, rfl, -,
    -, hevent⟩ := h
  obtain ⟨rfl, hc⟩ := Controller.loadAndCheck_at hcl
  obtain ⟨rfl, hp⟩ := Permission.loadAndCheck_at hpl
  obtain ⟨-, rfl⟩ := emitEvent_ok hevent
  obtain ⟨rest, haccs⟩ := ManageControllerAccounts.bind_eq hbind
  have hget : accounts[2]? = some ctx.authority := by
    rw [haccs]
    rfl
  refine ⟨_, .of_report hc.keel trivial ?_⟩
  intro hsilent
  refine .setStatus hsilent (congrArg (2 :: ·) hargs) ?_ hne ?_ (hp.authorized (List.mem_of_getElem? hget)
    (haccounts.isSigner rfl hget (.head _)) hmay)
  · rw [haccs]
    rfl
  · intro hisFrozen
    by_contra hstatus
    exact hfrozen ⟨hisFrozen, hstatus⟩

/-! ## ManagePermission -/

omit [Chain] in
theorem ManagePermissionAccounts.bind_eq {ctx : ManagePermissionAccounts}
    (h : ManagePermissionAccounts.bind accounts = some ctx) : ∃ rest,
      accounts = ctx.payer :: ctx.controller :: ctx.controllerAuthority :: ctx.superAuthority ::
        ctx.superPermission :: ctx.authority :: ctx.permission :: ctx.programId ::
          ctx.systemProgram :: rest := by
  unfold bind at h
  split at h
  · rename_i rest
    obtain rfl := Option.some.inj h
    exact ⟨rest, rfl⟩
  · cases h

/-- What became of the permission that ManagePermission was called for. -/
inductive PermissionChange (sp : Permission) (ctx : ManagePermissionAccounts)
    (args : ManagePermissionArgs) (w : World) : World → Prop
  | created {p : Permission} {calls : List Cpi} {w₁ : World} : sp.mayManagePermissions →
      w.keel ctx.permission.pubkey = none → p.controller = ctx.controller.pubkey →
      SystemSteps calls w w₁ →
      PermissionChange sp ctx args w (w₁.setKeel ctx.permission.pubkey (.permission p))
  | managed {p p' : Permission} : sp.mayManagePermissions →
      p.At w ctx.controller.pubkey ctx.permission.pubkey ctx.authority.pubkey →
      p'.controller = p.controller → p'.authority = p.authority →
      p'.status = args.status → p'.canManagePermissions = args.canManagePermissions →
      PermissionChange sp ctx args w (w.setKeel ctx.permission.pubkey (.permission p'))
  | suspended {p : Permission} : sp.maySuspendPermissions →
      p.At w ctx.controller.pubkey ctx.permission.pubkey ctx.authority.pubkey →
      ¬ p.mayManagePermissions →
      PermissionChange sp ctx args w
        (w.setKeel ctx.permission.pubkey (.permission { p with status := .Suspended }))

/-- Which of the three it was is decided by the power of the caller, and by whether there was an
    account at the address. -/
theorem changePermission_ok {sp : Permission} {ctx : ManagePermissionAccounts}
    {args : ManagePermissionArgs} {result : Permission × Option Permission}
    (h : changePermission sp ctx args w = .ok (result, w')) :
    PermissionChange sp ctx args w w' := by
  unfold changePermission at h
  by_cases hmanage : sp.mayManagePermissions
  · rw [if_pos hmanage] at h
    simp only [managePermission, bind_ok, read_ok, id, and_assoc, exists_and_left,
      exists_eq_left'] at h
    by_cases hempty : w.dataIsEmpty ctx.permission.pubkey
    · rw [if_pos hempty] at h
      simp only [verifySystemAccount, bind_ok, read_ok, rejectIf_ok, pure_ok, id, and_assoc,
        exists_and_left, exists_eq_left', exists_const] at h
      obtain ⟨-, -, -, p, _, hinit, rfl, rfl⟩ := h
      obtain ⟨hck, -, -, -, hfresh, calls, w₁, hcalls, rfl⟩ := Permission.initAccount_ok hinit
      exact .created hmanage hfresh hck hcalls
    · rw [if_neg hempty] at h
      simp only [bind_ok, save_ok, pure_ok, and_assoc, exists_and_left, exists_eq_left',
        exists_const] at h
      obtain ⟨p, _, hpl, -, -, rfl, rfl⟩ := h
      obtain ⟨rfl, hp⟩ := Permission.loadAndCheck_at hpl
      exact .managed hmanage hp rfl rfl rfl rfl
  · rw [if_neg hmanage] at h
    by_cases hsuspend : sp.maySuspendPermissions
    · rw [if_pos hsuspend] at h
      simp only [suspendPermission, bind_ok, rejectIf_ok, save_ok, pure_ok, not_not, and_assoc,
        exists_and_left, exists_eq_left', exists_const] at h
      obtain ⟨hstatus, p, _, hpl, hnot, -, -, rfl, rfl⟩ := h
      obtain ⟨rfl, hp⟩ := Permission.loadAndCheck_at hpl
      rw [hstatus]
      exact .suspended hsuspend hp hnot
    · rw [if_neg hsuspend, fail_ok] at h
      exact h.elim

/-- ManagePermission, in its three cases. A permission that manages itself stays Active and keeps
    the power to manage. -/
theorem processManagePermission_effect
    (h : processManagePermission accounts data w = .ok (u, w')) :
    ∃ es, Effect tx accounts (3 :: data) w w' es := by
  simp only [processManagePermission, bind_ok, fromAccounts_ok, rejectIf_ok, parseArgs_ok,
    Controller.rejectHalted_ok, and_assoc, exists_and_left, exists_eq_left',
    exists_const] at h
  obtain ⟨haccounts, ctx, hbind, args, -, hself, c, _, hcl, hfrozen, hlocked, sp, _, hspl, h⟩ := h
  obtain ⟨rfl, hc⟩ := Controller.loadAndCheck_at hcl
  obtain ⟨rfl, hsp⟩ := Permission.loadAndCheck_at hspl
  obtain ⟨_, w₂, hchange, hevent⟩ := h
  obtain ⟨-, rfl⟩ := emitEvent_ok hevent
  obtain ⟨rest, haccs⟩ := ManagePermissionAccounts.bind_eq hbind
  have hget : accounts[3]? = some ctx.superAuthority := by
    rw [haccs]
    rfl
  have hnamed : accounts[6]?.map AccountMeta.pubkey = some ctx.permission.pubkey := by
    rw [haccs]
    rfl
  have hrunning := hc.running hfrozen hlocked
  have hauthorized : ∀ {power : Permission → Prop}, power sp →
      Authorized w accounts ctx.controller.pubkey power := fun hpower =>
    hsp.authorized (List.mem_of_getElem? hget) (haccounts.isSigner rfl hget (.head _)) hpower
  -- the three cases differ in the power that they take and in what they save
  cases changePermission_ok hchange with
  | @created p calls w₁ hmanage hfresh hck hcalls =>
    refine ⟨_, .of_save (s := {}) hcalls.extends.addLog ?_ rfl rfl (List.nil_subset _) ?_
      (.inl rfl) rfl ?_⟩
    · exact .append .of_unsigned (.singleton trivial)
    · exact fun _ hmem => absurd hmem List.not_mem_nil
    · intro hsilent
      rw [hfresh]
      rw [← hck] at hrunning hauthorized
      exact .newPermission (hsilent List.not_mem_nil) hnamed hrunning (hauthorized hmanage)
  | @managed p p' hmanage hp hck hauthority hstatus hcan =>
    refine ⟨_, .of_report hp.keel trivial ?_⟩
    intro hsilent
    rw [← hp.controller] at hrunning hauthorized
    refine .managePermission hsilent rfl hnamed hrunning (hauthorized hmanage) hsp.keel ?_ hmanage ?_
      hck hauthority
    · rw [hsp.controller, hp.controller]
    · intro hksp
      rw [hksp] at hself
      refine ⟨?_, ?_⟩
      · rw [hstatus]
        cases hargs : args.status with
        | Active => rfl
        | Suspended => exact absurd ⟨rfl, .inl hargs⟩ hself
      · rw [hcan]
        by_contra hfalse
        exact hself ⟨rfl, .inr (Bool.not_eq_true _ ▸ hfalse)⟩
  | @suspended p hsuspend hp hnot =>
    refine ⟨_, .of_report hp.keel trivial ?_⟩
    intro hsilent
    rw [← hp.controller] at hrunning hauthorized
    exact .suspendPermission hsilent rfl hnamed hrunning (hauthorized hsuspend) hnot

/-! ## ClaimRent -/

/-- ClaimRent signs for a transfer of lamports and leaves every account of the program as it was. -/
theorem processClaimRent_effect (h : processClaimRent accounts w = .ok (u, w')) :
    ∃ es, Effect tx accounts data w w' es := by
  simp only [processClaimRent, bind_ok, fromAccounts_ok, rejectIf_ok, read_ok, invokeSigned_ok,
    not_not, id, and_assoc, exists_and_left, exists_eq_left', exists_const] at h
  obtain ⟨-, ctx, -, c, _, hcl, hactive, p, _, hpl, -, -, -, _, -, bank, hinvoke, rfl⟩ := h
  obtain ⟨rfl, hc⟩ := Controller.loadAndCheck_at hcl
  obtain ⟨rfl, -⟩ := Permission.loadAndCheck_at hpl
  refine ⟨_, .of_extends (s := { controllers := [ctx.controller.pubkey] })
    (Extends.refl.invoke hinvoke) ?_ rfl rfl rfl ?_ (.inr (.of_signed rfl))⟩
  · exact .singleton (within_signed (List.mem_singleton_self _))
  · intro ck hck
    rw [List.mem_singleton.mp hck]
    exact hc.running_of_active hactive

end AlmController
