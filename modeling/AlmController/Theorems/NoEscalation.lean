import AlmController.Simulator
import AlmController.Spec.Accounted

/-!
# No power without a manager

The permissions of a controller form a table. An instruction that no manager of the
controller signed leaves the table alone, except that it may suspend one permission: not a
manager's, and only at the signature of someone who may suspend.

Whatever such instructions are strung together, nobody gains a capability by them.

`no_privilege_escalation` has both: what one such instruction does to the table, and what a run of
them does to the capabilities. The run may do everything else, swap, push, refresh and pass time,
and other controllers may be managed on it. Capabilities are what Active permissions grant, so a
permission that is suspended counts for nothing, and lifting a suspension takes a manager.
-/

namespace AlmController

open Prog

variable [Chain]

variable {tx : TxContext} {accounts : List AccountMeta} {data : List UInt8} {w w' : World}
  {es : List LogEntry} {ck k : Pubkey} {p p' : Permission}

/-! ## The table -/

/-- The permission of this controller that an account is, if any. -/
def permissionOf (ck : Pubkey) (a : Option KeelAccount) : Option Permission :=
  (a.bind KeelAccount.permission?).filter fun p => p.controller = ck

/-- The permissions of a controller, by address. -/
def World.permissionTable (w : World) (ck : Pubkey) : Pubkey → Option Permission :=
  fun k => permissionOf ck (w.keel k)

section Table

omit [Chain]

/-- A permission of the controller is in its table, -/
theorem permissionOf_permission (h : p.controller = ck) :
    permissionOf ck (some (.permission p)) = some p := by
  simp [permissionOf, KeelAccount.permission?, h]

/-- and one of another controller is not. -/
theorem permissionOf_of_ne (h : p.controller ≠ ck) :
    permissionOf ck (some (.permission p)) = none := by
  simp [permissionOf, KeelAccount.permission?, h]

end Table

/-- One entry of the table went to Suspended. -/
structure SuspendsOne (w w' : World) (accounts : List AccountMeta) (ck k : Pubkey)
    (p : Permission) : Prop where
  before : w.permissionTable ck k = some p
  after : w'.permissionTable ck =
    Function.update (w.permissionTable ck) k (some { p with status := .Suspended })
  authorized : Authorized w accounts ck Permission.maySuspendPermissions
  notManager : ¬ p.mayManagePermissions

/-- The entry at `k` changed, without a manager: then `k` was named, and was suspended. -/
theorem Effect.suspended (h : Effect tx accounts data w w' es) {c : Controller}
    (hc : w.keel ck = some (.controller c))
    (hnobody : ¬ Authorized w accounts ck Permission.mayManagePermissions)
    (hne : w'.permissionTable ck k ≠ w.permissionTable ck k) :
    accounts[6]?.map AccountMeta.pubkey = some k ∧ ∃ p, w.permissionTable ck k = some p ∧
      w'.permissionTable ck k = some { p with status := .Suspended } ∧
      Authorized w accounts ck Permission.maySuspendPermissions ∧ ¬ p.mayManagePermissions := by
  have hchange := h.changes k
  unfold World.permissionTable at hne ⊢
  generalize w.keel k = old at hchange hne ⊢
  generalize w'.keel k = new at hchange hne ⊢
  cases hchange with
  | same => exact absurd rfl hne
  -- the first permission of a controller is made with it, and this one is there
  | @firstPermission p _ hfresh =>
    refine absurd (permissionOf_of_ne ?_) hne
    intro hpc
    rw [hpc, hc] at hfresh
    cases hfresh
  -- the next two need a manager, so they are of another controller
  | newPermission _ _ _ hauthorized =>
    refine absurd (permissionOf_of_ne ?_) hne
    intro hpc
    exact hnobody (hpc ▸ hauthorized)
  | @managePermission p p' _ _ _ _ _ _ hauthorized _ _ _ _ hkept =>
    have hforeign : p.controller ≠ ck := fun hpc => hnobody (hpc ▸ hauthorized)
    rw [permissionOf_of_ne hforeign, permissionOf_of_ne (hkept ▸ hforeign)] at hne
    exact absurd rfl hne
  | @suspendPermission p _ _ hnamed _ hauthorized hnot =>
    by_cases hpc : p.controller = ck
    · subst hpc
      exact ⟨hnamed, p, permissionOf_permission rfl, permissionOf_permission rfl, hauthorized, hnot⟩
    · have hpc' : ({ p with status := .Suspended } : Permission).controller ≠ ck := hpc
      rw [permissionOf_of_ne hpc, permissionOf_of_ne hpc'] at hne
      exact absurd rfl hne
  | _ => exact absurd rfl hne

/-- **One instruction without a manager's signature.** -/
theorem Effect.no_escalation (h : Effect tx accounts data w w' es) {c : Controller}
    (hc : w.keel ck = some (.controller c))
    (hnobody : ¬ Authorized w accounts ck Permission.mayManagePermissions) :
    w'.permissionTable ck = w.permissionTable ck ∨ ∃ k p, SuspendsOne w w' accounts ck k p := by
  by_cases hsame : w'.permissionTable ck = w.permissionTable ck
  · exact .inl hsame
  · right
    obtain ⟨k, hk⟩ := Function.ne_iff.mp hsame
    obtain ⟨hnamed, p, hp, hp', hauthorized, hnot⟩ := h.suspended hc hnobody hk
    refine ⟨k, p, hp, ?_, hauthorized, hnot⟩
    -- the instruction names one permission, so no other entry changed
    funext k'
    by_cases hk' : k' = k
    · subst hk'
      rw [hp', Function.update_self]
    · rw [Function.update_of_ne hk']
      by_contra hne
      obtain ⟨hnamed', -⟩ := h.suspended hc hnobody hne
      exact hk' (Option.some.inj (hnamed'.symm.trans hnamed))

/-! ## Capabilities -/

/-- What a permission may allow. -/
inductive Capability
  | managePermissions
  | invokeExternalTransfer
  | executeSwap
  | reallocate
  | freezeController
  | unfreezeController
  | manageReservesAndIntegrations
  | suspendPermissions
  | liquidate

/-- The flag of a capability. -/
def Capability.flag : Capability → Permission → Bool
  | .managePermissions => Permission.canManagePermissions
  | .invokeExternalTransfer => Permission.canInvokeExternalTransfer
  | .executeSwap => Permission.canExecuteSwap
  | .reallocate => Permission.canReallocate
  | .freezeController => Permission.canFreezeController
  | .unfreezeController => Permission.canUnfreezeController
  | .manageReservesAndIntegrations => Permission.canManageReservesAndIntegrations
  | .suspendPermissions => Permission.canSuspendPermissions
  | .liquidate => Permission.canLiquidate

/-- Who may do what with a controller. -/
def World.capabilities (w : World) (ck : Pubkey) : Set (Pubkey × Capability) :=
  { x | ∃ k p, w.permissionTable ck k = some p ∧ p.authority = x.1 ∧ p.allows x.2.flag }

omit [Chain] in
/-- A suspended permission allows nothing, and the others are as before. -/
theorem SuspendsOne.capabilities_subset (h : SuspendsOne w w' accounts ck k p) :
    w'.capabilities ck ⊆ w.capabilities ck := by
  rintro ⟨authority, capability⟩ ⟨k', p', hk', hauthority, hallows⟩
  rw [h.after] at hk'
  by_cases hk : k' = k
  · subst hk
    rw [Function.update_self] at hk'
    obtain rfl := Option.some.inj hk'
    exact absurd hallows.1 nofun
  · rw [Function.update_of_ne hk] at hk'
    exact ⟨k', p', hk', hauthority, hallows⟩

/-- No manager of the controller signed the move. -/
def Step.Unmanaged (ck : Pubkey) (step : Step World Move) : Prop :=
  ∀ tx accounts data, step.move = .call tx accounts data →
    ¬ Authorized step.before accounts ck Permission.mayManagePermissions

/-- **One step** without a manager gives nobody anything. -/
theorem Moves.capabilities_subset {m : Move} (h : Moves w m w') {c : Controller}
    (hc : w.keel ck = some (.controller c)) (hnobody : Step.Unmanaged ck ⟨w, m, w'⟩) :
    w'.capabilities ck ⊆ w.capabilities ck := by
  rcases h.cases with ⟨tx, accounts, data, es, rfl, heffect⟩ | ⟨-, hsame⟩
  · rcases heffect.no_escalation hc (hnobody _ _ _ rfl) with heq | ⟨k, p, hone⟩
    · unfold World.capabilities
      rw [heq]
    · exact hone.capabilities_subset
  · have heq : w'.permissionTable ck = w.permissionTable ck := by
      unfold World.permissionTable
      rw [hsame.keel]
    unfold World.capabilities
    rw [heq]

/-- **No privilege escalation.** Without the signature of one of its managers, one
    instruction suspends at most one permission of a controller and changes nothing else
    in its table, and a run of them only takes capabilities away. -/
theorem no_privilege_escalation {c : Controller} (hc : w.keel ck = some (.controller c)) :
    (∀ tx accounts data w', Moves w (.call tx accounts data) w' →
      ¬ Authorized w accounts ck Permission.mayManagePermissions →
        w'.permissionTable ck = w.permissionTable ck ∨
          ∃ k p, SuspendsOne w w' accounts ck k p) ∧
    (∀ steps w', Trace Moves w steps w' → (∀ step ∈ steps, Step.Unmanaged ck step) →
      w'.capabilities ck ⊆ w.capabilities ck) := by
  refine ⟨?_, ?_⟩
  · intro tx accounts data w' hmove hnobody
    obtain ⟨es, heffect⟩ := hmove.effect
    exact heffect.no_escalation hc hnobody
  · intro steps w' htrace hunmanaged
    -- the induction carries that the controller is still there
    have hkept := (htrace.restrict hunmanaged).invariant
      (I := fun w' => (∃ c, w'.keel ck = some (.controller c)) ∧
        w'.capabilities ck ⊆ w.capabilities ck)
      (fun ⟨⟨_, hc⟩, hsubset⟩ ⟨hmove, hnobody⟩ =>
        ⟨hmove.controller_mono hc, (hmove.capabilities_subset hc hnobody).trans hsubset⟩)
      ⟨⟨c, hc⟩, Set.Subset.rfl⟩
    exact hkept.2

end AlmController

namespace AlmController

open Simulator

/-- Somebody changes the status of the trader's permission, which lets him swap. -/
def manageTrader (superAuthority : Pubkey) (status : PermissionStatus) : Instruction :=
  instruction 3
    [signing payer, plain controllerKey, plain authorityKey, signing superAuthority,
      plain (permissionKey superAuthority), plain trader, plain (permissionKey trader), plain ID,
      plain SYSTEM_PROGRAM_ID]
    (Borsh.write
      (ManagePermissionArgs.mk status false false true false false false false false false))

/-- The example, with a trader who has a permission of his own. -/
def tradersWorld : World :=
  (genesis (accounts evenPrice)).play
    (setup ++ [.submit [manageTrader KEEL_DEPLOYER_MSIG .Active] (by decide)])

/-- The operator suspends it. -/
def suspendTrader : Instruction := manageTrader operator .Suspended

/-- Neither of the two who sign has a permission to manage permissions. -/
theorem suspendTrader_unmanaged :
    ¬ Authorized tradersWorld suspendTrader.accounts controllerKey
      Permission.mayManagePermissions := by
  intro hauthorized
  obtain ⟨k, p, hk, hown, hmay, a, ha, hsigner, hauthority⟩ := hauthorized
  have hattained : Attained tradersWorld := genesis_play (accounts_unassociated evenPrice) _
  -- a permission of theirs is at one of two addresses
  have hplaced : pdaOf p.seeds = some k := hattained.reachable.accounted.placed k _ hk
  have hseeds : p.seeds = [PERMISSION_SEED, controllerKey.bytes, a.pubkey.bytes] := by
    rw [Permission.seeds, hown, hauthority]
  have hsigners : ∀ a ∈ suspendTrader.accounts, a.isSigner = true →
      a.pubkey = payer ∨ a.pubkey = operator := by decide +kernel
  have hfound : ∀ authority, authority = payer ∨ authority = operator →
      ((pdaOf [PERMISSION_SEED, controllerKey.bytes, authority.bytes]).bind
        tradersWorld.keel).all (fun a => a.permission?.all fun p => ¬ p.mayManagePermissions) := by
    intro authority hwho
    rcases hwho with rfl | rfl
    · decide +kernel
    · decide +kernel
  have hnot := hfound a.pubkey (hsigners a ha hsigner)
  rw [← hseeds, hplaced, Option.bind_some, hk] at hnot
  exact absurd hmay (by simpa [KeelAccount.permission?] using hnot)

/-- The operator, who is no manager, suspends the trader: this is all that changes in the table,
    and nobody gains anything. -/
theorem no_privilege_escalation_example :
    (∃ k p, SuspendsOne tradersWorld (called tradersWorld suspendTrader) suspendTrader.accounts
      controllerKey k p) ∧
    (called tradersWorld suspendTrader).capabilities controllerKey ⊆
      tradersWorld.capabilities controllerKey := by
  have hc : tradersWorld.keel controllerKey =
      some (.controller (exampleController .Active)) := by decide +kernel
  have hmove : Moves tradersWorld _ (called tradersWorld suspendTrader) :=
    called_moves (by decide +kernel)
  obtain ⟨hstep, hrun⟩ := no_privilege_escalation hc
  refine ⟨?_, ?_⟩
  · rcases hstep _ _ _ _ hmove suspendTrader_unmanaged with hsame | hone
    · have hchanged : (called tradersWorld suspendTrader).permissionTable controllerKey
          (permissionKey trader) ≠ tradersWorld.permissionTable controllerKey
            (permissionKey trader) := by decide +kernel
      exact absurd (congrFun hsame _) hchanged
    · exact hone
  · apply hrun _ _ (.single hmove)
    intro step hstep tx accounts data hcall
    obtain ⟨rfl, rfl, -⟩ := called_mem hstep hcall
    dsimp only
    exact suspendTrader_unmanaged

end AlmController
