import AlmController.Spec.Accounted

/-!
# Who may change a setting

An instruction that changes a setting of an account is one that `MaySet` that account: the
instruction that manages accounts of its type, called by whom the account's controller, or the
oracle, knows. A run that changes a setting has such a step, and what this step logged tells the
change: an entry holds the account as it was before the step and as it is after it
(`ActedOpenly.tells`).
-/

namespace AlmController

open Prog

variable [Chain]

variable {tx : TxContext} {accounts : List AccountMeta} {data : List UInt8} {w w₁ w' : World}
  {es : List LogEntry} {k : Pubkey} {steps : List (Step World Move)}

/-- Somebody signed for this key. -/
def Signed (accounts : List AccountMeta) (k : Pubkey) : Prop :=
  ∃ signer ∈ accounts, signer.isSigner = true ∧ signer.pubkey = k

/-- **Who may change the settings of the account at `k`**, and how. -/
inductive MaySet (w : World) (accounts : List AccountMeta) (data : List UInt8) (k : Pubkey) :
    KeelAccount → Prop
  | controller {c : Controller} {status : ControllerStatus} :
      data = 2 :: Borsh.write (ManageControllerArgs.mk status) →
      Authorized w accounts k (·.maySetStatus status) → MaySet w accounts data k (.controller c)
  | permission {p : Permission} : data.head? = some 3 → Running w p.controller →
      (Authorized w accounts p.controller Permission.mayManagePermissions ∨
        Authorized w accounts p.controller Permission.maySuspendPermissions ∧
          ¬ p.mayManagePermissions) →
      MaySet w accounts data k (.permission p)
  | reserve {r : Reserve} : data.head? = some 5 → Running w r.controller →
      Authorized w accounts r.controller Permission.mayManageReservesAndIntegrations →
      MaySet w accounts data k (.reserve r)
  | integration {i : Integration} : data.head? = some 7 → Running w i.controller →
      Authorized w accounts i.controller Permission.mayManageReservesAndIntegrations →
      MaySet w accounts data k (.integration i)
  | oracle {o : Oracle} : data.head? = some 13 → Running w o.controller → Signed accounts o.authority →
      MaySet w accounts data k (.oracle o)

omit [Chain] in
theorem AccountsHold.signed {specs : List AccountSpec} (h : AccountsHold specs accounts w) {n : Nat}
    {spec : AccountSpec} {account : AccountMeta} (hspec : specs[n]? = some spec)
    (ha : accounts[n]? = some account) (hsigner : .signer ∈ spec.attrs) :
    Signed accounts account.pubkey :=
  ⟨account, List.mem_of_getElem? ha, h.isSigner hspec ha hsigner, rfl⟩

omit [Chain] in
theorem UpdateOracle.bind_authority {ctx : UpdateOracle} (h : UpdateOracle.bind accounts = some ctx) :
    accounts[2]? = some ctx.authority := by
  unfold bind at h
  split at h
  · obtain rfl := Option.some.inj h
    rfl
  · cases h

/-- An oracle's authority signs for its update. -/
theorem processUpdateOracle_signed {u : Unit} (h : processUpdateOracle accounts data w = .ok (u, w')) :
    ∃ k o, accounts[4]?.map AccountMeta.pubkey = some k ∧ w.keel k = some (.oracle o) ∧
      Signed accounts o.authority := by
  simp only [processUpdateOracle, bind_ok, fromAccounts_ok, parseArgs_ok, save_ok,
    Controller.rejectHalted_ok, and_assoc, exists_and_left, exists_eq_left', exists_const] at h
  obtain ⟨haccounts, ctx, hbind, args, -, c, _, hcl, -, -, o, _, hol, -⟩ := h
  obtain ⟨rfl, -⟩ := Controller.loadAndCheck_at hcl
  obtain ⟨rfl, ho, -, hauthority⟩ := Oracle.loadAndCheck_at hol
  refine ⟨ctx.oracle.pubkey, o, ?_, ho.keel, ?_⟩
  · rw [UpdateOracle.bind_eq hbind]
    rfl
  · rw [hauthority _ rfl]
    exact haccounts.signed rfl (UpdateOracle.bind_authority hbind) (.head _)

/-- **A call that changed a setting was made by who may.** -/
theorem Moves.maySet {a a' : KeelAccount} (h : Moves w (.call tx accounts data) w')
    (hk : w.keel k = some a) (hk' : w'.keel k = some a') (hset : a'.settings ≠ a.settings) :
    MaySet w accounts data k a := by
  obtain ⟨es, heffect⟩ := h.effect
  have hchange := heffect.changes k
  rw [hk, hk'] at hchange
  cases hchange with
  | same => exact absurd rfl hset
  | setStatus _ hdata _ _ _ hauthorized => exact .controller hdata hauthorized
  | lock _ hactive => exact absurd (Controller.settings_lock hactive) hset
  | unlock _ hlocked => exact absurd (Controller.settings_unlock hlocked) hset
  | managePermission _ hdata _ hrunning hauthorized =>
    exact .permission hdata hrunning (.inl hauthorized)
  | suspendPermission _ hdata _ hrunning hauthorized hnot =>
    exact .permission hdata hrunning (.inr ⟨hauthorized, hnot⟩)
  | manageReserve _ hdata _ hrunning hauthorized =>
    exact .reserve (congrArg List.head? hdata) hrunning hauthorized
  | bookReserve _ _ hbooked => exact absurd hbooked.settings_eq hset
  | swapReserve _ _ _ hbooked => exact absurd hbooked.settings_eq hset
  | manageIntegration _ hdata _ hrunning hauthorized =>
    exact .integration (congrArg List.head? hdata) hrunning hauthorized
  | bookIntegration _ _ _ hbooked => exact absurd hbooked.settings_eq hset
  | lendIntegration _ _ hbooked => exact absurd hbooked.settings_eq hset
  | repayIntegration _ _ _ hbooked => exact absurd hbooked.settings_eq hset
  | resetIntegration => exact absurd rfl hset
  | @updateOracle o _ args _ hdata hnamed hrunning =>
    refine .oracle (congrArg List.head? hdata) hrunning ?_
    cases h with
    | call _ hrun =>
      rw [hdata] at hrun
      have hrun' : processUpdateOracle accounts (Borsh.write args) w = .ok ((), w') := hrun
      obtain ⟨k', o', hnamed', ho', hsigned⟩ := processUpdateOracle_signed hrun'
      -- the oracle whose authority signed is the one that changed
      obtain rfl := Option.some.inj (hnamed.symm.trans hnamed')
      rw [hk] at ho'
      rw [KeelAccount.oracle.inj (Option.some.inj ho')]
      exact hsigned
  | refreshOracle => exact absurd rfl hset

/-- What a step that may set an account did is what a managing instruction does. -/
theorem MaySet.openly {a : KeelAccount} (hmay : MaySet w accounts data k a)
    (h : Moves w (.call tx accounts data) w') : ActedOpenly accounts w w' := by
  cases h with
  | call _ hrun =>
    -- the first byte of the data says which instruction it was
    cases hmay with
    | controller hdata =>
      rw [hdata] at hrun
      have hmanage : processManageController accounts _ w = .ok ((), w') := hrun
      exact processManageController_openly hmanage
    | permission hdata =>
      obtain ⟨args, rfl⟩ := List.head?_eq_some_iff.mp hdata
      have hmanage : processManagePermission accounts args w = .ok ((), w') := hrun
      exact processManagePermission_openly hmanage
    | reserve hdata =>
      obtain ⟨args, rfl⟩ := List.head?_eq_some_iff.mp hdata
      have hmanage : processManageReserve accounts args w = .ok ((), w') := hrun
      exact processManageReserve_openly hmanage
    | integration hdata =>
      obtain ⟨args, rfl⟩ := List.head?_eq_some_iff.mp hdata
      have hmanage : processManageIntegration accounts args w = .ok ((), w') := hrun
      exact processManageIntegration_openly hmanage
    | oracle hdata =>
      obtain ⟨args, rfl⟩ := List.head?_eq_some_iff.mp hdata
      have hupdate : processUpdateOracle accounts args w = .ok ((), w') := hrun
      exact processUpdateOracle_openly hupdate

/-- An entry tells that the account at `k` was this before, and is that now. -/
def LogEntry.TellsOf (k : Pubkey) (old new : Option KeelAccount) (e : LogEntry) : Prop :=
  e.update? = some ⟨k, old, new⟩

/-- Somebody is told of an account whose settings changed. -/
theorem Deed.update_mem {ck : Pubkey} (h : Deed ck w w' es)
    (hset : w'.settings k ≠ w.settings k) :
    ∃ e ∈ es, ∃ u, e.update? = some u ∧ u.key = k := by
  by_contra hnone
  apply hset
  rw [← h.covers.replayed]
  apply replay_of_forall_ne
  intro u hu hkey
  obtain ⟨e, he, hmap⟩ := List.mem_filterMap.mp hu
  obtain ⟨u', hu', rfl⟩ := Option.map_eq_some_iff.mp hmap
  exact hnone ⟨e, he, u', hu', hkey⟩

/-- **A managing instruction that changed a setting tells it**: an entry holds the account as it
    was and as it is. -/
theorem ActedOpenly.tells (h : ActedOpenly accounts w w') (hset : w'.settings k ≠ w.settings k) :
    ∃ es, w'.log = w.log ++ es ∧ ∃ e ∈ es, e.TellsOf k (w.keel k) (w'.keel k) := by
  obtain ⟨ck, -, es, hdeed, hexact⟩ := h
  obtain ⟨e, he, u, hu, hkey⟩ := hdeed.update_mem hset
  refine ⟨es, hdeed.log, e, he, ?_⟩
  rw [LogEntry.TellsOf, hu, hexact e he u hu, hkey]

/-- **In a run that changed a setting, a step of it did.** -/
theorem Moves.settings_run {a : KeelAccount} (h : Trace Moves w steps w') (hw : Reachable w)
    (hk : w.keel k = some a) (hset : w'.settings k ≠ some a.settings) :
    ∃ s ∈ steps, Reachable s.before ∧ Moves s.before s.move s.after ∧
      (∃ a₁, s.before.keel k = some a₁ ∧ a.Same a₁) ∧ s.after.settings k ≠ s.before.settings k := by
  induction h generalizing a with
  | @nil w =>
    refine absurd ?_ hset
    unfold World.settings
    rw [hk]
    rfl
  | @cons w w₁ w' m steps hstep hrest ih =>
    have hsettings : w.settings k = some a.settings := by
      unfold World.settings
      rw [hk]
      rfl
    by_cases hchanged : w₁.settings k = w.settings k
    · obtain ⟨es, htold⟩ := hstep.told hw
      obtain ⟨a₁, hk₁, hsame⟩ := htold.retains hk
      have hsettings₁ : some a₁.settings = w₁.settings k := by
        unfold World.settings
        rw [hk₁]
        rfl
      rw [← hsettings, ← hchanged, ← hsettings₁] at hset
      obtain ⟨s, hs, hreach, hmove, ⟨a₂, hk₂, hsame₂⟩, hdiff⟩ :=
        ih (hw.trace (.single hstep)) hk₁ hset
      exact ⟨s, List.mem_cons_of_mem _ hs, hreach, hmove, ⟨a₂, hk₂, hsame.trans hsame₂⟩, hdiff⟩
    · exact ⟨_, List.mem_cons_self, hw, hstep, ⟨a, hk, .refl⟩, hchanged⟩

end AlmController
