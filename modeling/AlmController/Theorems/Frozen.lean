import AlmController.Simulator
import AlmController.Spec.Holdings
import AlmController.Theorems.LzProtocol

/-!
# Frozen means frozen

Whatever changes an account of a controller needs the controller to run, with three
exceptions: ManageController, which leads out of Frozen to Active only; RefreshOracle,
which changes a value and a slot; and ResetLzPushInFlight, which clears a flag that is
clear already, since nothing is in flight between transactions.

`frozen_means_frozen` starts between transactions, because of the third: in the middle of a bridge
transfer the flag may be set, and a Reset clears it whatever the status. The run may do anything
else, call any instruction with any accounts, and let other programs do what they do. What it
does not promise is the tokens: a delegate of the mint takes them from a frozen controller as from
any other. No signature of the authority helps it.
-/

namespace AlmController

open Prog

variable [Chain]

variable {tx : TxContext} {accounts : List AccountMeta} {data : List UInt8}
  {w w' w'' : World} {es : List LogEntry} {k ck : Pubkey} {c : Controller}
  {old new : Option KeelAccount} {steps : List (Step World Move)}

/-! ## One instruction -/

/-- The instruction makes the controller at `ck` Active. -/
def SetsActive (ck : Pubkey) (accounts : List AccountMeta) (data : List UInt8) : Prop :=
  data = 2 :: Borsh.write (ManageControllerArgs.mk .Active) ∧
    accounts[0]?.map AccountMeta.pubkey = some ck

/-- The controller at `ck` is Frozen. -/
def FrozenAt (w : World) (ck : Pubkey) : Prop :=
  ∃ c, w.keel ck = some (.controller c) ∧ c.isFrozen

omit [Chain] in
theorem FrozenAt.unique (h : FrozenAt w ck) (hc : w.keel ck = some (.controller c)) :
    c.isFrozen := by
  obtain ⟨c', hc', hfrozen⟩ := h
  rw [hc] at hc'
  obtain rfl := KeelAccount.controller.inj (Option.some.inj hc')
  exact hfrozen

omit [Chain] in
theorem FrozenAt.exists (h : FrozenAt w ck) : ∃ c, w.keel ck = some (.controller c) := by
  obtain ⟨c, hc, -⟩ := h
  exact ⟨c, hc⟩

omit [Chain] in
theorem FrozenAt.not_running (h : FrozenAt w ck) : ¬ Running w ck := by
  rintro ⟨c, hc, hnot, -⟩
  exact hnot (h.unique hc)

omit [Chain] in
theorem FrozenAt.not_active (h : FrozenAt w ck) (hc : w.keel ck = some (.controller c)) :
    ¬ c.isActive := by
  intro hactive
  have hfrozen := h.unique hc
  rw [Controller.isFrozen, hactive] at hfrozen
  cases hfrozen

omit [Chain] in
theorem FrozenAt.not_locked (h : FrozenAt w ck) (hc : w.keel ck = some (.controller c)) :
    ¬ c.isAtomicSwapLocked := by
  intro hlocked
  have hfrozen := h.unique hc
  rw [Controller.isFrozen, hlocked] at hfrozen
  cases hfrozen

/-- **The only way out of Frozen** is ManageController to Active. -/
theorem Effect.frozen_exit (h : Effect tx accounts data w w' es) (hfrozen : FrozenAt w ck)
    (hne : w'.keel ck ≠ w.keel ck) :
    SetsActive ck accounts data ∧ Authorized w accounts ck Permission.mayUnfreezeController := by
  obtain ⟨c, hc, hstatus⟩ := hfrozen
  have hchange := h.changes ck
  rw [hc] at hchange hne
  generalize hnew : w'.keel ck = new at hchange hne
  cases hchange with
  | same => exact absurd rfl hne
  | @setStatus _ status _ hdata hnamed _ hout hauthorized =>
    obtain rfl := hout hstatus
    exact ⟨⟨hdata, hnamed⟩, hauthorized⟩
  | lock _ hactive => exact absurd hactive (FrozenAt.not_active ⟨c, hc, hstatus⟩ hc)
  | unlock _ hlocked => exact absurd hlocked (FrozenAt.not_locked ⟨c, hc, hstatus⟩ hc)

omit [Chain] in
/-- No swap is begun or ended on a frozen controller. -/
theorem FrozenAt.not_turnsLock (h : FrozenAt w ck) : ¬ TurnsLock data w w' ck := by
  intro hturns
  cases hturns with
  | locks _ hc hactive => exact h.not_active hc hactive
  | unlocks _ hc hlocked => exact h.not_locked hc hlocked

/-- **One instruction while frozen.** -/
theorem Effect.frozen (h : Effect tx accounts data w w' es) (hfrozen : FrozenAt w ck)
    (hstays : ¬ SetsActive ck accounts data)
    (hidle : ∀ k i state, w.keel k = some (.integration i) → i.controller = ck →
      i.state = .LzBridge state → state.pushInFlight = false) : SameHoldings ck w w' := by
  refine h.holdings ?_ hfrozen.exists hfrozen.not_running hfrozen.not_turnsLock fun _ => hidle
  by_contra hne
  exact hstays (h.frozen_exit hfrozen hne).1

/-! ## Runs -/

/-- The step makes the controller at `ck` Active. -/
def Unfreezes (ck : Pubkey) (step : Step World Move) : Prop :=
  ∃ tx accounts data, step.move = .call tx accounts data ∧ SetsActive ck accounts data

/-- Through a run, holdings stay and nobody signs for the controller. -/
structure Untouched (ck : Pubkey) (w w' : World) : Prop where
  holdings : SameHoldings ck w w'
  unsigned : ∃ es, w'.log = w.log ++ es ∧ ∀ call, (call, ck) ∉ signedCalls es

/-- **One step** of such a run. -/
theorem Untouched.move {m : Move} (hu : Untouched ck w w') (hfrozen : FrozenAt w ck)
    (hidle : LzIdle w) (h : Moves w' m w'') (hstays : ¬ Unfreezes ck ⟨w', m, w''⟩) :
    Untouched ck w w'' := by
  obtain ⟨hholdings, es, hlog, hunsigned⟩ := hu
  rcases h.cases with ⟨tx, accounts, data, es', rfl, heffect⟩ | ⟨-, hsame⟩
  · have hfrozen' : FrozenAt w' ck := by
      obtain ⟨c, hc, hstatus⟩ := hfrozen
      exact ⟨c, hholdings.controller.trans hc, hstatus⟩
    refine ⟨hholdings.trans (heffect.frozen hfrozen' (fun hset => hstays ⟨_, _, _, rfl, hset⟩) ?_),
      es ++ es', ?_, ?_⟩
    -- nothing is in flight: what there is was there at the start, between transactions
    · intro k i state hk hown hstate
      have hold := hholdings.account k (.inr (by rw [hk]; exact congrArg some hown))
      exact hidle (hold.symm.trans hk) hstate
    · rw [heffect.log, hlog, List.append_assoc]
    -- whoever signs is a controller that runs
    · intro call hmem
      rw [signedCalls_append] at hmem
      rcases List.mem_append.mp hmem with hmem | hmem
      · exact hunsigned call hmem
      · exact hfrozen'.not_running (heffect.signers hmem)
  · exact ⟨hholdings.trans (.of_keel hsame.keel), es, hsame.log.trans hlog, hunsigned⟩

/-- **Frozen means frozen.** From a state between transactions in which the controller is
    Frozen, through any run in which ManageController does not make it Active: it, its
    permissions, reserves and integrations are unchanged, its oracles at most refreshed,
    and its authority signed nothing. And nothing else leads out of Frozen, nor anyone
    without the power to unfreeze. -/
theorem frozen_means_frozen (h : Committed w) (hc : w.keel ck = some (.controller c))
    (hfrozen : c.status = .Frozen) :
    (∀ steps w', Trace Moves w steps w' → (∀ step ∈ steps, ¬ Unfreezes ck step) →
      Untouched ck w w') ∧
    (∀ w₁ tx accounts data w₂, FrozenAt w₁ ck → Moves w₁ (.call tx accounts data) w₂ →
      w₂.keel ck ≠ w₁.keel ck → SetsActive ck accounts data ∧
        Authorized w₁ accounts ck Permission.mayUnfreezeController) := by
  have hat : FrozenAt w ck := ⟨c, hc, hfrozen⟩
  refine ⟨?_, ?_⟩
  · intro steps w' htrace hstays
    -- the invariant is about the state where the run began, so it stays frozen by itself
    refine (htrace.restrict hstays).invariant (I := Untouched ck w) ?_ ?_
    · exact fun hu ⟨hmove, hstay⟩ => hu.move hat h.lzIdle hmove hstay
    · exact ⟨.refl, [], (List.append_nil _).symm, fun _ => List.not_mem_nil⟩
  · intro w₁ tx accounts data w₂ hat hmove hne
    obtain ⟨es, heffect⟩ := hmove.effect
    exact heffect.frozen_exit hat hne

end AlmController

namespace AlmController

open Simulator

/-- The operator sets the status of the controller. -/
def manageController (status : ControllerStatus) : Instruction :=
  instruction 2
    [plain controllerKey, plain authorityKey, signing operator, plain (permissionKey operator),
      plain ID]
    (Borsh.write (ManageControllerArgs.mk status))

def frozenWorld : World :=
  (genesis (accounts evenPrice)).play (setup ++ [.submit [manageController .Frozen] (by decide)])

theorem frozenWorld_controller : frozenWorld.keel controllerKey =
    some (.controller (exampleController .Frozen)) := by decide +kernel

/-- While it is frozen time passes, somebody gives its first reserve seven tokens, and its oracle
    is refreshed. -/
def meanwhile : List Happening :=
  [.wait ⟨200, 2000⟩, .transfer (transfer traderA (vaultKey mintA) mintA trader 7),
    .submit [refreshOracle] (by decide)]

/-- All that leaves it untouched; and when the operator makes it Active, he has the power to. -/
theorem frozen_means_frozen_example :
    (Untouched controllerKey frozenWorld (frozenWorld.play meanwhile) ∧
      (frozenWorld.play meanwhile).bank.tokenAmount (vaultKey mintA) = 507) ∧
    Moves frozenWorld (.call (alone (manageController .Active)) (manageController .Active).accounts
        (manageController .Active).data) (called frozenWorld (manageController .Active)) ∧
      Authorized frozenWorld (manageController .Active).accounts controllerKey
        Permission.mayUnfreezeController := by
  have hattained : Attained frozenWorld := genesis_play (accounts_unassociated evenPrice) _
  obtain ⟨huntouched, hexit⟩ :=
    frozen_means_frozen hattained.committed frozenWorld_controller rfl
  refine ⟨⟨?_, by decide +kernel⟩, ?_⟩
  · obtain ⟨steps, hrun, hhistoric⟩ := World.play_run tokenLaws hattained meanwhile
    apply huntouched steps _ hrun.trace
    intro s hs hunfreezes
    obtain ⟨tx, accounts, data, hmove, hdata, -⟩ := hunfreezes
    obtain ⟨ix, hix, -, hcalled⟩ := (hhistoric s hs).calls _ _ _ hmove
    -- the only instruction is a RefreshOracle
    obtain rfl : ix = refreshOracle := List.mem_singleton.mp hix
    rw [hdata] at hcalled
    exact absurd (congrArg List.head? hcalled) (by decide)
  · have hmove : Moves frozenWorld _ (called frozenWorld (manageController .Active)) :=
      called_moves (by decide +kernel)
    have hat : FrozenAt frozenWorld controllerKey := ⟨_, frozenWorld_controller, rfl⟩
    exact ⟨hmove, (hexit _ _ _ _ _ hat hmove (by decide +kernel)).2⟩

end AlmController
