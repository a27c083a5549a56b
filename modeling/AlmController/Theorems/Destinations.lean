import AlmController.Simulator
import AlmController.Spec.Accounted

/-!
# Where the funds go, and what the log says

The log of a state that was reached holds every invocation that a controller signed, and every
event. The first went where a configuration of that controller says; the second tell of accounts
of the controller that they name. Both are said of the accounts as they are now, long after the
entry was written, since accounts do not become other accounts.

`signed_calls_configured` is about where funds go, not about who asked: the log does not say who
signed a transaction. Only where a payment goes to the caller, which is a push over LayerZero, does
it say that this is somebody with a permission of the controller. Nor does it bind the borrower of
a swap, who may take the loan to any account and has to return it in the same transaction.
`events_tell_truth` says what an event that was logged is about; that nothing goes untold is the
subject of the audit trail and of the ledgers.
-/

namespace AlmController

open Prog

variable [Chain]

variable {w w' : World} {ck k : Pubkey} {steps : List (Step World Move)}

/-- **Funds go only where a configuration says.** An invocation that a controller signed, and that
    may move tokens, obeys the configuration of an integration of that controller (`Cpi.Obeys`),
    with the vault of one of its reserves on its side. The exception is the harvest of a farm's
    rewards, which no vault takes part in: it is for the obligation configured, and into the token
    account of the authority. -/
theorem signed_calls_configured (h : Reachable w) {call : Cpi}
    (hmem : .cpi call (some ck) ∈ w.log) (hloud : call.isQuiet = false) :
    call.Configured w ck := by
  obtain ⟨ck', hauthentic⟩ := h.accounted.authentic _ hmem
  cases hauthentic with
  | signed _ hconfigured => exact hconfigured hloud

/-- An accounting event names one account, which is there, and the mint of its reserve. -/
structure AccountingEvent.TellsTruth (w : World) (e : AccountingEvent) : Prop where
  one : e.reserve = none ↔ e.integration ≠ none
  reserve : ∀ k, e.reserve = some k → ∃ r, w.keel k = some (.reserve r) ∧
    r.controller = e.controller ∧ (TokenLaws → e.mint = r.mint)
  integration : ∀ k, e.integration = some k →
    ∃ i, w.keel k = some (.integration i) ∧ i.controller = e.controller

/-- An update leaves an account of the controller named, and it is still that account. -/
def SvmAlmControllerEvent.UpdatesOwn (w : World) (e : SvmAlmControllerEvent)
    (u : Update Pubkey KeelAccount) : Prop :=
  ∃ new a, u.new = some new ∧ w.keel u.key = some a ∧ new.Same a ∧
    a.controllerAt u.key = e.controller

/-- **The log tells no lies.** Its accounting events name accounts of their controller and the
    mint of their reserve, its update events tell of accounts of their controller, and nobody
    outside can have an event of their own told. -/
theorem events_tell_truth (h : Reachable w) :
    (∀ e, .event (.AccountingEvent e) ∈ w.log → e.TellsTruth w) ∧
    (∀ e u, .event e ∈ w.log → e.update? = some u → e.UpdatesOwn w u) ∧
    ∀ tx accounts data w', ¬ Moves w (.call tx accounts (0 :: data)) w' := by
  refine ⟨?_, ?_, ?_⟩
  · intro e hmem
    -- every entry of the log is authentic, and what that means depends on the kind of event
    obtain ⟨ck, hauthentic⟩ := h.accounted.authentic _ hmem
    cases hauthentic with
    | integration hk hck =>
      refine ⟨⟨fun _ => Option.some_ne_none _, fun _ => rfl⟩, ?_, ?_⟩
      · intro k' hk'
        cases hk'
      · intro k' hk'
        obtain rfl := Option.some.inj hk'
        exact ⟨_, hk, hck⟩
    | reserve hk hck hmint =>
      refine ⟨⟨fun hnone => absurd hnone (Option.some_ne_none _), fun hne => absurd rfl hne⟩, ?_, ?_⟩
      · intro k' hk'
        obtain rfl := Option.some.inj hk'
        exact ⟨_, hk, hck, hmint⟩
      · intro k' hk'
        cases hk'
    | update he => cases he
  · intro e u hmem hu
    obtain ⟨ck, hauthentic⟩ := h.accounted.authentic _ hmem
    cases hauthentic with
    | integration => cases hu
    | reserve => cases hu
    | update he hck hnew hsame hk hown =>
      rw [hu] at he
      obtain rfl := Option.some.inj he
      exact ⟨_, _, hnew, hk, hsame, hown.trans hck.symm⟩
  · intro tx accounts data w' hmove
    cases hmove with
    | call hsigners hrun =>
      -- EmitEvent needs the signature of an authority, which nobody outside has
      have hrun' : processEmitEvent accounts data w = .ok ((), w') := hrun
      exact processEmitEvent_effect hsigners hrun'

/-- **Accounts keep their identity, and nothing else can take it.** An account is at the address
    that its identity derives, stays there through every run as the same account, and no other
    account ever has that identity. -/
theorem accounts_keep_identity {a : KeelAccount} (hw : Reachable w) (h : Trace Moves w steps w')
    (hk : w.keel k = some a) :
    a.address = some k ∧ (∃ a', w'.keel k = some a' ∧ a.Same a') ∧
      ∀ k' a', w'.keel k' = some a' → a.Same a' → k' = k := by
  have haddress := hw.accounted.placed k a hk
  obtain ⟨es, htold⟩ := Moves.told_run h hw
  refine ⟨haddress, htold.retains hk, ?_⟩
  intro k' a' hk' hsame
  have hplaced := (hw.trace h).accounted.placed k' a' hk'
  rw [hsame.address_eq, haddress] at hplaced
  exact (Option.some.inj hplaced).symm

end AlmController

namespace AlmController

open Simulator

/-- The tokens lent in the example went out of the vault of a reserve of its controller. -/
theorem signed_calls_configured_borrow :
    Cpi.Configured (lent (swapWorld evenPrice) 100) controllerKey (.transferChecked
      ⟨vaultKey mintA, mintA, traderA, authorityKey, 100, 6, TOKEN_PROGRAM_ID⟩) := by
  have hmove : Moves (swapWorld evenPrice) _ _ :=
    @borrowStep_moves (swapWorld evenPrice) 100 (by decide +kernel)
  exact signed_calls_configured (swapWorld_attained.reachable.trace (.single hmove))
    (by decide +kernel) rfl

/-- The first event of the example tells of its controller. -/
theorem events_tell_truth_example :
    SvmAlmControllerEvent.UpdatesOwn (swapWorld evenPrice)
      (.ControllerUpdate ⟨KEEL_DEPLOYER_MSIG, controllerKey, controllerKey, none,
        some (exampleController .Active)⟩)
      ⟨controllerKey, none, some (.controller (exampleController .Active))⟩ :=
  (events_tell_truth swapWorld_attained.reachable).2.1 _ _ (by decide +kernel) rfl

/-- The controller of the example is still there after the Borrow. -/
theorem accounts_keep_identity_borrow :
    ∃ a, (lent (swapWorld evenPrice) 100).keel controllerKey = some a ∧
      (KeelAccount.controller (exampleController .Active)).Same a := by
  have hmove : Moves (swapWorld evenPrice) _ _ :=
    @borrowStep_moves (swapWorld evenPrice) 100 (by decide +kernel)
  exact (accounts_keep_identity swapWorld_attained.reachable (.single hmove)
    swapWorld_controller).2.1

end AlmController
