import AlmController.Simulator
import AlmController.Spec.Sound

/-!
# A controller is never orphaned

Whoever manages the permissions of a controller may change every one of them, its own
included, but not take the power to manage away from itself; and whoever may only suspend
cannot suspend a manager. So the permission that signs for a change is still a manager
after it, and one manager always remains.

`never_orphaned` is an invariant of all states that moves lead to, in the middle of transactions as
well. The work is in one step of it (`Effect.manager`): whichever instruction changes a permission
of the controller, there is a manager after it. What this does not promise is that the manager
can still sign. A key that is lost is lost; and a manager may make a manager of an address that
nobody has a key for, though never of its own permission anything less.
-/

namespace AlmController

open Prog

variable [Chain]

variable {tx : TxContext} {accounts : List AccountMeta} {data : List UInt8} {w w' : World}
  {es : List LogEntry} {k ck : Pubkey}

/-- The permission at `k` is one of controller `ck`, and may manage its permissions. -/
def ManagerAt (w : World) (ck k : Pubkey) : Prop :=
  ∃ p, w.keel k = some (.permission p) ∧ p.controller = ck ∧ p.mayManagePermissions

/-- Every controller has a manager. -/
def Managed (w : World) : Prop :=
  ∀ ⦃ck c⦄, w.keel ck = some (.controller c) → ∃ k, ManagerAt w ck k

/-- A permission that the instruction did not name stays as it is. -/
theorem Effect.permission_of_not_named (h : Effect tx accounts data w w' es) {p : Permission}
    (hk : w.keel k = some (.permission p)) (hnamed : accounts[6]?.map AccountMeta.pubkey ≠ some k) :
    w'.keel k = some (.permission p) := by
  have hchange := h.changes k
  rw [hk] at hchange
  generalize hnew : w'.keel k = new at hchange
  cases hchange with
  | same => rfl
  | managePermission _ _ hat => exact absurd hat hnamed
  | suspendPermission _ _ hat => exact absurd hat hnamed

/-- **One instruction leaves every controller that had a manager with one.** -/
theorem Effect.manager (h : Effect tx accounts data w w' es) (hk : ManagerAt w ck k) :
    ∃ k, ManagerAt w' ck k := by
  obtain ⟨p, hkeel, hcontroller, hmanages⟩ := hk
  have hchange := h.changes k
  rw [hkeel] at hchange
  generalize hnew : w'.keel k = new at hchange
  cases hchange with
  | same => exact ⟨k, p, hnew, hcontroller, hmanages⟩
  -- a manager cannot be suspended
  | suspendPermission _ _ _ _ _ hnot => exact absurd hmanages hnot
  | @managePermission _ p' sp ksp _ _ hnamed _ _ hsp hspc hspm hself hcontroller' _ =>
    by_cases hksp : ksp = k
    · -- the signer's own permission keeps the power
      exact ⟨k, p', hnew, hcontroller'.trans hcontroller, hself hksp⟩
    · -- another one was changed, and the signer's is still there
      refine ⟨ksp, sp, h.permission_of_not_named hsp ?_, hspc.trans hcontroller, hspm⟩
      rw [hnamed]
      intro heq
      exact hksp (Option.some.inj heq).symm

/-- **One step** keeps every controller managed. -/
theorem Managed.step (hm : Managed w) (h : Effect tx accounts data w w' es) : Managed w' := by
  intro ck c hc
  have hchange := h.changes ck
  rw [hc] at hchange
  have hkept : ∀ {c₀}, w.keel ck = some (.controller c₀) → ∃ k, ManagerAt w' ck k := by
    intro c₀ hc₀
    obtain ⟨k, hk⟩ := hm hc₀
    exact h.manager hk
  generalize hold : w.keel ck = old at hchange
  -- a new controller comes with a manager, and the others were there before
  cases hchange with
  | same => exact hkept hold
  | newController _ _ _ _ hfirst => exact hfirst
  | setStatus => exact hkept hold
  | lock => exact hkept hold
  | unlock => exact hkept hold

/-- What others do changes no permission. -/
theorem Managed.move {m : Move} (hm : Managed w) (h : Moves w m w') : Managed w' := by
  rcases h.cases with ⟨tx, accounts, data, es, -, heffect⟩ | ⟨-, hsame⟩
  · exact hm.step heffect
  · unfold Managed ManagerAt at hm ⊢
    rw [hsame.keel]
    exact hm

/-- **A controller can never be orphaned**: in every state that any moves lead to, every
    controller has an Active permission that may manage permissions. -/
theorem never_orphaned (h : Reachable w) {c : Controller} (hc : w.keel ck = some (.controller c)) :
    ∃ k p, w.keel k = some (.permission p) ∧ p.controller = ck ∧ p.status = .Active ∧
      p.canManagePermissions = true := by
  obtain ⟨w₀, steps, hgenesis, htrace⟩ := h
  have hstart : Managed w₀ := by
    intro ck c hc
    rw [hgenesis.keel] at hc
    cases hc
  obtain ⟨k, p, hk, hcontroller, hstatus, hmanages⟩ :=
    htrace.invariant (fun hm hstep => hm.move hstep) hstart hc
  exact ⟨k, p, hk, hcontroller, hstatus, hmanages⟩

end AlmController

namespace AlmController

open Simulator

/-- In the state of the examples this is the one who deployed the controller. -/
theorem never_orphaned_example :
    ∃ k p, (swapWorld evenPrice).keel k = some (.permission p) ∧ p.controller = controllerKey ∧
      p.status = .Active ∧ p.canManagePermissions = true :=
  never_orphaned swapWorld_attained.reachable swapWorld_controller

end AlmController
