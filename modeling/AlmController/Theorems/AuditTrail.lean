import AlmController.Simulator
import AlmController.Spec.Settings

/-!
# The log is an audit trail

Every setting was set by an instruction that told of it. So whoever reads the log, and nothing
else, knows all accounts and their settings; and whoever finds a setting changed finds the step
that changed it, who signed for it, and the event in which it is told.

The settings of an account are what an instruction may set: its status, its powers, its limits, its
feed. What the program keeps up to date by itself is left out, and is the subject of other
theorems: balances, what the limiters let out at the moment, prices, and the state of a swap or a
bridge transfer in flight. Tokens and the accounts of other programs leave no such trail.

`settings_replayed` is the first half and about one state. `settings_change_authorized` is the
second, and about an account that was there when the run began; one that the run creates is in
the journal as well.
-/

namespace AlmController

open Prog

variable [Chain]

variable {w w' : World} {k : Pubkey} {steps : List (Step World Move)}

/-- **The log rebuilds the settings.** Replayed from nothing, the updates that the events tell
    give the settings of all accounts, and each of them says what the ones before it left. -/
theorem settings_replayed (h : Reachable w) :
    Truthful (fun _ => none) (journal w.log) ∧
      replay (fun _ => none) (journal w.log) = w.settings :=
  ⟨h.accounted.covers.truthful, h.accounted.covers.replayed⟩

/-- **No setting changes by itself.** When the settings of an account differ after a run, a call
    of the run changed them, it was made by who may, and one of its own log entries holds the
    account as it was before this call and as it is after it. -/
theorem settings_change_authorized {a : KeelAccount} (hw : Reachable w)
    (h : Trace Moves w steps w') (hk : w.keel k = some a)
    (hset : w'.settings k ≠ some a.settings) :
    ∃ s ∈ steps, ∃ tx accounts data a₁ es, s.move = .call tx accounts data ∧
      s.before.keel k = some a₁ ∧ a.Same a₁ ∧ MaySet s.before accounts data k a₁ ∧
      s.after.settings k ≠ s.before.settings k ∧ s.after.log = s.before.log ++ es ∧
      ∃ e ∈ es, e.TellsOf k (s.before.keel k) (s.after.keel k) := by
  -- one step of the run is the one that changed them
  obtain ⟨s, hs, hreach, hmove, ⟨a₁, hk₁, hsame⟩, hdiff⟩ := Moves.settings_run h hw hk hset
  obtain ⟨_, htold⟩ := hmove.told hreach
  obtain ⟨a₂, hk₂, -⟩ := htold.retains hk₁
  have hne : a₂.settings ≠ a₁.settings := by
    intro heq
    apply hdiff
    unfold World.settings
    rw [hk₁, hk₂]
    exact congrArg some heq
  -- only a call could have changed it
  rcases hmove.cases with ⟨tx, accounts, data, -, hcall, -⟩ | ⟨-, hkept⟩
  · rw [hcall] at hmove
    have hmay : MaySet s.before accounts data k a₁ := hmove.maySet hk₁ hk₂ hne
    obtain ⟨es, hlog, htells⟩ := (hmay.openly hmove).tells hdiff
    exact ⟨s, hs, tx, accounts, data, a₁, es, hcall, hk₁, hsame, hmay, hdiff, hlog, htells⟩
  · exact absurd (congrFun (World.settings_congr hkept.keel) k) hdiff

end AlmController

namespace AlmController

open Simulator

/-- The log of the example tells of its controller. -/
theorem settings_replayed_example :
    replay (fun _ => none) (journal (swapWorld evenPrice).log) controllerKey =
      some (.controller (exampleController .Active)) := by
  rw [(settings_replayed swapWorld_attained.reachable).2]
  unfold World.settings
  rw [swapWorld_controller]
  rfl

/-- The operator changes the limits of a reserve: it may, and the log tells. -/
theorem settings_change_authorized_example :
    ∃ a es, (KeelAccount.reserve swapReserve).Same a ∧
      MaySet (swapWorld evenPrice) (manageReserve mintA 5 7).accounts
        (manageReserve mintA 5 7).data (reserveKey mintA) a ∧
      (called (swapWorld evenPrice) (manageReserve mintA 5 7)).log =
        (swapWorld evenPrice).log ++ es ∧
      ∃ e ∈ es, e.TellsOf (reserveKey mintA) ((swapWorld evenPrice).keel (reserveKey mintA))
        ((called (swapWorld evenPrice) (manageReserve mintA 5 7)).keel (reserveKey mintA)) := by
  have hmove : Moves (swapWorld evenPrice) _
      (called (swapWorld evenPrice) (manageReserve mintA 5 7)) := called_moves (by decide +kernel)
  obtain ⟨s, hs, tx, accounts, data, a, es, hcall, -, hsame, hmay, -, hlog, htells⟩ :=
    settings_change_authorized swapWorld_attained.reachable (.single hmove) swapWorld_reserve
      (by decide +kernel)
  obtain ⟨rfl, rfl, rfl⟩ := called_mem hs hcall
  simp only at hmay hlog htells
  exact ⟨a, es, hsame, hmay, hlog, htells⟩

end AlmController
