import AlmController.Simulator
import AlmController.Spec.Accounted

/-!
# Every integration is configured for its controller

What InitializeIntegration checked is true of every integration in every state that was reached.
Only that instruction makes one, as a deed that founds it; nothing changes a configuration or the
controller it belongs to, the controller keeps its authority, and an oracle its mints.

So whoever uses an integration may rely on it without a look at the accounts of its creation. A
swap is priced by an oracle of the same controller, for the two tokens that are exchanged and in
the direction that the configuration says. An external transfer goes to an account of the recipient.

`integrations_well_configured` is an invariant of the states that were reached, for all six
protocols. It compares a configuration with what the program derives and records, and with nothing
else: that an account of another program is what its address promises, a mint or a market, is not
kept by this program, and is not claimed.
-/

namespace AlmController

open Prog

variable [Chain]

variable {w w' : World} {k : Pubkey} {i : Integration} {m : Move}

/-- All integrations are configured for their controllers. -/
def AllConfigured (w : World) : Prop :=
  ∀ ⦃k i⦄, w.keel k = some (.integration i) → i.WellConfigured w

/-- A deed leaves those that were there what they were, and founds others only as they should be. -/
theorem Deed.allConfigured {ck : Pubkey} {es : List LogEntry} (h : Deed ck w w' es)
    (hw : AllConfigured w) : AllConfigured w' := by
  intro k i hk
  cases hold : w.keel k with
  | none => exact h.founds hold hk
  | some a =>
    obtain ⟨a', ha', hsame⟩ := h.retains hold
    rw [hk] at ha'
    obtain rfl := Option.some.inj ha'
    cases hsame with
    | integration hsame => exact (hw hold).mono hsame h.retains

/-- So does every move. -/
theorem Moves.allConfigured (hreachable : Reachable w) (h : Moves w m w')
    (hw : AllConfigured w) : AllConfigured w' := by
  rcases h.deed hreachable with ⟨ck, es, hdeed⟩ | hsame
  · exact hdeed.allConfigured hw
  · intro k i hk
    rw [hsame.keel] at hk
    exact (hw hk).mono .refl (.of_eq hsame.keel)

/-- **An integration is configured for its controller**, in every state that was reached: what its
    configuration names is what the program derives for the authority of that controller, and a
    swap has an oracle of the controller that quotes its two different tokens. -/
theorem integrations_well_configured (h : Reachable w) (hi : w.keel k = some (.integration i)) :
    i.WellConfigured w := by
  obtain ⟨w₀, steps, hgenesis, htrace⟩ := h
  have hstart : AllConfigured w₀ := by
    intro k i hk
    rw [hgenesis.keel k] at hk
    cases hk
  -- that the states on the way were reached is part of the invariant, as a deed needs it
  have hrun : Reachable w ∧ AllConfigured w := by
    refine htrace.invariant (I := fun w => Reachable w ∧ AllConfigured w) ?_
      ⟨⟨w₀, [], hgenesis, .nil⟩, hstart⟩
    intro s m s' hs hmove
    exact ⟨hs.1.trace (.single hmove), hmove.allConfigured hs.1 hs.2⟩
  exact hrun.2 hi

end AlmController

namespace AlmController

open Simulator

/-- The oracle of the example's swap quotes the first token in the second. -/
theorem integrations_well_configured_example :
    ∃ o, (swapWorld evenPrice).keel swapConfig.oracle = some (.oracle o) ∧
      o.controller = controllerKey ∧ o.baseMint = mintA ∧ o.quoteMint = mintB := by
  have hi : (swapWorld evenPrice).keel swapKey = some (.integration swapIntegration) := by
    decide +kernel
  obtain ⟨c, -, -, ⟨o, ho, hquoted⟩, -⟩ :=
    integrations_well_configured swapWorld_attained.reachable hi
  exact ⟨o, ho, hquoted.controller, hquoted.base, hquoted.quote⟩

end AlmController
