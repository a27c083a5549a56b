import AlmController.Spec.Accrual
import AlmController.Spec.Metered
import AlmController.Spec.Sound
import AlmController.Transaction

/-!
# Limiters under a clock that never goes back

The runtime's clock starts at or after the epoch and never goes back. In every state that
such a run reaches, each limiter is valid and was last refreshed in the past (`Limited`).
`Change` lists the ways an account may change, so the step lemma asks of each of them only
what it does to the six fields of the limiter.
-/

namespace Step

open AlmController

variable [Chain]

/-- The seconds that passed. -/
def elapsed (s : Step World Move) : Int :=
  s.after.clock.unixTimestamp.toInt - s.before.clock.unixTimestamp.toInt

/-- The clock did not go back. -/
def Forward (s : Step World Move) : Prop := 0 ≤ s.elapsed

end Step

namespace AlmController

open Prog

variable [Chain]

/-- The states that a run with such a clock leads to. -/
def ReachableForward (w : World) : Prop :=
  ∃ w₀ steps, World.Genesis w₀ ∧ 0 ≤ w₀.clock.unixTimestamp.toInt ∧ Trace Moves w₀ steps w ∧
    ∀ s ∈ steps, s.Forward

theorem ReachableForward.reachable {w : World} (h : ReachableForward w) : Reachable w := by
  obtain ⟨w₀, steps, hgenesis, -, htrace, -⟩ := h
  exact ⟨w₀, steps, hgenesis, htrace⟩

/-- **The invariant.** Time is not negative, and every limiter is fit. -/
structure Limited (w : World) : Prop where
  now : 0 ≤ w.clock.unixTimestamp.toInt
  fit : ∀ k l, limiterOf (w.keel k) = some l → l.Refreshable w.clock

/-! ## One step -/

variable {tx : TxContext} {accounts : List AccountMeta} {data : List UInt8} {w w' : World}
  {es : List LogEntry} {k : Pubkey}

omit [Chain] in
/-- Whatever an instruction makes of a fit limiter is fit. -/
theorem RateLimit.Evolves.refreshable {clock : Clock} {old : Option RateLimit} {l : RateLimit}
    (h : RateLimit.Evolves clock old l) (hnow : 0 ≤ clock.unixTimestamp.toInt)
    (hold : ∀ l, old = some l → l.Refreshable clock) : l.Refreshable clock := by
  cases h with
  | kept => exact hold _ rfl
  | started hsteps => exact (RateLimit.Refreshable.init hnow).steps hsteps
  | booked hsteps => exact (hold _ rfl).steps hsteps
  | updated hupdate => exact (hold _ rfl).of_update hupdate

/-- **One step keeps every limiter fit**, when the clock does not go back. -/
theorem Limited.move {m : Move} (hl : Limited w) (h : Moves w m w')
    (hforward : Step.Forward ⟨w, m, w'⟩) : Limited w' := by
  cases m with
  | env bank =>
    cases h
    exact ⟨hl.now, hl.fit⟩
  | tick clock =>
    cases h
    have hle : w.clock.unixTimestamp.toInt ≤ clock.unixTimestamp.toInt := sub_nonneg.mp hforward
    exact ⟨hl.now.trans hle, fun k l hla => (hl.fit k l hla).later hle⟩
  | call tx accounts data =>
    obtain ⟨es, heffect⟩ := h.effect
    refine ⟨heffect.clock ▸ hl.now, fun k l hla => ?_⟩
    rw [heffect.clock]
    exact ((heffect.changes k).evolves hla).refreshable hl.now (hl.fit k)

theorem ReachableForward.limited (h : ReachableForward w) : Limited w := by
  obtain ⟨w₀, steps, hgenesis, hnow, htrace, hforward⟩ := h
  refine (htrace.restrict hforward).invariant
    (fun hl hstep => hl.move hstep.1 hstep.2) ⟨hnow, ?_⟩
  intro k l hl
  rw [hgenesis.keel] at hl
  cases hl

end AlmController
