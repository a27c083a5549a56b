import AlmController.Spec.Ideal
import AlmController.Theorems.OutflowBound

/-!
# The limiter is a tank

What a limiter should do is said in a few lines, with no clock in it and no rounding: `Step.ideal`
keeps a tank beside a run. The tank starts out full, it is filled by what the slope earns in the
seconds of every step, it is filled and drained by what the step's log entries book, and it has
the size of the maximum; when the maximum is changed, the room left stays what it was, or shrinks
to the new size. One case is left as the program has it, and is no tank with an inlet: while the
maximum is `u64::MAX` time fills nothing (`RateLimit.earned`), and only inflows do.

Whatever a run does to an account, in whatever order and however seldom anybody refreshes it, its
limiter stays within one token of that tank. This is two bounds in one. The limiter never lets out
a token that the tank would not: rounding gives nothing away, however often it is done. And it
refuses nothing that is in the tank: the limit that governance has set can be used in full.

`limiter_is_tank` needs the log entries of every step, so it starts from an empty program, and the
run may be any that moves make, swaps that are not complete included. It says nothing of the
balance in the vault: what the limiter would let out may not be there.
-/

namespace Step

open AlmController

variable [Chain]

/-- What the limiter at `k` earned while the time of the step passed. -/
def accrued (k : Pubkey) (s : Step World Move) : Nat :=
  match s.before.limiter? k with
  | some (_, l) => l.earned s.elapsed.toNat
  | none => 0

/-- The tank of the account at `k` after a step, from the tank before it. -/
def ideal (k : Pubkey) (t : Option Tank) (s : Step World Move) : Option Tank :=
  match s.after.limiter? k with
  | some (id, l) => some (l.tankAfter (flowsOf id s.entries) (t.map (·.fill (s.accrued k))))
  | none => none

end Step

namespace AlmController

open Prog

variable [Chain]

/-- The tank that a run from nothing keeps for the account at `k`. -/
def idealLimiter (k : Pubkey) (steps : List (Step World Move)) : Option Tank :=
  steps.foldl (Step.ideal k) none

variable {w w' : World} {k : Pubkey} {id : LimiterId} {l : RateLimit} {t : Option Tank}

/-- The account at `k` has a limiter exactly when there is a tank, and tracks it. -/
structure Shadowed (k : Pubkey) (w : World) (t : Option Tank) : Prop where
  sound : Sound w
  limited : Limited w
  nothing : limiterOf (w.keel k) = none → t = none
  tracks : ∀ l, limiterOf (w.keel k) = some l → ∃ t', t = some t' ∧ l.Tracks w.clock t'

omit [Chain] in
theorem limiterOf_eq (h : w.limiter? k = some (id, l)) : limiterOf (w.keel k) = some l :=
  congrArg (Option.map Prod.snd) h

omit [Chain] in
theorem limiterOf_eq_none (h : w.limiter? k = none) : limiterOf (w.keel k) = none :=
  congrArg (Option.map Prod.snd) h

/-- Beside an account without a limiter no tank is kept. -/
theorem Shadowed.of_none {m : Move} (hsound : Sound w') (hlimited : Limited w')
    (hl : w'.limiter? k = none) : Shadowed k w' (Step.ideal k t ⟨w, m, w'⟩) := by
  have hideal : Step.ideal k t ⟨w, m, w'⟩ = none := by
    show (match w'.limiter? k with
      | some (id, l) => some (l.tankAfter _ _)
      | none => none) = none
    rw [hl]
  refine ⟨hsound, hlimited, fun _ => hideal, ?_⟩
  intro l hl'
  rw [limiterOf_eq_none hl] at hl'
  cases hl'

/-- Beside one that has, the tank is the one that it tracks. -/
theorem Shadowed.of_some {m : Move} (hsound : Sound w') (hlimited : Limited w')
    (hl : w'.limiter? k = some (id, l))
    (htracks : l.Tracks w'.clock (l.tankAfter (flowsOf id (Step.entries ⟨w, m, w'⟩))
      (t.map (·.fill (Step.accrued k ⟨w, m, w'⟩))))) :
    Shadowed k w' (Step.ideal k t ⟨w, m, w'⟩) := by
  have hideal : Step.ideal k t ⟨w, m, w'⟩ = some (l.tankAfter
      (flowsOf id (Step.entries ⟨w, m, w'⟩)) (t.map (·.fill (Step.accrued k ⟨w, m, w'⟩)))) := by
    show (match w'.limiter? k with
      | some (id, l) => some (l.tankAfter _ _)
      | none => none) = _
    rw [hl]
  refine ⟨hsound, hlimited, ?_, ?_⟩
  · intro hnone
    rw [limiterOf_eq hl] at hnone
    cases hnone
  · intro l' hl'
    rw [limiterOf_eq hl] at hl'
    obtain rfl := Option.some.inj hl'
    exact ⟨_, hideal, htracks⟩

omit [Chain] in
/-- In no time nothing is earned. -/
theorem RateLimit.earned_zero : l.earned 0 = 0 := by
  unfold RateLimit.earned
  split
  · rfl
  · exact Nat.mul_zero _

omit [Chain] in
/-- What a step earns is what the limiter before it earns in its seconds. -/
theorem Step.accrued_eq {m : Move} (hl : w.limiter? k = some (id, l)) :
    Step.accrued k ⟨w, m, w'⟩ =
      l.earned (w'.clock.unixTimestamp.toInt - w.clock.unixTimestamp.toInt).toNat := by
  show (match w.limiter? k with
    | some (_, l) => l.earned _
    | none => 0) = _
  rw [hl]
  rfl

omit [Chain] in
/-- A step that takes no time earns nothing. -/
theorem Step.accrued_of_clock {m : Move} (hclock : w'.clock = w.clock) :
    Step.accrued k ⟨w, m, w'⟩ = 0 := by
  cases hl : w.limiter? k with
  | none =>
    show (match w.limiter? k with
      | some (_, l) => l.earned _
      | none => 0) = _
    rw [hl]
  | some p =>
    rcases p with ⟨id, l⟩
    rw [Step.accrued_eq hl, hclock, sub_self]
    exact RateLimit.earned_zero

/-- A step that changes no account. -/
theorem Shadowed.wait {m : Move} (hs : Shadowed k w t) (h : Moves w m w')
    (hforward : Step.Forward ⟨w, m, w'⟩) (hkeel : w'.keel = w.keel)
    (hlog : w'.log = w.log ++ []) : Shadowed k w' (Step.ideal k t ⟨w, m, w'⟩) := by
  have hsound := hs.sound.move h
  have hlimited := hs.limited.move h hforward
  have hlimiter : w'.limiter? k = w.limiter? k := by
    unfold World.limiter?
    rw [hkeel]
  cases hl : w.limiter? k with
  | none => exact .of_none hsound hlimited (hlimiter.trans hl)
  | some p =>
    obtain ⟨id, l⟩ := p
    obtain ⟨t', rfl, htracks⟩ := hs.tracks l (limiterOf_eq hl)
    refine .of_some hsound hlimited (hlimiter.trans hl) ?_
    rw [Step.entries_eq hlog, Step.accrued_eq hl]
    have hlater := htracks.later (hs.limited.fit k l (limiterOf_eq hl)) (sub_nonneg.mp hforward)
    -- nothing is booked, and the tank keeps its size
    show l.Tracks w'.clock (Tank.resize _ (SECONDS_PER_DAY * l.rateLimitMaxOutflow.toNat))
    rw [← hlater.capacity]
    show l.Tracks w'.clock (Tank.resize (Tank.fill _ _) (Tank.fill _ _).capacity)
    rw [Tank.resize_self]
    exact hlater

/-- **One step.** The tank is moved along, and the limiter tracks it still. -/
theorem Shadowed.move {m : Move} (hs : Shadowed k w t) (h : Moves w m w')
    (hforward : Step.Forward ⟨w, m, w'⟩) : Shadowed k w' (Step.ideal k t ⟨w, m, w'⟩) := by
  cases m with
  | env bank =>
    have hw' : w' = w.setBank bank := by
      cases h
      rfl
    apply hs.wait h hforward
    · rw [hw']
      rfl
    · rw [hw', List.append_nil]
      rfl
  | tick clock =>
    have hw' : w' = { w with clock := clock } := by
      cases h
      rfl
    apply hs.wait h hforward
    · rw [hw']
    · rw [hw', List.append_nil]
  | call tx accounts data =>
    obtain ⟨es, heffect⟩ := h.effect
    have hsound := hs.sound.move h
    have hlimited := hs.limited.move h hforward
    cases hl : w'.limiter? k with
    | none => exact .of_none hsound hlimited hl
    | some p =>
      obtain ⟨id, l⟩ := p
      -- the flows that the entries tell of are the ones that the limiter made
      have hbooks := (heffect.changes k).books hs.sound.distinct hl (hsound.limiterId_address hl)
      have htracks := hbooks.tracks (fun l' hl' => ⟨hs.limited.fit k l' hl', hs.tracks l' hl'⟩)
        hs.nothing hs.limited.now
      refine .of_some hsound hlimited hl ?_
      -- a call takes no time
      rw [Step.entries_eq heffect.log, Step.accrued_of_clock heffect.clock, heffect.clock]
      have hkept : t.map (Tank.fill · 0) = t := by
        cases t with
        | none => rfl
        | some t => exact congrArg some Tank.fill_zero
      rw [hkept]
      exact htracks

/-- A run from nothing, under a clock that does not go back, keeps a tank for every account. -/
theorem Shadowed.of_run {w₀ : World} {steps : List (Step World Move)} (hgenesis : World.Genesis w₀)
    (hnow : 0 ≤ w₀.clock.unixTimestamp.toInt) (h : Trace Moves w₀ steps w)
    (hforward : ∀ s ∈ steps, s.Forward) : Shadowed k w (idealLimiter k steps) := by
  have hnone : limiterOf (w₀.keel k) = none := by
    rw [hgenesis.keel]
    rfl
  have hstart : Shadowed k w₀ none := by
    refine ⟨.genesis hgenesis, ⟨hnow, ?_⟩, fun _ => rfl, ?_⟩
    · intro k' l hl
      rw [hgenesis.keel] at hl
      cases hl
    · intro l hl
      rw [hnone] at hl
      cases hl
  exact (h.restrict hforward).fold (fun hs hstep => hs.move hstep.1 hstep.2) hstart

/-- **A limiter is a tank, to within one token.** Take any run from an empty program under a clock
    that does not go back. Refreshed at its end, the limiter of an account lets out whatever is
    in the tank that was kept beside the run, and never a whole token more. -/
theorem limiter_is_tank {w₀ : World} {steps : List (Step World Move)}
    (hgenesis : World.Genesis w₀) (hnow : 0 ≤ w₀.clock.unixTimestamp.toInt)
    (h : Trace Moves w₀ steps w) (hforward : ∀ s ∈ steps, s.Forward)
    (hl : w.limiter? k = some (id, l)) :
    ∃ t l', idealLimiter k steps = some t ∧ l.refreshRateLimit w.clock = .ok l' ∧
      l'.Agrees w.clock t := by
  have hshadowed : Shadowed k w (idealLimiter k steps) := .of_run hgenesis hnow h hforward
  obtain ⟨t, ht, htracks⟩ := hshadowed.tracks l (limiterOf_eq hl)
  obtain ⟨l', hrefresh, hagrees⟩ := htracks.agrees
  exact ⟨t, l', ht, hrefresh, hagrees⟩

end AlmController

namespace AlmController

open Simulator

/-- The run that sets up the example leaves a tank of 1000 tokens that lacks less than one. -/
theorem limiter_is_tank_example :
    ∃ steps t, idealLimiter (reserveKey mintA) steps = some t ∧
      t.capacity = SECONDS_PER_DAY * 1000 ∧ SECONDS_PER_DAY * 999 < t.level := by
  obtain ⟨w₀, steps, hgenesis, hnow, htrace, hforward⟩ := swapWorld_attained.reachableForward
  have hl : (swapWorld evenPrice).limiter? (reserveKey mintA) =
      some (.reserve controllerKey mintA, ⟨100, 1000, 1000, 0, 1000, 100⟩) := by decide +kernel
  obtain ⟨t, l', ht, hrefresh, hagrees⟩ := limiter_is_tank hgenesis hnow htrace hforward hl
  have hrefreshed : RateLimit.refreshRateLimit ⟨100, 1000, 1000, 0, 1000, 100⟩
      (swapWorld evenPrice).clock = .ok ⟨100, 1000, 1000, 0, 1000, 100⟩ := by decide +kernel
  rw [hrefreshed] at hrefresh
  obtain rfl := Except.ok.inj hrefresh
  refine ⟨steps, t, ht, hagrees.capacity, ?_⟩
  exact Nat.lt_of_add_lt_add_right hagrees.lt

end AlmController
