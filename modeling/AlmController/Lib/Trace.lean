import Mathlib.Algebra.BigOperators.Group.List.Basic
import Mathlib.Tactic.Linarith

/-!
# Runs of a transition relation

A run is a list of steps, each with the state before, the move, and the state
after; keeping all three is what lets a property of a run be a sum or a count over
its steps.

Two rules carry the proofs that use this file:

* `Trace.invariant`: what one step preserves, a run preserves;
* `Trace.potential`: when a potential pays for the cost of every step out of the
  gain of that step, it pays for the total cost of a run out of the total gain.
-/

/-- One step of a run: where it started, what was done, where it ended. -/
structure Step (σ μ : Type) where
  before : σ
  move : μ
  after : σ

variable {σ μ : Type} {R : σ → μ → σ → Prop}

/-- `Trace R s steps s'`: the steps lead from `s` to `s'`, each along `R`. -/
inductive Trace (R : σ → μ → σ → Prop) : σ → List (Step σ μ) → σ → Prop
  | nil {s : σ} : Trace R s [] s
  | cons {s s₁ s' : σ} {m : μ} {steps : List (Step σ μ)} :
      R s m s₁ → Trace R s₁ steps s' → Trace R s (⟨s, m, s₁⟩ :: steps) s'

namespace Trace

variable {s s' s'' : σ} {m : μ} {steps steps' : List (Step σ μ)}

theorem append (h : Trace R s steps s') (h' : Trace R s' steps' s'') :
    Trace R s (steps ++ steps') s'' := by
  induction h with
  | nil => exact h'
  | cons hstep _ ih => exact .cons hstep (ih h')

theorem single (h : R s m s') : Trace R s [⟨s, m, s'⟩] s' := .cons h .nil

/-- A run over a concatenation passes through a state in between. -/
theorem split (h : Trace R s (steps ++ steps') s'') :
    ∃ s', Trace R s steps s' ∧ Trace R s' steps' s'' := by
  induction steps generalizing s with
  | nil => exact ⟨s, .nil, h⟩
  | cons step steps ih =>
    cases h with
    | cons hstep hrest =>
      obtain ⟨s', hsteps, hsteps'⟩ := ih hrest
      exact ⟨s', .cons hstep hsteps, hsteps'⟩

/-- A run stops before each of its steps, takes it, and goes on. -/
theorem split_cons {step : Step σ μ} (h : Trace R s (steps ++ step :: steps') s'') :
    Trace R s steps step.before ∧ R step.before step.move step.after ∧
      Trace R step.after steps' s'' := by
  obtain ⟨s', hsteps, hrest⟩ := h.split
  cases hrest with
  | cons hstep hrest => exact ⟨hsteps, hstep, hrest⟩

/-- A run starts where its first step does. -/
theorem eq_head {step : Step σ μ} (h : Trace R s (step :: steps) s') : step.before = s := by
  cases h
  rfl

/-- A run ends where its last step does. -/
theorem eq_last {step : Step σ μ} (h : Trace R s (steps ++ [step]) s') : step.after = s' := by
  obtain ⟨-, -, hrest⟩ := h.split_cons
  cases hrest
  rfl

/-- What one step preserves, a run preserves. -/
theorem invariant {I : σ → Prop} (hI : ∀ {s m s'}, I s → R s m s' → I s')
    (h : Trace R s steps s') (hs : I s) : I s' := by
  induction h with
  | nil => exact hs
  | cons hstep _ ih => exact ih (hI hs hstep)

/-- What is computed along a run keeps to what the run does. -/
theorem fold {α : Type} {f : α → Step σ μ → α} {I : σ → α → Prop}
    (hI : ∀ {s m s' a}, I s a → R s m s' → I s' (f a ⟨s, m, s'⟩)) (h : Trace R s steps s') {a : α}
    (hs : I s a) : I s' (steps.foldl f a) := by
  induction h generalizing a with
  | nil => exact hs
  | cons hstep _ ih => exact ih (hI hs hstep)

/-- Every step of a run is a step of the relation, from a state where the invariant
    holds. -/
theorem invariant_mem {I : σ → Prop} (hI : ∀ {s m s'}, I s → R s m s' → I s')
    (h : Trace R s steps s') (hs : I s) {step : Step σ μ} (hmem : step ∈ steps) :
    I step.before ∧ R step.before step.move step.after := by
  induction h with
  | nil => cases hmem
  | cons hstep _ ih =>
    rcases List.mem_cons.mp hmem with rfl | hmem
    · exact ⟨hs, hstep⟩
    · exact ih (hI hs hstep) hmem

/-- Every step of a run is a step of the relation. -/
theorem step_mem (h : Trace R s steps s') {step : Step σ μ} (hmem : step ∈ steps) :
    R step.before step.move step.after :=
  (h.invariant_mem (I := fun _ => True) (fun _ _ => trivial) trivial hmem).2

/-- What holds of every step may be made part of the relation. -/
theorem restrict {P : Step σ μ → Prop} (h : Trace R s steps s') (hP : ∀ step ∈ steps, P step) :
    Trace (fun s m s' => R s m s' ∧ P ⟨s, m, s'⟩) s steps s' := by
  induction h with
  | nil => exact .nil
  | cons hstep _ ih =>
    obtain ⟨hhead, htail⟩ := List.forall_mem_cons.mp hP
    exact .cons ⟨hstep, hhead⟩ (ih htail)

/-- **The potential rule.** -/
theorem potential {I : σ → Prop} (φ : σ → Int) (cost gain : Step σ μ → Int)
    (hI : ∀ {s m s'}, I s → R s m s' → I s')
    (hφ : ∀ {s m s'}, I s → R s m s' → φ s' + cost ⟨s, m, s'⟩ ≤ φ s + gain ⟨s, m, s'⟩)
    (h : Trace R s steps s') (hs : I s) :
    φ s' + (steps.map cost).sum ≤ φ s + (steps.map gain).sum := by
  induction h with
  | nil => simp
  | cons hstep _ ih =>
    have hhead := hφ hs hstep
    have htail := ih (hI hs hstep)
    rw [List.map_cons, List.sum_cons, List.map_cons, List.sum_cons]
    linarith

/-- Two steps of a run are related when the run between them relates them. -/
theorem pairwise {Q : Step σ μ → Step σ μ → Prop} (h : Trace R s steps s')
    (hQ : ∀ pre step mid step' post, steps = pre ++ step :: (mid ++ step' :: post) →
      R step.before step.move step.after → Trace R step.after mid step'.before →
        R step'.before step'.move step'.after → Q step step') : steps.Pairwise Q := by
  refine List.pairwise_iff_forall_sublist.mpr fun {step step'} hsub => ?_
  obtain ⟨l₁, l₂, rfl, hmem, hsub'⟩ := List.cons_sublist_iff.mp hsub
  obtain ⟨pre, mid₁, rfl⟩ := List.append_of_mem hmem
  obtain ⟨mid₂, post, rfl⟩ := List.append_of_mem (List.singleton_sublist.mp hsub')
  have heq : pre ++ step :: mid₁ ++ (mid₂ ++ step' :: post) =
      pre ++ step :: (mid₁ ++ mid₂ ++ step' :: post) := by
    simp only [List.append_assoc, List.cons_append]
  rw [heq] at h hQ
  obtain ⟨-, hstep, hrest⟩ := h.split_cons
  obtain ⟨hmid, hstep', -⟩ := hrest.split_cons
  exact hQ pre step (mid₁ ++ mid₂) step' post rfl hstep hmid hstep'

end Trace
