import AlmController.Lib.Prog
import Mathlib.Order.Defs.Unbundled

/-!
# Programs that go along a relation

`Follows I R x` says of a program that, from a state with the invariant `I`, every successful
run of it ends in a state with the invariant, and that `R` relates the two. With a preorder for
`R` the judgment is closed under composition, so a proof follows the program's text, one rule
for each former.

What distinguishes it from `ReadOnly` and its siblings is the rule for composition: the rest of
a program is judged knowing what the first part returned, and in which state. So a program that
checks an argument and then uses it is judged on the arguments that pass.

A part that only looks at the state follows every preorder (`Follows.of_readOnly`), and most
proofs alternate between looking (`Follows.look`) and doing (`Follows.bind`).
-/

namespace Prog

variable {σ ε α β : Type} {I : σ → Prop} {R : σ → σ → Prop}

/-- From a state with the invariant, every successful run goes along `R` to such a state. -/
def Follows (I : σ → Prop) (R : σ → σ → Prop) (x : Prog σ ε α) : Prop :=
  ∀ ⦃s a s'⦄, I s → x s = .ok (a, s') → I s' ∧ R s s'

namespace Follows

variable {x : Prog σ ε α} {f : α → Prog σ ε β} {e : ε}

/-- **Composition.** The second part may use what the first one returned, and where. -/
theorem bind [IsTrans σ R] (hx : Follows I R x)
    (hf : ∀ ⦃s a s₁⦄, I s → x s = .ok (a, s₁) → Follows I R (f a)) : Follows I R (x >>= f) := by
  intro s b s' hs h
  obtain ⟨a, s₁, hfirst, hrest⟩ := bind_ok.mp h
  obtain ⟨hs₁, hstep⟩ := hx hs hfirst
  obtain ⟨hs', hsteps⟩ := hf hs hfirst hs₁ hrest
  exact ⟨hs', IsTrans.trans _ _ _ hstep hsteps⟩

/-- A part that only looks goes nowhere. -/
theorem of_readOnly [Std.Refl R] (h : ReadOnly x) : Follows I R x := by
  intro s a s' hs hx
  obtain rfl := h hx
  exact ⟨hs, Std.Refl.refl s⟩

/-- Past a part that only looks. -/
theorem look [IsPreorder σ R] (hx : ReadOnly x)
    (hf : ∀ ⦃s a⦄, I s → x s = .ok (a, s) → Follows I R (f a)) : Follows I R (x >>= f) := by
  apply bind (of_readOnly hx)
  intro s a s₁ hs h
  obtain rfl := hx h
  exact hf hs h

/-- Past a check, what it rejects is excluded. -/
theorem check [IsPreorder σ R] {c : Prop} [Decidable c] {f : Unit → Prog σ ε β}
    (hf : ¬ c → Follows I R (f ())) : Follows I R (rejectIf c e >>= f) := by
  apply look .rejectIf
  intro s u _ h
  exact hf (rejectIf_ok.mp h).1

/-- Past a computation that needs no state. -/
theorem have_ok [IsPreorder σ R] {y : Except ε α} (hf : ∀ a, y = .ok a → Follows I R (f a)) :
    Follows I R (ofExcept y >>= f) := by
  apply look .ofExcept
  intro s a _ h
  exact hf a (ofExcept_ok.mp h).1

/-- Past an option that has to be there. -/
theorem have_some [IsPreorder σ R] {y : Option α} (hf : ∀ a, y = some a → Follows I R (f a)) :
    Follows I R (ofOption y e >>= f) := by
  apply look .ofOption
  intro s a _ h
  exact hf a (ofOption_ok.mp h).1

theorem pure [Std.Refl R] {a : α} : Follows I R (pure a : Prog σ ε α) := of_readOnly .pure

theorem fail : Follows I R (fail e : Prog σ ε α) :=
  fun _ _ _ _ h => (fail_ok.mp h).elim

theorem ite {c : Prop} [Decidable c] {y : Prog σ ε α} (hx : c → Follows I R x)
    (hy : ¬ c → Follows I R y) : Follows I R (if c then x else y) := by
  by_cases hc : c
  · rw [if_pos hc]
    exact hx hc
  · rw [if_neg hc]
    exact hy hc

theorem onlyIf [Std.Refl R] {c : Prop} [Decidable c] {x : Prog σ ε Unit}
    (hx : c → Follows I R x) : Follows I R (onlyIf c x) := by
  intro s u s' hs h
  rcases onlyIf_ok.mp h with ⟨hc, h⟩ | ⟨-, rfl⟩
  · exact hx hc hs h
  · exact ⟨hs, Std.Refl.refl s⟩

theorem modify {g : σ → σ} (hg : ∀ s, I s → I (g s) ∧ R s (g s)) :
    Follows I R (modify g : Prog σ ε Unit) := by
  intro s u s' hs h
  obtain rfl := modify_ok.mp h
  exact hg s hs

end Follows

end Prog
