/-!
# Programs over a state that may fail

`Prog σ ε α` is a computation that reads and writes a state `σ` and either
returns an `α` or stops with an error `ε`. A run that stops with an error has no
final state: whoever ran it keeps the state it started from, which is what an
instruction of an on-chain program (or a database transaction) does.

The file is the calculus the proofs use, and nothing else. There are two
inversion sets:

* the `_ok` lemmas read a successful run back as the list of what each of its
  steps returned and left behind;
* the `_error` lemmas read a failed run back as the place at which it stopped.

Both are `iff`s, so that `simp only [prog lemmas] at h` turns a whole program into
one conjunction and loses nothing on the way. Where only the shape of a program
matters, the judgments `ReadOnly`, `Sees`, `Relates` and `Avoids` follow its text instead.
-/

/-- A computation over the state `σ` that may stop with an error `ε`. -/
def Prog (σ ε α : Type) : Type := σ → Except ε (α × σ)

namespace Prog

variable {σ ε α β : Type}

/-! ## The operations -/

protected def pure (a : α) : Prog σ ε α := fun s => .ok (a, s)

protected def bind (x : Prog σ ε α) (f : α → Prog σ ε β) : Prog σ ε β := fun s =>
  match x s with
  | .ok (a, s') => f a s'
  | .error e => .error e

instance : Monad (Prog σ ε) where
  pure := Prog.pure
  bind := Prog.bind

/-- Stop with the error `e`. -/
def fail (e : ε) : Prog σ ε α := fun _ => .error e

/-- Look at the state. -/
def read (f : σ → α) : Prog σ ε α := fun s => .ok (f s, s)

/-- Replace the state. -/
def modify (f : σ → σ) : Prog σ ε Unit := fun s => .ok ((), f s)

/-- `if c { return Err(e) }`. -/
def rejectIf (c : Prop) [Decidable c] (e : ε) : Prog σ ε Unit := fun s =>
  if c then .error e else .ok ((), s)

theorem rejectIf_congr {c c' : Prop} [Decidable c] [Decidable c'] {e : ε} (h : c ↔ c') :
    (rejectIf c e : Prog σ ε Unit) = rejectIf c' e := by
  funext s
  by_cases hc : c
  · simp [rejectIf, hc, h.mp hc]
  · simp [rejectIf, hc, (not_congr h).mp hc]

/-- `if c { x }`. -/
def onlyIf (c : Prop) [Decidable c] (x : Prog σ ε Unit) : Prog σ ε Unit :=
  if c then x else fun s => .ok ((), s)

/-- A computation that needs no state. -/
def ofExcept (x : Except ε α) : Prog σ ε α := fun s =>
  match x with
  | .ok a => .ok (a, s)
  | .error e => .error e

/-- `x.ok_or(e)?`. -/
def ofOption (x : Option α) (e : ε) : Prog σ ε α := fun s =>
  match x with
  | some a => .ok (a, s)
  | none => .error e

/-! ## What a successful run did -/

section Ok

variable {s s' : σ} {a : α} {b : β} {e : ε}

theorem pure_ok {a' : α} : (pure a : Prog σ ε α) s = .ok (a', s') ↔ a = a' ∧ s = s' := by
  simp [Pure.pure, Prog.pure]

theorem bind_ok {x : Prog σ ε α} {f : α → Prog σ ε β} :
    (x >>= f) s = .ok (b, s') ↔ ∃ a s₁, x s = .ok (a, s₁) ∧ f a s₁ = .ok (b, s') := by
  simp only [Bind.bind, Prog.bind]
  cases x s with
  | error e => simp
  | ok r =>
    constructor
    · exact fun h => ⟨r.1, r.2, rfl, h⟩
    · rintro ⟨a, s₁, hr, h⟩
      obtain rfl : r = (a, s₁) := by simpa using hr
      exact h

/-- A run whose first part succeeded is the rest of the run. -/
theorem bind_of_ok {x : Prog σ ε α} {s₁ : σ} (h : x s = .ok (a, s₁)) (f : α → Prog σ ε β) :
    (x >>= f) s = f a s₁ := by
  simp only [Bind.bind, Prog.bind, h]

theorem fail_ok : (fail e : Prog σ ε α) s = .ok (a, s') ↔ False := by
  simp [fail]

theorem read_ok {f : σ → α} : (read f : Prog σ ε α) s = .ok (a, s') ↔ f s = a ∧ s = s' := by
  simp [read]

theorem modify_ok {f : σ → σ} {u : Unit} :
    (modify f : Prog σ ε Unit) s = .ok (u, s') ↔ f s = s' := by
  simp [modify]

theorem rejectIf_ok {c : Prop} [Decidable c] {u : Unit} :
    (rejectIf c e : Prog σ ε Unit) s = .ok (u, s') ↔ ¬ c ∧ s = s' := by
  unfold rejectIf
  split <;> simp [*]

theorem rejectIf_of_not {c : Prop} [Decidable c] (h : ¬ c) :
    (rejectIf c e : Prog σ ε Unit) s = .ok ((), s) := rejectIf_ok.mpr ⟨h, rfl⟩

theorem onlyIf_ok {c : Prop} [Decidable c] {x : Prog σ ε Unit} {u : Unit} :
    onlyIf c x s = .ok (u, s') ↔ (c ∧ x s = .ok ((), s')) ∨ (¬ c ∧ s = s') := by
  by_cases hc : c <;> simp [onlyIf, hc]

theorem ofExcept_ok {x : Except ε α} :
    (ofExcept x : Prog σ ε α) s = .ok (a, s') ↔ x = .ok a ∧ s = s' := by
  cases x <;> simp [ofExcept]

theorem ofExcept_of_ok {x : Except ε α} (h : x = .ok a) :
    (ofExcept x : Prog σ ε α) s = .ok (a, s) := ofExcept_ok.mpr ⟨h, rfl⟩

theorem ofOption_ok {x : Option α} :
    (ofOption x e : Prog σ ε α) s = .ok (a, s') ↔ x = some a ∧ s = s' := by
  cases x <;> simp [ofOption]

theorem ite_ok {c : Prop} [Decidable c] {x y : Prog σ ε α} :
    (if c then x else y) s = .ok (a, s') ↔
      (c ∧ x s = .ok (a, s')) ∨ (¬ c ∧ y s = .ok (a, s')) := by
  split <;> simp [*]

end Ok

/-! ## Where a failed run stopped -/

section Error

variable {s : σ} {e e' : ε}

theorem pure_error {a : α} : (pure a : Prog σ ε α) s = .error e ↔ False := by
  simp [Pure.pure, Prog.pure]

theorem bind_error {x : Prog σ ε α} {f : α → Prog σ ε β} :
    (x >>= f) s = .error e ↔
      x s = .error e ∨ ∃ a s₁, x s = .ok (a, s₁) ∧ f a s₁ = .error e := by
  simp only [Bind.bind, Prog.bind]
  cases x s with
  | error e => simp
  | ok r =>
    constructor
    · exact fun h => .inr ⟨r.1, r.2, rfl, h⟩
    · rintro (hr | ⟨a, s₁, hr, h⟩)
      · cases hr
      · obtain rfl : r = (a, s₁) := by simpa using hr
        exact h

theorem fail_error : (fail e' : Prog σ ε α) s = .error e ↔ e' = e := by
  simp [fail]

theorem read_error {f : σ → α} : (read f : Prog σ ε α) s = .error e ↔ False := by
  simp [read]

theorem modify_error {f : σ → σ} : (modify f : Prog σ ε Unit) s = .error e ↔ False := by
  simp [modify]

theorem rejectIf_error {c : Prop} [Decidable c] :
    (rejectIf c e' : Prog σ ε Unit) s = .error e ↔ c ∧ e' = e := by
  unfold rejectIf
  split <;> simp [*]

theorem onlyIf_error {c : Prop} [Decidable c] {x : Prog σ ε Unit} :
    onlyIf c x s = .error e ↔ c ∧ x s = .error e := by
  by_cases hc : c <;> simp [onlyIf, hc]

theorem ofExcept_error {x : Except ε α} :
    (ofExcept x : Prog σ ε α) s = .error e ↔ x = .error e := by
  cases x <;> simp [ofExcept]

theorem ofOption_error {x : Option α} :
    (ofOption x e' : Prog σ ε α) s = .error e ↔ x = none ∧ e' = e := by
  cases x <;> simp [ofOption]

end Error

/-! ## Five judgments

A program that only looks at the state, one that only looks at a part of it, one that runs in
related states alike, one that never stops with a given error, and one whose result has a
property. All are closed under composition, so a proof follows the program's text. -/

section Judgments

variable {x : Prog σ ε α} {f : α → Prog σ ε β} {e e' : ε}

/-- The program leaves the state as it is. -/
def ReadOnly (x : Prog σ ε α) : Prop := ∀ ⦃s a s'⦄, x s = .ok (a, s') → s = s'

theorem ReadOnly.pure {a : α} : ReadOnly (pure a : Prog σ ε α) :=
  fun _ _ _ h => (pure_ok.mp h).2

theorem ReadOnly.bind (hx : ReadOnly x) (hf : ∀ a, ReadOnly (f a)) :
    ReadOnly (x >>= f) := by
  intro s b s' h
  obtain ⟨a, s₁, hfirst, hrest⟩ := bind_ok.mp h
  exact (hx hfirst).trans (hf a hrest)

theorem ReadOnly.fail : ReadOnly (fail e : Prog σ ε α) :=
  fun _ _ _ h => (fail_ok.mp h).elim

theorem ReadOnly.read {f : σ → α} : ReadOnly (read f : Prog σ ε α) :=
  fun _ _ _ h => (read_ok.mp h).2

theorem ReadOnly.rejectIf {c : Prop} [Decidable c] :
    ReadOnly (rejectIf c e : Prog σ ε Unit) :=
  fun _ _ _ h => (rejectIf_ok.mp h).2

theorem ReadOnly.onlyIf {c : Prop} [Decidable c] {x : Prog σ ε Unit} (hx : ReadOnly x) :
    ReadOnly (onlyIf c x) := by
  intro s u s' h
  rcases onlyIf_ok.mp h with ⟨-, h⟩ | ⟨-, h⟩
  · exact hx h
  · exact h

theorem ReadOnly.ofExcept {x : Except ε α} : ReadOnly (ofExcept x : Prog σ ε α) :=
  fun _ _ _ h => (ofExcept_ok.mp h).2

theorem ReadOnly.ofOption {x : Option α} : ReadOnly (ofOption x e : Prog σ ε α) :=
  fun _ _ _ h => (ofOption_ok.mp h).2

theorem ReadOnly.ite {c : Prop} [Decidable c] {x y : Prog σ ε α} (hx : ReadOnly x)
    (hy : ReadOnly y) : ReadOnly (if c then x else y) := by
  split
  · exact hx
  · exact hy

/-- What the program finds depends on this view of the state, which it leaves as it is. -/
def Sees {τ : Type} (view : σ → τ) (x : Prog σ ε α) : Prop :=
  ∀ ⦃s a s₁⦄, x s = .ok (a, s₁) → ∀ s', view s' = view s → x s' = .ok (a, s')

section Sees

variable {τ : Type} {view : σ → τ}

theorem Sees.pure {a : α} : Sees view (pure a : Prog σ ε α) := by
  intro s a' s₁ h s' _
  exact pure_ok.mpr ⟨(pure_ok.mp h).1, rfl⟩

theorem Sees.bind (hro : ReadOnly x) (hx : Sees view x) (hf : ∀ a, Sees view (f a)) :
    Sees view (x >>= f) := by
  intro s b s₁ h s' hview
  obtain ⟨a, s₂, hfirst, hrest⟩ := bind_ok.mp h
  obtain rfl := hro hfirst
  exact bind_ok.mpr ⟨a, s', hx hfirst s' hview, hf a hrest s' hview⟩

/-- Past a look at the whole state, of which only the view is used. -/
theorem Sees.look {f : σ → Prog σ ε β} (hsame : ∀ s s', view s' = view s → f s' = f s)
    (hf : ∀ s, Sees view (f s)) : Sees view (Prog.read id >>= f) := by
  intro s b s₁ h s' hview
  obtain ⟨_, _, hread, hrest⟩ := bind_ok.mp h
  obtain ⟨rfl, rfl⟩ := read_ok.mp hread
  refine bind_ok.mpr ⟨s', s', rfl, ?_⟩
  rw [hsame _ _ hview]
  exact hf _ hrest s' hview

theorem Sees.ofExcept {x : Except ε α} : Sees view (ofExcept x : Prog σ ε α) := by
  intro s a s₁ h s' _
  exact ofExcept_ok.mpr ⟨(ofExcept_ok.mp h).1, rfl⟩

theorem Sees.ofOption {x : Option α} : Sees view (ofOption x e : Prog σ ε α) := by
  intro s a s₁ h s' _
  exact ofOption_ok.mpr ⟨(ofOption_ok.mp h).1, rfl⟩

theorem Sees.ite {c : Prop} [Decidable c] {x y : Prog σ ε α} (hx : Sees view x)
    (hy : Sees view y) : Sees view (if c then x else y) := by
  split
  · exact hx
  · exact hy

theorem Sees.read {β : Type} {f : σ → β} (hf : ∀ s s', view s' = view s → f s' = f s) :
    Sees view (Prog.read f : Prog σ ε β) := by
  intro s a s₁ h s' hview
  obtain ⟨rfl, -⟩ := read_ok.mp h
  exact read_ok.mpr ⟨hf _ _ hview, rfl⟩

theorem Sees.rejectIf {c : Prop} [Decidable c] : Sees view (rejectIf c e : Prog σ ε Unit) := by
  intro s a s₁ h s' _
  exact rejectIf_ok.mpr ⟨(rejectIf_ok.mp h).1, rfl⟩

theorem Sees.onlyIf {c : Prop} [Decidable c] {x : Prog σ ε Unit} (hx : Sees view x) :
    Sees view (onlyIf c x) :=
  .ite hx .pure

end Sees

/-- From a state related to one in which the program succeeds, it succeeds too: it returns the
    same result, and where it ends is related to where the other ended. -/
def Relates (R : σ → σ → Prop) (x : Prog σ ε α) (Q : α → σ → σ → Prop) : Prop :=
  ∀ ⦃s s'⦄, R s s' → ∀ ⦃a s₁⦄, x s = .ok (a, s₁) → ∃ s₁', x s' = .ok (a, s₁') ∧ Q a s₁ s₁'

section Relates

variable {R : σ → σ → Prop} {Q : α → σ → σ → Prop} {Q' : β → σ → σ → Prop}

theorem Relates.pure {a : α} : Relates R (pure a : Prog σ ε α) fun _ => R := by
  intro s s' hR a' s₁ h
  obtain ⟨rfl, rfl⟩ := pure_ok.mp h
  exact ⟨s', rfl, hR⟩

theorem Relates.bind (hx : Relates R x Q) (hf : ∀ a, Relates (Q a) (f a) Q') :
    Relates R (x >>= f) Q' := by
  intro s s' hR b s₂ h
  obtain ⟨a, s₁, hfirst, hrest⟩ := bind_ok.mp h
  obtain ⟨s₁', hfirst', hQ⟩ := hx hR hfirst
  obtain ⟨s₂', hrest', hQ'⟩ := hf a hQ hrest
  exact ⟨s₂', bind_ok.mpr ⟨a, s₁', hfirst', hrest'⟩, hQ'⟩

theorem Relates.mono {Q' : α → σ → σ → Prop} (hx : Relates R x Q)
    (hQ : ∀ ⦃a s s'⦄, Q a s s' → Q' a s s') : Relates R x Q' := by
  intro s s' hR a s₁ h
  obtain ⟨s₁', h', hQ₁⟩ := hx hR h
  exact ⟨s₁', h', hQ hQ₁⟩

/-- What is known before the program starts. -/
theorem Relates.assume {p : Prop} (h : p → Relates R x Q) :
    Relates (fun s s' => p ∧ R s s') x Q := by
  intro s s' hpR
  exact h hpR.1 hpR.2

/-- A program that looks only at what the two states agree on. -/
theorem Relates.of_sees {τ : Type} {view : σ → τ} (hro : ReadOnly x) (hx : Sees view x)
    (hview : ∀ ⦃s s'⦄, R s s' → view s' = view s) : Relates R x fun _ => R := by
  intro s s' hR a s₁ h
  have h' := hx h s' (hview hR)
  obtain rfl := hro h
  exact ⟨s', h', hR⟩

theorem Relates.modify {f : σ → σ} (hf : ∀ ⦃s s'⦄, R s s' → R (f s) (f s')) :
    Relates R (modify f : Prog σ ε Unit) fun _ => R := by
  intro s s' hR a s₁ h
  obtain rfl := modify_ok.mp h
  exact ⟨f s', rfl, hf hR⟩

theorem Relates.rejectIf {c : Prop} [Decidable c] :
    Relates R (rejectIf c e : Prog σ ε Unit) fun _ => R := by
  intro s s' hR a s₁ h
  obtain ⟨hc, rfl⟩ := rejectIf_ok.mp h
  exact ⟨s', rejectIf_ok.mpr ⟨hc, rfl⟩, hR⟩

theorem Relates.ofExcept {x : Except ε α} :
    Relates R (ofExcept x : Prog σ ε α) fun a s s' => x = .ok a ∧ R s s' := by
  intro s s' hR a s₁ h
  obtain ⟨hx, rfl⟩ := ofExcept_ok.mp h
  exact ⟨s', ofExcept_ok.mpr ⟨hx, rfl⟩, hx, hR⟩

theorem Relates.ofOption {x : Option α} :
    Relates R (ofOption x e : Prog σ ε α) fun a s s' => x = some a ∧ R s s' := by
  intro s s' hR a s₁ h
  obtain ⟨hx, rfl⟩ := ofOption_ok.mp h
  exact ⟨s', ofOption_ok.mpr ⟨hx, rfl⟩, hx, hR⟩

theorem Relates.ite {c : Prop} [Decidable c] {x y : Prog σ ε α} (hx : Relates R x Q)
    (hy : Relates R y Q) : Relates R (if c then x else y) Q := by
  split
  · exact hx
  · exact hy

end Relates

/-- The program does not stop with the error `e`, whatever state it starts in. -/
def Avoids (e : ε) (x : Prog σ ε α) : Prop := ∀ s, x s ≠ .error e

theorem Avoids.pure {a : α} : Avoids e (pure a : Prog σ ε α) :=
  fun _ h => pure_error.mp h

theorem Avoids.bind_at {s : σ} (hx : x s ≠ .error e)
    (hf : ∀ a s₁, x s = .ok (a, s₁) → f a s₁ ≠ .error e) : (x >>= f) s ≠ .error e := by
  intro h
  rcases bind_error.mp h with h | ⟨a, s₁, hfirst, h⟩
  · exact hx h
  · exact hf a s₁ hfirst h

theorem Avoids.bind (hx : Avoids e x) (hf : ∀ a, Avoids e (f a)) : Avoids e (x >>= f) :=
  fun s => bind_at (hx s) fun a s₁ _ => hf a s₁

theorem Avoids.fail (h : e' ≠ e) : Avoids e (fail e' : Prog σ ε α) :=
  fun _ hfail => h (fail_error.mp hfail)

theorem Avoids.read {f : σ → α} : Avoids e (read f : Prog σ ε α) :=
  fun _ h => read_error.mp h

theorem Avoids.modify {f : σ → σ} : Avoids e (modify f : Prog σ ε Unit) :=
  fun _ h => modify_error.mp h

theorem Avoids.rejectIf {c : Prop} [Decidable c] (h : e' ≠ e) :
    Avoids e (rejectIf c e' : Prog σ ε Unit) :=
  fun _ hreject => h (rejectIf_error.mp hreject).2

theorem Avoids.onlyIf {c : Prop} [Decidable c] {x : Prog σ ε Unit} (hx : Avoids e x) :
    Avoids e (onlyIf c x) :=
  fun s h => hx s (onlyIf_error.mp h).2

theorem Avoids.ofExcept {x : Except ε α} (h : x ≠ .error e) :
    Avoids e (ofExcept x : Prog σ ε α) :=
  fun _ hx => h (ofExcept_error.mp hx)

theorem Avoids.ofOption {x : Option α} (h : e' ≠ e) :
    Avoids e (ofOption x e' : Prog σ ε α) :=
  fun _ hx => h (ofOption_error.mp hx).2

theorem Avoids.ite {c : Prop} [Decidable c] {x y : Prog σ ε α} (hx : Avoids e x)
    (hy : Avoids e y) : Avoids e (if c then x else y) := by
  split
  · exact hx
  · exact hy

/-- Whatever the program returns has the property. -/
def Yields (P : α → Prop) (x : Prog σ ε α) : Prop := ∀ ⦃s a s'⦄, x s = .ok (a, s') → P a

/-- What the program yields is known of related runs. -/
theorem Relates.yields {R : σ → σ → Prop} {Q : α → σ → σ → Prop} {P : α → Prop}
    (hx : Relates R x Q) (hP : Yields P x) : Relates R x fun a s s' => P a ∧ Q a s s' := by
  intro s s' hR a s₁ h
  obtain ⟨s₁', h', hQ⟩ := hx hR h
  exact ⟨s₁', h', hP h, hQ⟩

theorem Yields.pure {P : α → Prop} {a : α} (h : P a) : Yields P (pure a : Prog σ ε α) := by
  intro s a' s' hpure
  obtain ⟨rfl, -⟩ := pure_ok.mp hpure
  exact h

theorem Yields.bind {P : β → Prop} (hf : ∀ a, Yields P (f a)) : Yields P (x >>= f) := by
  intro s b s' h
  obtain ⟨a, s₁, -, hrest⟩ := bind_ok.mp h
  exact hf a hrest

/-- Past a check, what it rejects is excluded. -/
theorem Yields.rejectIf {P : β → Prop} {c : Prop} [Decidable c] {f : Unit → Prog σ ε β}
    (hf : ¬ c → Yields P (f ())) : Yields P (rejectIf c e >>= f) := by
  intro s b s' h
  obtain ⟨_, s₁, hreject, hrest⟩ := bind_ok.mp h
  exact hf (rejectIf_ok.mp hreject).1 hrest

end Judgments

/-! ## The same readings for a computation without a state -/

section Except

variable {e : ε}

theorem except_bind_ok {x : Except ε α} {f : α → Except ε β} {b : β} :
    (x >>= f) = .ok b ↔ ∃ a, x = .ok a ∧ f a = .ok b := by
  cases x <;> simp [Bind.bind, Except.bind]

theorem except_bind_error {x : Except ε α} {f : α → Except ε β} :
    (x >>= f) = .error e ↔ x = .error e ∨ ∃ a, x = .ok a ∧ f a = .error e := by
  cases x <;> simp [Bind.bind, Except.bind]

theorem except_pure_ok {a a' : α} : (pure a : Except ε α) = .ok a' ↔ a = a' := by
  simp [Pure.pure, Except.pure]

theorem except_pure_error {a : α} : (pure a : Except ε α) = .error e ↔ False := by
  simp [Pure.pure, Except.pure]

/-- `x.ok_or(e)`, and `x.unwrap()` when `e` stands for the panic. -/
def okOr (x : Option α) (e : ε) : Except ε α :=
  match x with
  | some a => .ok a
  | none => .error e

theorem okOr_ok {x : Option α} {a : α} : okOr x e = .ok a ↔ x = some a := by
  cases x <;> simp [okOr]

theorem okOr_error {x : Option α} {e' : ε} : okOr x e' = .error e ↔ x = none ∧ e' = e := by
  cases x <;> simp [okOr]

/-- `if c { return Err(e) }`, without a state. -/
def check (c : Prop) [Decidable c] (e : ε) : Except ε Unit := if c then .error e else .ok ()

theorem check_ok {c : Prop} [Decidable c] {u : Unit} : check c e = .ok u ↔ ¬ c := by
  unfold check
  split <;> simp [*]

theorem check_error {c : Prop} [Decidable c] {e' : ε} : check c e' = .error e ↔ c ∧ e' = e := by
  unfold check
  split <;> simp [*]

theorem except_bind_ne {x : Except ε α} {f : α → Except ε β} (hx : x ≠ .error e)
    (hf : ∀ a, f a ≠ .error e) : (x >>= f) ≠ .error e := by
  intro h
  rcases except_bind_error.mp h with h | ⟨a, -, h⟩
  · exact hx h
  · exact hf a h

theorem except_pure_ne {a : α} : (pure a : Except ε α) ≠ .error e :=
  fun h => except_pure_error.mp h

theorem okOr_ne {x : Option α} {e' : ε} (h : e' ≠ e) : okOr x e' ≠ .error e :=
  fun hx => h (okOr_error.mp hx).2

theorem check_ne {c : Prop} [Decidable c] {e' : ε} (h : e' ≠ e) : check c e' ≠ .error e :=
  fun hc => h (check_error.mp hc).2

/-- Steps that absorb each other: when a step makes every later one do what it would have
    done alone, the last of a list is the whole list. -/
theorem foldlM_absorb {f : α → β → Except ε α} {P : α → β → Prop} {le : β → β → Prop}
    (hok : ∀ {a b}, P a b → ∃ a', f a b = .ok a')
    (habsorb : ∀ {a b c a'}, P a b → le b c → f a b = .ok a' → P a' c ∧ f a' c = f a c)
    {a : α} {bs : List β} {b : β} (hsorted : (bs ++ [b]).Pairwise le)
    (hP : ∀ c ∈ bs ++ [b], P a c) : (bs ++ [b]).foldlM f a = f a b := by
  induction bs generalizing a with
  | nil =>
    obtain ⟨a', h⟩ := hok (hP b (List.mem_singleton_self b))
    simp [h, Bind.bind, Except.bind, Pure.pure, Except.pure]
  | cons c bs ih =>
    have hc := hP c List.mem_cons_self
    obtain ⟨a', h⟩ := hok hc
    rw [List.cons_append, List.pairwise_cons] at hsorted
    obtain ⟨hle, hrest⟩ := hsorted
    have hstep : ((c :: bs) ++ [b]).foldlM f a = (bs ++ [b]).foldlM f a' := by
      simp [List.foldlM_cons, h, Bind.bind, Except.bind]
    rw [hstep, ih hrest fun x hx => (habsorb hc (hle x hx) h).1]
    exact (habsorb hc (hle b (by simp)) h).2

end Except

end Prog
