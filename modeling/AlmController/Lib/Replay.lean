import Mathlib.Logic.Function.Basic

/-!
# Replaying a journal

A table, and a journal of the updates made to it. An update says where it was made, what was
there, and what is there now.

`replay` makes the updates of a journal once more. A journal is `Truthful` about a table when each
update says what the ones before it left, and it `Covers` the way from one table to another when
it is truthful and replaying it leads there. Covering composes, so a system whose steps each cover
their own change can be rebuilt from its journal.
-/

/-- One update of a table. -/
structure Update (κ α : Type) where
  key : κ
  old : Option α
  new : Option α

namespace Update

variable {κ α β : Type} [DecidableEq κ]

/-- The table after the update. -/
def apply (T : κ → Option α) (u : Update κ α) : κ → Option α := Function.update T u.key u.new

/-- The update as it shows in a view of the values. -/
def map (f : α → β) (u : Update κ α) : Update κ β := ⟨u.key, u.old.map f, u.new.map f⟩

theorem apply_self {T : κ → Option α} {u : Update κ α} : u.apply T u.key = u.new :=
  Function.update_self ..

theorem apply_of_ne {T : κ → Option α} {u : Update κ α} {k : κ} (h : k ≠ u.key) :
    u.apply T k = T k := Function.update_of_ne h ..

end Update

variable {κ α : Type} [DecidableEq κ]

/-- The table after all updates of a journal, in order. -/
def replay (T : κ → Option α) (us : List (Update κ α)) : κ → Option α := us.foldl Update.apply T

/-- Each update says what was there when it was made. -/
inductive Truthful : (κ → Option α) → List (Update κ α) → Prop
  | nil {T : κ → Option α} : Truthful T []
  | cons {T : κ → Option α} {u : Update κ α} {us : List (Update κ α)} :
      T u.key = u.old → Truthful (u.apply T) us → Truthful T (u :: us)

/-- The journal tells how the first table became the second. -/
structure Covers (T : κ → Option α) (us : List (Update κ α)) (T' : κ → Option α) : Prop where
  truthful : Truthful T us
  replayed : replay T us = T'

section Replay

variable {T T' T'' : κ → Option α} {us us' : List (Update κ α)} {u : Update κ α} {k : κ}

theorem replay_append : replay T (us ++ us') = replay (replay T us) us' := List.foldl_append

/-- Where no update was made, replaying changes nothing. -/
theorem replay_of_forall_ne (h : ∀ u ∈ us, u.key ≠ k) : replay T us k = T k := by
  induction us generalizing T with
  | nil => rfl
  | cons u us ih =>
    have hrest := ih (T := u.apply T) fun u' hu' => h u' (List.mem_cons_of_mem u hu')
    rw [Update.apply_of_ne (h u List.mem_cons_self).symm] at hrest
    exact hrest

theorem Truthful.append (h : Truthful T us) (h' : Truthful (replay T us) us') :
    Truthful T (us ++ us') := by
  induction h with
  | nil => exact h'
  | cons hold _ ih => exact .cons hold (ih h')

end Replay

namespace Covers

variable {T T' T'' : κ → Option α} {us us' : List (Update κ α)} {u u' : Update κ α}

theorem refl : Covers T [] T := ⟨.nil, rfl⟩

theorem trans (h : Covers T us T') (h' : Covers T' us' T'') : Covers T (us ++ us') T'' := by
  have htold := h'.truthful
  rw [← h.replayed] at htold
  refine ⟨h.truthful.append htold, ?_⟩
  rw [replay_append, h.replayed, h'.replayed]

/-- Nothing to tell. -/
theorem of_eq (h : T' = T) : Covers T [] T' := by
  rw [h]
  exact .refl

/-- One update, and nothing else changed. -/
theorem single (hold : T u.key = u.old) (hnew : T' u.key = u.new)
    (hframe : ∀ k, k ≠ u.key → T' k = T k) : Covers T [u] T' := by
  refine ⟨.cons hold .nil, ?_⟩
  funext k
  by_cases hk : k = u.key
  · rw [hk, hnew]
    exact Update.apply_self
  · rw [hframe k hk]
    exact Update.apply_of_ne hk

/-- Two updates of different keys, and nothing else changed. -/
theorem pair (hne : u'.key ≠ u.key) (hold : T u.key = u.old) (hold' : T u'.key = u'.old)
    (hnew : T' u.key = u.new) (hnew' : T' u'.key = u'.new)
    (hframe : ∀ k, k ≠ u.key → k ≠ u'.key → T' k = T k) : Covers T [u, u'] T' := by
  have hfirst : Covers T [u] (u.apply T) :=
    single hold Update.apply_self fun k hk => Update.apply_of_ne hk
  refine hfirst.trans (single ?_ hnew' ?_)
  · rw [Update.apply_of_ne hne, hold']
  · intro k hk'
    by_cases hk : k = u.key
    · rw [hk, hnew, Update.apply_self]
    · rw [Update.apply_of_ne hk, hframe k hk hk']

end Covers
