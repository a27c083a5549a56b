import AlmController.Spec.Introspection
import AlmController.Spec.Sound

/-!
# The order of a transaction's moves

Where a move stands in its transaction is what introspection looks at. The moves of a
transaction come in the order of its top-level instructions (`Transaction.moves_sorted`),
a top-level instruction of this program is one move, and so the last instruction, when it
is one of this program, is the last move (`Commits.last`).
-/

namespace AlmController

variable [Chain]

variable {t : Transaction} {tx : TxContext} {accounts : List AccountMeta} {data : List UInt8}
  {w w' : World} {steps steps' : List (Step World Move)}

/-! ## Positions -/

/-- The top-level instruction that a move descends from. -/
def Move.position : Move → Option Nat
  | .call tx _ _ => some tx.current
  | _ => none

namespace Transaction

omit [Chain]

theorem context_instructions {i : Fin t.topLevel.length} :
    (t.context i).instructions = t.instructions := rfl

theorem length_instructions : t.instructions.length = t.topLevel.length := List.length_map _

/-- How a call comes about in top-level instruction `i`: it is the instruction, or one of
    another program makes it. -/
inductive Makes (t : Transaction) (i : Fin t.topLevel.length) (accounts : List AccountMeta)
    (data : List UInt8) : Prop
  | direct : (t.topLevel.get i).ix = ⟨ID, accounts, data⟩ → Makes t i accounts data
  | inner : (t.topLevel.get i).ix.programId ≠ ID →
      .call accounts data ∈ (t.topLevel.get i).inner → Makes t i accounts data

/-- Every call of a transaction belongs to one of its top-level instructions. -/
theorem call_mem (h : .call tx accounts data ∈ t.moves) :
    ∃ i, tx = t.context i ∧ t.Makes i accounts data := by
  obtain ⟨i, -, hmem⟩ := List.mem_flatMap.mp h
  refine ⟨i, ?_⟩
  unfold TopLevel.moves at hmem
  by_cases hid : (t.topLevel.get i).ix.programId = ID
  · rw [if_pos hid] at hmem
    obtain ⟨rfl, rfl, rfl⟩ := Move.call.inj (List.mem_singleton.mp hmem)
    refine ⟨rfl, .direct ?_⟩
    rw [← hid]
  · rw [if_neg hid] at hmem
    obtain ⟨action, haction, heq⟩ := List.mem_map.mp hmem
    cases action with
    | env => cases heq
    | call =>
      obtain ⟨rfl, rfl, rfl⟩ := Move.call.inj heq
      exact ⟨rfl, .inner hid haction⟩

/-- One move comes no later than the other, and before it when it is a call of this program
    at top level. -/
def Precedes (t : Transaction) (m m' : Move) : Prop :=
  ∀ i ∈ m.position, ∀ j ∈ m'.position,
    i ≤ j ∧ (i = j → ∀ ix, t.instructions[i]? = some ix → ix.programId ≠ ID)

theorem position_of_mem {i : Fin t.topLevel.length} {m : Move} {n : Nat}
    (h : m ∈ (t.topLevel.get i).moves (t.context i)) (hn : n ∈ m.position) : n = i := by
  unfold TopLevel.moves at h
  split at h
  · rw [List.mem_singleton.mp h] at hn
    exact (Option.some.inj hn).symm
  · obtain ⟨action, -, rfl⟩ := List.mem_map.mp h
    cases action with
    | env => cases hn
    | call => exact (Option.some.inj hn).symm

theorem getElem?_instructions {i : Fin t.topLevel.length} :
    t.instructions[(i : Nat)]? = some (t.topLevel.get i).ix := by
  rw [instructions, List.getElem?_map, List.getElem?_eq_getElem i.isLt]
  rfl

/-- **The moves of a transaction are in order.** -/
theorem moves_sorted : t.moves.Pairwise t.Precedes := by
  refine List.pairwise_flatMap.mpr ⟨?_, ?_⟩
  · intro i _
    by_cases hid : (t.topLevel.get i).ix.programId = ID
    · rw [TopLevel.moves, if_pos hid]
      exact List.pairwise_singleton _ _
    · refine List.Pairwise.imp_of_mem ?_
        (List.pairwise_of_forall (R := fun _ _ => True) fun _ _ => trivial)
      intro m m' hm hm' _ a ha b hb
      rw [position_of_mem hm ha, position_of_mem hm' hb]
      refine ⟨le_rfl, fun _ ix hix => ?_⟩
      rw [getElem?_instructions] at hix
      rw [← Option.some.inj hix]
      exact hid
  · refine (List.pairwise_lt_finRange _).imp ?_
    intro i j hij m hm m' hm' a ha b hb
    rw [position_of_mem hm ha, position_of_mem hm' hb]
    refine ⟨Nat.le_of_lt hij, fun heq => ?_⟩
    exact absurd (Fin.ext heq) (Fin.ne_of_lt hij)

/-- The last instruction, when it is one of this program, is the last move. -/
theorem moves_last {ix : Instruction} (hlast : t.instructions[t.instructions.length - 1]? = some ix)
    (hid : ix.programId = ID) : ∃ (moves : List Move) (i : Fin t.topLevel.length),
      t.moves = moves ++ [.call (t.context i) ix.accounts ix.data] ∧
        (i : Nat) + 1 = t.topLevel.length := by
  have hpos : 0 < t.topLevel.length := by
    obtain ⟨hlt, -⟩ := List.getElem?_eq_some_iff.mp hlast
    rw [length_instructions] at hlt
    omega
  rw [length_instructions] at hlast
  have hne : List.finRange t.topLevel.length ≠ [] := by
    intro hnil
    have hlength := congrArg List.length hnil
    rw [List.length_finRange] at hlength
    exact hpos.ne' hlength
  let i : Fin t.topLevel.length := ⟨t.topLevel.length - 1, by omega⟩
  have hi : (List.finRange t.topLevel.length).getLast hne = i := by
    rw [List.getLast_eq_getElem]
    simp [i]
  have hix : (t.topLevel.get i).ix = ix := by
    have hget := getElem?_instructions (t := t) (i := i)
    rw [hlast] at hget
    exact (Option.some.inj hget).symm
  refine ⟨(List.finRange t.topLevel.length).dropLast.flatMap fun i =>
    (t.topLevel.get i).moves (t.context i), i, ?_, Nat.succ_pred_eq_of_pos hpos⟩
  rw [moves]
  conv_lhs => rw [← List.dropLast_append_getLast hne, hi, List.flatMap_append]
  rw [List.flatMap_singleton, TopLevel.moves, hix, if_pos hid]

end Transaction

/-! ## Steps -/

theorem Commits.pairwise (h : Commits w t steps w') :
    steps.Pairwise fun s s' => t.Precedes s.move s'.move := by
  refine List.pairwise_map.mp ?_
  rw [h.2]
  exact Transaction.moves_sorted

/-- **The last instruction of this program is the last step**, and ends the run. -/
theorem Commits.last {ix : Instruction} (h : Commits w t steps w')
    (hlast : t.instructions[t.instructions.length - 1]? = some ix) (hid : ix.programId = ID) :
    ∃ (before : List (Step World Move)) (step : Step World Move) (i : Fin t.topLevel.length),
      steps = before ++ [step] ∧
      step.move = .call (t.context i) ix.accounts ix.data ∧ step.after = w' ∧
        (i : Nat) + 1 = t.topLevel.length := by
  obtain ⟨moves, i, hmoves, hi⟩ := Transaction.moves_last hlast hid
  have hmap := h.2
  rw [hmoves] at hmap
  obtain ⟨before, rest, rfl, -, hrest⟩ := List.map_eq_append_iff.mp hmap
  obtain ⟨step, rfl, hstep⟩ := List.map_eq_singleton_iff.mp hrest
  exact ⟨before, step, i, rfl, hstep, h.1.eq_last, hi⟩

end AlmController
