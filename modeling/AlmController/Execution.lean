import AlmController.Spec.Clocked
import AlmController.Spec.Laws

/-!
# Running the program

`Moves` says which moves succeed, and here they are computed: a transaction, by running its
moves one after the other, and a history, which is a list of transactions, of token
transfers that other programs make, and of waits. What fails changes nothing.

Every state a history leads to is one that the theorems are about (`play_attained`), so a
history is how an example state is given.
-/

namespace AlmController

open Prog

variable [Chain]

/-! ## Transactions -/

/-- The state after a call, when it succeeds. -/
def World.call (w : World) (tx : TxContext) (accounts : List AccountMeta) (data : List UInt8) :
    Option World :=
  if SignersPresent accounts then
    match processInstruction tx accounts data w with
    | .ok (_, w') => some w'
    | .error _ => none
  else none

/-- The moves of a transaction, one after the other. -/
def World.run (w : World) : List Move → Option (List (Step World Move) × World)
  | [] => some ([], w)
  | .call tx accounts data :: moves => do
    let w₁ ← w.call tx accounts data
    let (steps, w') ← w₁.run moves
    return (⟨w, .call tx accounts data, w₁⟩ :: steps, w')
  | .env bank :: moves => do
    let (steps, w') ← (w.setBank bank).run moves
    return (⟨w, .env bank, w.setBank bank⟩ :: steps, w')
  | .tick _ :: _ => none

variable {w w' : World} {tx : TxContext} {accounts : List AccountMeta} {data : List UInt8}
  {steps : List (Step World Move)}

theorem World.call_moves (h : w.call tx accounts data = some w') :
    Moves w (.call tx accounts data) w' := by
  unfold World.call at h
  split at h
  case isFalse => cases h
  rename_i hsigners
  split at h
  · rename_i hrun
    exact .call hsigners (Option.some.inj h ▸ hrun)
  · cases h

/-- A call that is known to succeed moves to where it leads. -/
theorem World.call_getD_moves (h : (w.call tx accounts data).isSome) :
    Moves w (.call tx accounts data) ((w.call tx accounts data).getD w) := by
  obtain ⟨w', hw'⟩ := Option.isSome_iff_exists.mp h
  rw [hw', Option.getD_some]
  exact World.call_moves hw'

theorem World.run_trace {moves : List Move} (h : w.run moves = some (steps, w'))
    (henv : ∀ bank, .env bank ∈ moves → bank.WellFormed) :
    Trace Moves w steps w' ∧ steps.map Step.move = moves ∧
      ∀ s ∈ steps, s.after.clock = s.before.clock := by
  induction moves generalizing w steps with
  | nil =>
    obtain ⟨rfl, rfl⟩ := Prod.mk.inj (Option.some.inj h)
    exact ⟨.nil, rfl, fun _ hs => absurd hs List.not_mem_nil⟩
  | cons m moves ih =>
    have henv' := fun bank hmem => henv bank (List.mem_cons_of_mem m hmem)
    cases m with
    | tick => cases h
    | env bank =>
      obtain ⟨⟨rest, w₂⟩, hrest, h⟩ := Option.bind_eq_some_iff.mp h
      obtain ⟨rfl, rfl⟩ := Prod.mk.inj (Option.some.inj h)
      obtain ⟨htrace, hmoves, hclock⟩ := ih hrest henv'
      refine ⟨.cons (.env (henv bank List.mem_cons_self)) htrace, by rw [List.map_cons, hmoves], ?_⟩
      exact List.forall_mem_cons.mpr ⟨rfl, hclock⟩
    | call tx accounts data =>
      obtain ⟨w₁, hcall, h⟩ := Option.bind_eq_some_iff.mp h
      obtain ⟨⟨rest, w₂⟩, hrest, h⟩ := Option.bind_eq_some_iff.mp h
      obtain ⟨rfl, rfl⟩ := Prod.mk.inj (Option.some.inj h)
      obtain ⟨htrace, hmoves, hclock⟩ := ih hrest henv'
      have hmove := World.call_moves hcall
      obtain ⟨es, heffect⟩ := hmove.effect
      refine ⟨.cons hmove htrace, by rw [List.map_cons, hmoves], ?_⟩
      exact List.forall_mem_cons.mpr ⟨heffect.clock, hclock⟩

/-- The transaction, when all its moves succeed. -/
def World.submit (w : World) (t : Transaction) : Option (List (Step World Move) × World) :=
  w.run t.moves

theorem World.submit_commits {t : Transaction} (h : w.submit t = some (steps, w'))
    (henv : ∀ bank, .env bank ∈ t.moves → bank.WellFormed) : Commits w t steps w' :=
  ⟨(World.run_trace h henv).1, (World.run_trace h henv).2.1⟩

/-- A transaction of instructions of this program. -/
def Transaction.ofInstructions (instructions : List Instruction)
    (h : instructions.length < 2 ^ 16) : Transaction where
  topLevel := instructions.map fun ix => ⟨ix, []⟩
  length_lt := by
    rw [List.length_map]
    exact h

omit [Chain] in
/-- It does nothing but call them. -/
theorem Transaction.ofInstructions_move {instructions : List Instruction}
    {h : instructions.length < 2 ^ 16} {m : Move}
    (hmem : m ∈ (Transaction.ofInstructions instructions h).moves) :
    ∃ ix ∈ instructions, ∃ tx, m = .call tx ix.accounts ix.data := by
  obtain ⟨i, -, hmem⟩ := List.mem_flatMap.mp hmem
  obtain ⟨ix, hix, heq⟩ := List.mem_map.mp
    (List.get_mem (Transaction.ofInstructions instructions h).topLevel i)
  unfold TopLevel.moves at hmem
  rw [← heq] at hmem
  split at hmem
  · exact ⟨ix, hix, _, List.mem_singleton.mp hmem⟩
  · exact absurd hmem List.not_mem_nil

omit [Chain] in
theorem Transaction.ofInstructions_env {instructions : List Instruction}
    {h : instructions.length < 2 ^ 16} {bank : Bank} :
    .env bank ∉ (Transaction.ofInstructions instructions h).moves := by
  intro hmem
  obtain ⟨ix, -, tx, heq⟩ := Transaction.ofInstructions_move hmem
  cases heq

/-! ## Histories -/

inductive Happening
  /-- Time passes; a clock that would go back is ignored. -/
  | wait (clock : Clock)
  /-- Someone else transfers tokens. -/
  | transfer (ix : TransferChecked)
  /-- A transaction of instructions of this program. -/
  | submit (instructions : List Instruction) (h : instructions.length < 2 ^ 16)

/-- Neither the time nor the slot goes back. -/
def Clock.Precedes (clock clock' : Clock) : Prop :=
  clock.unixTimestamp.toInt ≤ clock'.unixTimestamp.toInt ∧ clock.slot.toNat ≤ clock'.slot.toNat

instance (clock clock' : Clock) : Decidable (clock.Precedes clock') :=
  inferInstanceAs (Decidable (_ ∧ _))

def World.happen (w : World) : Happening → World
  | .wait clock => if w.clock.Precedes clock then { w with clock := clock } else w
  | .transfer ix => ((Chain.invoke w.clock (.transferChecked ix) [] w.bank).map w.setBank).getD w
  | .submit instructions h => ((w.submit (.ofInstructions instructions h)).map Prod.snd).getD w

def World.play (w : World) (hs : List Happening) : World := hs.foldl World.happen w

/-- Between transactions, on a run whose clock started after the epoch and never went back. -/
structure Attained (w : World) : Prop where
  committed : Committed w
  run : ∃ w₀ steps, World.Genesis w₀ ∧ 0 ≤ w₀.clock.unixTimestamp.toInt ∧ Trace Moves w₀ steps w ∧
    ∀ s ∈ steps, s.before.clock.Precedes s.after.clock

theorem Attained.genesis (h : World.Genesis w) (hnow : 0 ≤ w.clock.unixTimestamp.toInt) :
    Attained w :=
  ⟨.genesis h, w, [], h, hnow, .nil, fun _ hs => absurd hs List.not_mem_nil⟩

/-- A run may go on. -/
theorem Attained.append (h : Attained w) (hcommitted : Committed w')
    (htrace : Trace Moves w steps w')
    (hclock : ∀ s ∈ steps, s.before.clock.Precedes s.after.clock) : Attained w' := by
  obtain ⟨w₀, steps₀, hgenesis, hnow, htrace₀, hclock₀⟩ := h.run
  refine ⟨hcommitted, w₀, _, hgenesis, hnow, htrace₀.append htrace, ?_⟩
  intro s hs
  rcases List.mem_append.mp hs with hs | hs
  · exact hclock₀ s hs
  · exact hclock s hs

theorem Attained.happen (laws : TokenLaws) (h : Attained w) (e : Happening) :
    Attained (w.happen e) := by
  cases e with
  | wait clock =>
    show Attained (if w.clock.Precedes clock then { w with clock := clock } else w)
    split
    · rename_i hle
      refine h.append (.tick h.committed) (.single .tick) ?_
      intro s hs
      obtain rfl := List.mem_singleton.mp hs
      exact hle
    · exact h
  | transfer ix =>
    show Attained
      (((Chain.invoke w.clock (.transferChecked ix) [] w.bank).map w.setBank).getD w)
    cases hinvoke : Chain.invoke w.clock (.transferChecked ix) [] w.bank with
    | none => exact h
    | some bank =>
      have hbank := laws.wellFormed hinvoke (h.committed.reachable.wellFormed laws)
      refine h.append (.env h.committed hbank) (.single (.env hbank)) ?_
      intro s hs
      obtain rfl := List.mem_singleton.mp hs
      exact ⟨le_rfl, le_rfl⟩
  | submit instructions hlen =>
    show Attained (((w.submit (.ofInstructions instructions hlen)).map Prod.snd).getD w)
    cases hsubmit : w.submit (.ofInstructions instructions hlen) with
    | none => exact h
    | some result =>
      obtain ⟨steps, w'⟩ := result
      have henv : ∀ bank, .env bank ∈ (Transaction.ofInstructions instructions hlen).moves →
          bank.WellFormed := fun _ hmem => absurd hmem Transaction.ofInstructions_env
      obtain ⟨htrace, -, hclock⟩ := World.run_trace hsubmit henv
      refine h.append (.commit h.committed (World.submit_commits hsubmit henv)) htrace ?_
      intro s hs
      rw [hclock s hs]
      exact ⟨le_rfl, le_rfl⟩

/-- **A history attains its states.** -/
theorem Attained.play (laws : TokenLaws) (h : Attained w) (hs : List Happening) :
    Attained (w.play hs) := by
  induction hs generalizing w with
  | nil => exact h
  | cons e hs ih => exact ih (h.happen laws e)

/-! ## The steps of a history -/

/-- The instructions that a happening submits. -/
def Happening.instructions : Happening → List Instruction
  | .submit instructions _ => instructions
  | _ => []

/-- What the step calls, if it calls anything, is one of these instructions. -/
def CallsOnly (instructions : List Instruction) (s : Step World Move) : Prop :=
  ∀ tx accounts data, s.move = .call tx accounts data →
    ∃ ix ∈ instructions, ix.accounts = accounts ∧ ix.data = data

/-- A step of a history: it calls what was submitted, and only invocations change the accounts
    of other programs. -/
structure Historic (instructions : List Instruction) (s : Step World Move) : Prop where
  calls : CallsOnly instructions s
  bank : BankSteps s.before.clock s.before.bank s.after.bank

omit [Chain] in
theorem CallsOnly.mono {submitted submitted' : List Instruction} {s : Step World Move}
    (h : CallsOnly submitted s) (hsubset : submitted ⊆ submitted') : CallsOnly submitted' s := by
  intro tx accounts data hmove
  obtain ⟨ix, hix, heq⟩ := h tx accounts data hmove
  exact ⟨ix, hsubset hix, heq⟩

theorem World.happen_run (laws : TokenLaws) (h : Attained w) (e : Happening) :
    ∃ steps, Run w steps (w.happen e) ∧ ∀ s ∈ steps, Historic e.instructions s := by
  have hstill : ∃ steps, Run w steps w ∧ ∀ s ∈ steps, Historic e.instructions s :=
    ⟨[], .nil, fun _ hs => absurd hs List.not_mem_nil⟩
  cases e with
  | wait clock =>
    show ∃ steps, Run w steps (if w.clock.Precedes clock then { w with clock := clock } else w) ∧ _
    split
    · refine ⟨_, Run.nil.tick, ?_⟩
      intro s hs
      obtain rfl := List.mem_singleton.mp hs
      refine ⟨?_, .refl⟩
      intro tx accounts data hmove
      cases hmove
    · exact hstill
  | transfer ix =>
    show ∃ steps, Run w steps
      (((Chain.invoke w.clock (.transferChecked ix) [] w.bank).map w.setBank).getD w) ∧ _
    cases hinvoke : Chain.invoke w.clock (.transferChecked ix) [] w.bank with
    | none => exact hstill
    | some bank =>
      have hbank := laws.wellFormed hinvoke (h.committed.reachable.wellFormed laws)
      refine ⟨_, Run.nil.env hbank, ?_⟩
      intro s hs
      obtain rfl := List.mem_singleton.mp hs
      refine ⟨?_, .single ⟨_, _, hinvoke⟩⟩
      intro tx accounts data hmove
      cases hmove
  | submit instructions hlen =>
    show ∃ steps, Run w steps
      (((w.submit (.ofInstructions instructions hlen)).map Prod.snd).getD w) ∧ _
    cases hsubmit : w.submit (.ofInstructions instructions hlen) with
    | none => exact hstill
    | some result =>
      obtain ⟨steps, w'⟩ := result
      have hcommits : Commits w (.ofInstructions instructions hlen) steps w' :=
        World.submit_commits hsubmit fun _ hmem => absurd hmem Transaction.ofInstructions_env
      refine ⟨_, Run.nil.commit hcommits, ?_⟩
      intro s hs
      have hmem : s.move ∈ (Transaction.ofInstructions instructions hlen).moves := by
        rw [← hcommits.2]
        exact List.mem_map_of_mem hs
      obtain ⟨ix, hix, tx, hcall⟩ := Transaction.ofInstructions_move hmem
      constructor
      · intro tx' accounts data hmove
        rw [hcall] at hmove
        obtain ⟨-, rfl, rfl⟩ := Move.call.inj hmove
        exact ⟨ix, hix, rfl, rfl⟩
      · have hmove := hcommits.1.step_mem hs
        rw [hcall] at hmove
        obtain ⟨es, heffect⟩ := hmove.effect
        exact heffect.bank

/-- **A history is a run**, whose calls are the instructions submitted. -/
theorem World.play_run (laws : TokenLaws) (h : Attained w) (hs : List Happening) :
    ∃ steps, Run w steps (w.play hs) ∧
      ∀ s ∈ steps, Historic (hs.flatMap Happening.instructions) s := by
  induction hs generalizing w with
  | nil => exact ⟨[], .nil, fun _ hs => absurd hs List.not_mem_nil⟩
  | cons e hs ih =>
    obtain ⟨first, hfirst, hhistoric⟩ := World.happen_run laws h e
    obtain ⟨rest, hrest, hhistoric'⟩ := ih (h.happen laws e)
    refine ⟨_, hfirst.trans hrest, ?_⟩
    intro s hmem
    rw [List.flatMap_cons]
    rcases List.mem_append.mp hmem with hmem | hmem
    · have hstep := hhistoric s hmem
      exact ⟨hstep.calls.mono (List.subset_append_left _ _), hstep.bank⟩
    · have hstep := hhistoric' s hmem
      exact ⟨hstep.calls.mono (List.subset_append_right _ _), hstep.bank⟩

/-! ## What others do -/

/-- The accounts after these transfers of others; one that fails changes nothing. -/
def World.transfers (w : World) (ixs : List TransferChecked) : Bank :=
  ixs.foldl (fun bank ix => (Chain.invoke w.clock (.transferChecked ix) [] bank).getD bank) w.bank

theorem World.transfers_wellFormed (laws : TokenLaws) (hbank : w.bank.WellFormed)
    (ixs : List TransferChecked) : (w.transfers ixs).WellFormed := by
  unfold World.transfers
  generalize w.bank = bank at hbank ⊢
  induction ixs generalizing bank with
  | nil => exact hbank
  | cons ix ixs ih =>
    refine ih _ ?_
    show ((Chain.invoke w.clock (.transferChecked ix) [] bank).getD bank).WellFormed
    cases hinvoke : Chain.invoke w.clock (.transferChecked ix) [] bank with
    | none => exact hbank
    | some bank' => exact laws.wellFormed hinvoke hbank

theorem World.call_wellFormed (laws : TokenLaws) (hbank : w.bank.WellFormed) :
    ((w.call tx accounts data).getD w).bank.WellFormed := by
  cases hcall : w.call tx accounts data with
  | none => exact hbank
  | some w' => exact (World.call_moves hcall).wellFormed laws hbank

theorem Attained.reachable (h : Attained w) : Reachable w := h.committed.reachable

theorem Attained.reachableForward (h : Attained w) : ReachableForward w := by
  obtain ⟨w₀, steps, hgenesis, hnow, htrace, hclock⟩ := h.run
  exact ⟨w₀, steps, hgenesis, hnow, htrace, fun s hs => sub_nonneg.mpr (hclock s hs).1⟩

end AlmController
