import AlmController.Entrypoint
import AlmController.Lib.Trace

/-!
# Transactions and runs

What can happen to the world, in two granularities.

A **move** is one call of this program, a change that other programs make to their
own accounts, or the passage of time. Runs of moves put no order on anything: any
instruction may follow any other, with any transaction around it.

A **transaction** is a list of top-level instructions that commits as a whole or not
at all. An instruction of this program is one call; an instruction of another
program does whatever it does, calls of this program included, all of which see the
position of that instruction. Runs of transactions are runs of moves
(`Commits.trace`).

Who signs is settled here: a signature comes from outside, so nobody signs for an
address derived from this program.
-/

namespace AlmController

open Prog

variable [Chain]

/-! ## Token accounts at associated addresses -/

/-- The associated token account of a wallet for a mint. -/
def associatedTokenAddress (wallet tokenProgram mint : Pubkey) : Option Pubkey :=
  (Chain.tryFindProgramAddress [wallet.bytes, tokenProgram.bytes, mint.bytes]
    ASSOCIATED_TOKEN_PROGRAM_ID).map Prod.fst

/-- A token account at an associated address is of the mint that the address is
    derived from: only the associated token program creates accounts there. -/
def Bank.WellFormed (bank : Bank) : Prop :=
  ∀ wallet tokenProgram mint k t, associatedTokenAddress wallet tokenProgram mint = some k →
    bank.token? k = some t → t.mint = mint

/-! ## Moves -/

inductive Move
  /-- Other programs changed their accounts. -/
  | env (bank : Bank)
  | tick (clock : Clock)
  | call (tx : TxContext) (accounts : List AccountMeta) (data : List UInt8)

/-- Every signature of the accounts can come from outside. -/
def SignersPresent (accounts : List AccountMeta) : Prop :=
  ∀ a ∈ accounts, a.isSigner = true → Chain.canSign a.pubkey = true

instance (accounts : List AccountMeta) : Decidable (SignersPresent accounts) :=
  inferInstanceAs (Decidable (∀ a ∈ accounts, _))

/-- A move that succeeds. One that fails changes nothing and is no move. -/
inductive Moves : World → Move → World → Prop
  | env {w : World} {bank : Bank} : bank.WellFormed → Moves w (.env bank) (w.setBank bank)
  | tick {w : World} {clock : Clock} : Moves w (.tick clock) { w with clock := clock }
  | call {w w' : World} {tx : TxContext} {accounts : List AccountMeta} {data : List UInt8} :
      SignersPresent accounts → processInstruction tx accounts data w = .ok ((), w') →
        Moves w (.call tx accounts data) w'

/-- Before anything happened: the program owns no account. -/
structure World.Genesis (w : World) : Prop where
  keel : ∀ k, w.keel k = none
  bank : w.bank.WellFormed
  log : w.log = []

/-- The states that moves lead to. -/
def Reachable (w : World) : Prop :=
  ∃ w₀ steps, World.Genesis w₀ ∧ Trace Moves w₀ steps w

/-! ## Transactions -/

/-- What an instruction of another program does that matters here. -/
inductive Action
  | env (bank : Bank)
  | call (accounts : List AccountMeta) (data : List UInt8)

/-- A top-level instruction, and its actions should it be one of another program. -/
structure TopLevel where
  ix : Instruction
  inner : List Action

structure Transaction where
  topLevel : List TopLevel
  length_lt : topLevel.length < 2 ^ 16

namespace Transaction

def instructions (t : Transaction) : List Instruction := t.topLevel.map TopLevel.ix

/-- What the instructions sysvar shows during top-level instruction `i`. -/
def context (t : Transaction) (i : Fin t.topLevel.length) : TxContext where
  instructions := t.instructions
  current := i.cast (by rw [instructions, List.length_map])
  length_lt := by
    rw [instructions, List.length_map]
    exact t.length_lt

end Transaction

def Action.move (tx : TxContext) : Action → Move
  | .env bank => .env bank
  | .call accounts data => .call tx accounts data

/-- The moves of a top-level instruction. -/
def TopLevel.moves (tx : TxContext) (top : TopLevel) : List Move :=
  if top.ix.programId = ID then [.call tx top.ix.accounts top.ix.data]
  else top.inner.map (Action.move tx)

/-- The moves of a transaction, in order. -/
def Transaction.moves (t : Transaction) : List Move :=
  (List.finRange t.topLevel.length).flatMap fun i => (t.topLevel.get i).moves (t.context i)

/-- The transaction commits, with these steps. -/
def Commits (w : World) (t : Transaction) (steps : List (Step World Move)) (w' : World) : Prop :=
  Trace Moves w steps w' ∧ steps.map Step.move = t.moves

/-- The states between transactions. -/
inductive Committed : World → Prop
  | genesis {w : World} : World.Genesis w → Committed w
  | env {w : World} {bank : Bank} : Committed w → bank.WellFormed → Committed (w.setBank bank)
  | tick {w : World} {clock : Clock} : Committed w → Committed { w with clock := clock }
  | commit {w w' : World} {t : Transaction} {steps : List (Step World Move)} :
      Committed w → Commits w t steps w' → Committed w'

theorem Committed.reachable {w : World} (h : Committed w) : Reachable w := by
  induction h with
  | genesis h => exact ⟨_, [], h, .nil⟩
  | env _ hbank ih =>
    obtain ⟨w₀, steps, hgenesis, htrace⟩ := ih
    exact ⟨w₀, _, hgenesis, htrace.append (.single (.env hbank))⟩
  | tick _ ih =>
    obtain ⟨w₀, steps, hgenesis, htrace⟩ := ih
    exact ⟨w₀, _, hgenesis, htrace.append (.single .tick)⟩
  | commit _ hcommits ih =>
    obtain ⟨w₀, steps, hgenesis, htrace⟩ := ih
    exact ⟨w₀, _, hgenesis, htrace.append hcommits.1⟩

/-- A run of transactions that commit, with what happens between them, and all of its steps. -/
inductive Run : World → List (Step World Move) → World → Prop
  | nil {w : World} : Run w [] w
  | env {w w' : World} {steps : List (Step World Move)} {bank : Bank} : Run w steps w' →
      bank.WellFormed → Run w (steps ++ [⟨w', .env bank, w'.setBank bank⟩]) (w'.setBank bank)
  | tick {w w' : World} {steps : List (Step World Move)} {clock : Clock} : Run w steps w' →
      Run w (steps ++ [⟨w', .tick clock, { w' with clock := clock }⟩]) { w' with clock := clock }
  | commit {w w' w'' : World} {t : Transaction} {steps steps' : List (Step World Move)} :
      Run w steps w' → Commits w' t steps' w'' → Run w (steps ++ steps') w''

theorem Run.trans {w w' w'' : World} {steps steps' : List (Step World Move)} (h : Run w steps w')
    (h' : Run w' steps' w'') : Run w (steps ++ steps') w'' := by
  induction h' with
  | nil =>
    rw [List.append_nil]
    exact h
  | env _ hbank ih =>
    rw [← List.append_assoc]
    exact ih.env hbank
  | tick _ ih =>
    rw [← List.append_assoc]
    exact ih.tick
  | commit _ hcommits ih =>
    rw [← List.append_assoc]
    exact ih.commit hcommits

theorem Run.committed {w w' : World} {steps : List (Step World Move)} (h : Run w steps w')
    (hw : Committed w) : Committed w' := by
  induction h with
  | nil => exact hw
  | env _ hbank ih => exact .env ih hbank
  | tick _ ih => exact .tick ih
  | commit _ hcommits ih => exact .commit ih hcommits

/-- Runs of transactions are runs of moves. -/
theorem Run.trace {w w' : World} {steps : List (Step World Move)} (h : Run w steps w') :
    Trace Moves w steps w' := by
  induction h with
  | nil => exact .nil
  | env _ hbank ih => exact ih.append (.single (.env hbank))
  | tick _ ih => exact ih.append (.single .tick)
  | commit _ hcommits ih => exact ih.append hcommits.1

/-- The states between transactions are those that runs lead to. -/
theorem Committed.run {w : World} (h : Committed w) :
    ∃ w₀ steps, World.Genesis w₀ ∧ Run w₀ steps w := by
  induction h with
  | genesis h => exact ⟨_, [], h, .nil⟩
  | env _ hbank ih =>
    obtain ⟨w₀, steps, hgenesis, hrun⟩ := ih
    exact ⟨w₀, _, hgenesis, hrun.env hbank⟩
  | tick _ ih =>
    obtain ⟨w₀, steps, hgenesis, hrun⟩ := ih
    exact ⟨w₀, _, hgenesis, hrun.tick⟩
  | commit _ hcommits ih =>
    obtain ⟨w₀, steps, hgenesis, hrun⟩ := ih
    exact ⟨w₀, _, hgenesis, hrun.commit hcommits⟩

end AlmController
