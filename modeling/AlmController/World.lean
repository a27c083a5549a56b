import AlmController.Cpi
import AlmController.State.Event

/-!
# The world an instruction runs in

`World` is everything an instruction of this program can read or change: the
accounts the program owns, the accounts of everyone else, the clock, and a log of
what happened. `Chain` is everything it relies on and does not contain: address
derivation, hashing, who can sign, and what the programs it invokes do.

Two design choices carry weight later.

**The program's own accounts are a separate, typed table.** Only their owner can
change account data, so no action of another program can touch them; the type says
so, and no law about invocations has to. A key of that table is owned by `ID`, any
other key has the owner its `ExtAccount` records.

**The log is part of the state.** It records emitted events, invocations together
with the controller whose authority signed them, and (for the limiter's accounts)
every inflow and outflow that was metered. Properties about what an instruction
did are then statements about the log it leaves.
-/

namespace AlmController

open Prog

/-! ## The chain -/

/-- What the program relies on from the runtime and from other programs. -/
class Chain where
  /-- `try_find_program_address`: the address and its bump. -/
  tryFindProgramAddress : List (List UInt8) → Pubkey → Option (Pubkey × UInt8)
  /-- The address that signing with these seeds (bump included) speaks for. -/
  createProgramAddress : List (List UInt8) → Pubkey → Option Pubkey
  /-- The Keccak-256 hash. -/
  keccak : List UInt8 → ByteArr 32
  /-- `Rent::minimum_balance`. -/
  minimumBalance : Nat → UInt64
  /-- Whose signature a transaction, or another program, can bring along. -/
  canSign : Pubkey → Bool
  /-- The effect of an invocation on the accounts of other programs, given the
      addresses this program signs for; `none` when it fails. -/
  invoke : Clock → Cpi → List Pubkey → Bank → Option Bank
  /-- A found address is the one created from the same seeds and the found bump. -/
  find_create : ∀ {seeds : List (List UInt8)} {program key : Pubkey} {bump : UInt8},
    tryFindProgramAddress seeds program = some (key, bump) →
      createProgramAddress (seeds ++ [[bump]]) program = some key
  /-- An address derived from this program has no private key, and no other program
      can sign for it. -/
  pda_cannot_sign : ∀ {seeds : List (List UInt8)} {key : Pubkey},
    createProgramAddress seeds ID = some key → canSign key = false

/-! ## The program's own accounts -/

/-- Data of an account this program owns. `allocated` is an account between its
    creation and its first save: zeroed bytes, which no account type accepts. -/
inductive KeelAccount
  | controller (account : Controller)
  | permission (account : Permission)
  | reserve (account : Reserve)
  | integration (account : Integration)
  | oracle (account : Oracle)
  | allocated (space : Nat)
  deriving DecidableEq, Repr

def Controller.LEN : Nat := 2 + 1 + 1 + 32 + 1 + 128
def Permission.LEN : Nat := 2 * 32 + 10 * 1 + 30
def Reserve.LEN : Nat := 3 * 32 + 1 + 7 * 8 + 120
def Integration.LEN : Nat := 3 * 32 + 1 + 6 * 8 + 225 + 49 + 1 + 87
def Oracle.LEN : Nat := 349

/-- `DISCRIMINATOR_SIZE`. -/
def DISCRIMINATOR_SIZE : Nat := 1

/-- The length of the account's data, discriminator included. -/
def KeelAccount.dataLen : KeelAccount → Nat
  | .controller _ => DISCRIMINATOR_SIZE + Controller.LEN
  | .permission _ => DISCRIMINATOR_SIZE + Permission.LEN
  | .reserve _ => DISCRIMINATOR_SIZE + Reserve.LEN
  | .integration _ => DISCRIMINATOR_SIZE + Integration.LEN
  | .oracle _ => DISCRIMINATOR_SIZE + Oracle.LEN
  | .allocated space => space

abbrev KeelTable := Pubkey → Option KeelAccount

/-! ## The log -/

/-- The account a metered flow was booked on, by what its address is derived from. -/
inductive LimiterId
  | reserve (controller mint : Pubkey)
  | integration (controller : Pubkey) (hash : ByteArr 32)
  deriving DecidableEq, Repr

inductive FlowDirection
  | inflow
  /-- `allowUnderflow` marks an outflow that a sync found, not one it authorized. -/
  | outflow (allowUnderflow : Bool)
  deriving DecidableEq, Repr

inductive LogEntry
  | event (event : SvmAlmControllerEvent)
  /-- An invocation, with the controller whose authority signed it. -/
  | cpi (call : Cpi) (signedFor : Option Pubkey)
  | flow (limiter : LimiterId) (direction : FlowDirection) (amount : UInt64)
  deriving DecidableEq, Repr

/-! ## The world -/

structure World where
  keel : KeelTable
  bank : Bank
  clock : Clock
  log : List LogEntry

/-- Programs of this model: computations over the world. -/
abbrev Ix := Prog World Error

namespace World

/-- Owner of an account. -/
def owner (w : World) (k : Pubkey) : Pubkey :=
  if (w.keel k).isSome then ID else (w.bank k).owner

/-- `data_is_empty`. -/
def dataIsEmpty (w : World) (k : Pubkey) : Prop :=
  w.keel k = none ∧ (w.bank k).data = .bytes []

instance (w : World) (k : Pubkey) : Decidable (w.dataIsEmpty k) :=
  inferInstanceAs (Decidable (_ ∧ _))

/-- The data of an account that another program owns. -/
def data (w : World) (k : Pubkey) : Option ExtData :=
  if (w.keel k).isSome then none else some (w.bank k).data

theorem data_eq_some {w : World} {k : Pubkey} {d : ExtData} :
    w.data k = some d ↔ w.keel k = none ∧ (w.bank k).data = d := by
  unfold data
  cases w.keel k <;> simp

/-- Replace the data of one of the program's accounts. -/
def setKeel (w : World) (k : Pubkey) (a : KeelAccount) : World :=
  { w with keel := Function.update w.keel k (some a) }

def setBank (w : World) (bank : Bank) : World := { w with bank := bank }

def addLog (w : World) (e : LogEntry) : World := { w with log := w.log ++ [e] }

/-! Each update leaves the other components alone. -/

section Frame

variable {w : World} {k k' : Pubkey} {a : KeelAccount} {bank : Bank} {e : LogEntry}

@[simp] theorem setKeel_bank : (w.setKeel k a).bank = w.bank := rfl
@[simp] theorem setKeel_clock : (w.setKeel k a).clock = w.clock := rfl
@[simp] theorem setKeel_log : (w.setKeel k a).log = w.log := rfl
@[simp] theorem setBank_keel : (w.setBank bank).keel = w.keel := rfl
@[simp] theorem setBank_bank : (w.setBank bank).bank = bank := rfl
@[simp] theorem setBank_clock : (w.setBank bank).clock = w.clock := rfl
@[simp] theorem setBank_log : (w.setBank bank).log = w.log := rfl
@[simp] theorem addLog_keel : (w.addLog e).keel = w.keel := rfl
@[simp] theorem addLog_bank : (w.addLog e).bank = w.bank := rfl
@[simp] theorem addLog_clock : (w.addLog e).clock = w.clock := rfl
@[simp] theorem addLog_log : (w.addLog e).log = w.log ++ [e] := rfl

theorem setKeel_keel : (w.setKeel k a).keel = Function.update w.keel k (some a) := rfl

@[simp] theorem setKeel_keel_self : (w.setKeel k a).keel k = some a := by
  rw [setKeel_keel, Function.update_self]

theorem setKeel_keel_of_ne (h : k' ≠ k) : (w.setKeel k a).keel k' = w.keel k' := by
  rw [setKeel_keel, Function.update_of_ne h]

end Frame

end World

/-- Read an account of another program as one kind of data: `try_from_slice` of the
    structure its owner stores there. -/
def readData {α : Type} (k : Pubkey) (proj : ExtData → Option α) : Ix α := do
  let w ← read id
  ofOption ((w.data k).bind proj) (.program .InvalidAccountData)

theorem readData_ok {α : Type} {k : Pubkey} {proj : ExtData → Option α} {a : α} {w w' : World} :
    readData k proj w = .ok (a, w') ↔
      w.keel k = none ∧ proj (w.bank k).data = some a ∧ w = w' := by
  simp only [readData, bind_ok, read_ok, ofOption_ok, id, Option.bind_eq_some_iff,
    World.data_eq_some]
  constructor
  · rintro ⟨_, _, ⟨rfl, rfl⟩, ⟨_, ⟨hkeel, rfl⟩, hproj⟩, hw⟩
    exact ⟨hkeel, hproj, hw⟩
  · rintro ⟨hkeel, hproj, hw⟩
    exact ⟨w, w, ⟨rfl, rfl⟩, ⟨_, ⟨hkeel, rfl⟩, hproj⟩, hw⟩

/-! ## Accounts of an instruction, and the checks on them -/

/-- An account as an instruction receives it. -/
structure AccountMeta where
  pubkey : Pubkey
  isSigner : Bool
  isWritable : Bool
  deriving DecidableEq, Repr

/-- The attributes of `define_account_struct!`. -/
inductive AccountAttr
  | signer
  | writable
  | empty
  deriving DecidableEq, Repr

/-- One field of an account struct: its attributes in order, then the keys and the
    owners it admits (any, when not given). -/
structure AccountSpec where
  attrs : List AccountAttr := []
  pubkey : Option (List Pubkey) := none
  owner : Option (List Pubkey) := none

/-- The checks the macro generates for one attribute. -/
def checkAttr (account : AccountMeta) : AccountAttr → Ix Unit
  | .writable => rejectIf (account.isWritable = false) (.program .Immutable)
  | .signer => rejectIf (account.isSigner = false) (.program .MissingRequiredSignature)
  | .empty => do
    let w ← read id
    rejectIf (¬ w.dataIsEmpty account.pubkey) (.program .AccountAlreadyInitialized)

def checkAttrs (account : AccountMeta) : List AccountAttr → Ix Unit
  | [] => pure ()
  | attr :: attrs => do
    checkAttr account attr
    checkAttrs account attrs

def checkAccount (spec : AccountSpec) (account : AccountMeta) : Ix Unit := do
  checkAttrs account spec.attrs
  rejectIf (¬ spec.pubkey.all (fun keys => keys.contains account.pubkey))
    (.program .IncorrectProgramId)
  let w ← read id
  rejectIf (¬ spec.owner.all (fun owners => owners.contains (w.owner account.pubkey)))
    (.program .InvalidAccountOwner)

/-- The loop of `from_accounts`: consume accounts in order and apply all checks. -/
def checkAccounts : List AccountSpec → List AccountMeta → Ix Unit
  | [], _ => pure ()
  | _ :: _, [] => fail (.program .NotEnoughAccountKeys)
  | spec :: specs, account :: accounts => do
    checkAccount spec account
    checkAccounts specs accounts

/-- What a successful check of one account establishes. -/
structure AccountSpec.Holds (spec : AccountSpec) (w : World) (account : AccountMeta) : Prop where
  writable : .writable ∈ spec.attrs → account.isWritable = true
  signer : .signer ∈ spec.attrs → account.isSigner = true
  empty : .empty ∈ spec.attrs → w.dataIsEmpty account.pubkey
  pubkey : ∀ keys, spec.pubkey = some keys → account.pubkey ∈ keys
  owner : ∀ owners, spec.owner = some owners → w.owner account.pubkey ∈ owners

theorem checkAttrs_ok {account : AccountMeta} {attrs : List AccountAttr} {w w' : World} {u : Unit}
    (h : checkAttrs account attrs w = .ok (u, w')) :
    w' = w ∧ (.writable ∈ attrs → account.isWritable = true) ∧
      (.signer ∈ attrs → account.isSigner = true) ∧
      (.empty ∈ attrs → w.dataIsEmpty account.pubkey) := by
  induction attrs with
  | nil =>
    simp only [checkAttrs, pure_ok] at h
    simp [h.2]
  | cons attr attrs ih =>
    simp only [checkAttrs, bind_ok] at h
    obtain ⟨_, w₁, hattr, h⟩ := h
    have hw : w = w₁ := by
      cases attr <;> simp only [checkAttr, rejectIf_ok, bind_ok, read_ok] at hattr
      · exact hattr.2
      · exact hattr.2
      · obtain ⟨_, _, ⟨rfl, rfl⟩, -, rfl⟩ := hattr
        rfl
    subst hw
    obtain ⟨rfl, hwritable, hsigner, hempty⟩ := ih h
    refine ⟨rfl, ?_, ?_, ?_⟩
    all_goals
      intro hmem
      rcases List.mem_cons.mp hmem with rfl | hmem
    · simpa [checkAttr, rejectIf_ok] using hattr
    · exact hwritable hmem
    · simpa [checkAttr, rejectIf_ok] using hattr
    · exact hsigner hmem
    · simp only [checkAttr, rejectIf_ok, bind_ok, read_ok, id] at hattr
      obtain ⟨_, _, ⟨rfl, rfl⟩, hne, -⟩ := hattr
      exact not_not.mp hne
    · exact hempty hmem

theorem checkAccount_ok {spec : AccountSpec} {account : AccountMeta} {w w' : World} {u : Unit}
    (h : checkAccount spec account w = .ok (u, w')) : w' = w ∧ spec.Holds w account := by
  simp only [checkAccount, bind_ok, rejectIf_ok, read_ok, id] at h
  obtain ⟨_, _, hattrs, _, _, ⟨hkey, rfl⟩, _, _, ⟨rfl, rfl⟩, howner, rfl⟩ := h
  obtain ⟨rfl, hwritable, hsigner, hempty⟩ := checkAttrs_ok hattrs
  refine ⟨rfl, hwritable, hsigner, hempty, ?_, ?_⟩
  · intro keys hkeys
    simpa [hkeys] using hkey
  · intro owners howners
    simpa [howners] using howner

theorem checkAccounts_ok {specs : List AccountSpec} {accounts : List AccountMeta} {w w' : World}
    {u : Unit} (h : checkAccounts specs accounts w = .ok (u, w')) :
    w' = w ∧ ∀ i (hi : i < specs.length), ∃ account,
      accounts[i]? = some account ∧ specs[i].Holds w account := by
  induction specs generalizing accounts with
  | nil =>
    simp only [checkAccounts, pure_ok] at h
    exact ⟨h.2.symm, fun i hi => absurd hi (by simp)⟩
  | cons spec specs ih =>
    cases accounts with
    | nil => simp [checkAccounts, fail_ok] at h
    | cons account accounts =>
      simp only [checkAccounts, bind_ok] at h
      obtain ⟨_, _, haccount, h⟩ := h
      obtain ⟨rfl, hspec⟩ := checkAccount_ok haccount
      obtain ⟨rfl, hspecs⟩ := ih h
      refine ⟨rfl, fun i hi => ?_⟩
      cases i with
      | zero => exact ⟨account, rfl, hspec⟩
      | succ i => simpa using hspecs i (by simpa using hi)

/-- The checks of an account struct passed. -/
def AccountsHold (specs : List AccountSpec) (accounts : List AccountMeta) (w : World) : Prop :=
  checkAccounts specs accounts w = .ok ((), w)

theorem AccountsHold.holds {specs : List AccountSpec} {accounts : List AccountMeta} {w : World}
    (h : AccountsHold specs accounts w) {i : Nat} (hi : i < specs.length) {account : AccountMeta}
    (ha : accounts[i]? = some account) : specs[i].Holds w account := by
  obtain ⟨account', ha', hspec⟩ := (checkAccounts_ok h).2 i hi
  rw [ha] at ha'
  obtain rfl := Option.some.inj ha'
  exact hspec

/-- `from_accounts`: check the accounts in order and bind them to their names. -/
def fromAccounts {α : Type} (specs : List AccountSpec) (bind : List AccountMeta → Option α)
    (accounts : List AccountMeta) : Ix α := do
  checkAccounts specs accounts
  ofOption (bind accounts) (.program .NotEnoughAccountKeys)

theorem fromAccounts_ok {α : Type} {specs : List AccountSpec}
    {bind : List AccountMeta → Option α} {accounts : List AccountMeta} {ctx : α} {w w' : World} :
    fromAccounts specs bind accounts w = .ok (ctx, w') ↔
      AccountsHold specs accounts w ∧ bind accounts = some ctx ∧ w = w' := by
  simp only [fromAccounts, bind_ok, ofOption_ok, AccountsHold]
  constructor
  · rintro ⟨_, _, hcheck, hbind, rfl⟩
    obtain ⟨rfl, -⟩ := checkAccounts_ok hcheck
    exact ⟨hcheck, hbind, rfl⟩
  · rintro ⟨hcheck, hbind, rfl⟩
    exact ⟨(), w, hcheck, hbind, rfl⟩

/-- `try_from_slice(instruction_data)`. -/
def parseArgs (α : Type) [Borsh α] (data : List UInt8) : Ix α :=
  ofOption (Borsh.tryFromSlice data) (.program .InvalidInstructionData)

theorem parseArgs_ok {α : Type} [Borsh α] {data : List UInt8} {a : α} {w w' : World} :
    parseArgs α data w = .ok (a, w') ↔ data = Borsh.write a ∧ w = w' := by
  rw [parseArgs, ofOption_ok, Borsh.tryFromSlice_eq_some]

end AlmController
