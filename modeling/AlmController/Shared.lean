import AlmController.Token

/-!
# What every processor uses

Loading, creating and saving the program's accounts, emitting events, invoking
other programs (`state/keel_account.rs`, the stateful methods of `state/*.rs`,
`processor/shared/*.rs`).

Each operation comes with the lemma that says what a successful run of it did; the
processors' lemmas use these and unfold nothing here.
-/

namespace AlmController

open Prog

variable [Chain]

/-! ## Invocations -/

/-- Add an entry to the log. -/
def record (e : LogEntry) : Ix Unit := modify fun w => w.addLog e

/-- Invoke another program, signing for the given addresses. -/
def invokeWith (cpi : Cpi) (signers : List Pubkey) (signedFor : Option Pubkey) : Ix Unit := do
  let w ← read id
  let bank ← ofOption (Chain.invoke w.clock cpi signers w.bank) .cpi
  modify fun w => (w.setBank bank).addLog (.cpi cpi signedFor)

/-- `.invoke()`: with the signatures of the transaction only. -/
def invoke (cpi : Cpi) : Ix Unit := invokeWith cpi [] none

/-- The address that a controller's authority seeds sign for. -/
def authorityAddress (controllerKey : Pubkey) (controller : Controller) : Option Pubkey :=
  Chain.createProgramAddress
    [CONTROLLER_AUTHORITY_SEED, controllerKey.bytes, [controller.authorityBump]] ID

/-- `.invoke_signed(..)` with the seeds of the controller's authority. -/
def invokeSigned (cpi : Cpi) (controllerKey : Pubkey) (controller : Controller) : Ix Unit := do
  let signer ← ofOption (authorityAddress controllerKey controller) .runtime
  invokeWith cpi [signer] (some controllerKey)

theorem invokeWith_ok {cpi : Cpi} {signers : List Pubkey} {signedFor : Option Pubkey}
    {w w' : World} {u : Unit} :
    invokeWith cpi signers signedFor w = .ok (u, w') ↔
      ∃ bank, Chain.invoke w.clock cpi signers w.bank = some bank ∧
        (w.setBank bank).addLog (.cpi cpi signedFor) = w' := by
  simp only [invokeWith, bind_ok, read_ok, ofOption_ok, modify_ok, id]
  constructor
  · rintro ⟨_, _, ⟨rfl, rfl⟩, bank, _, ⟨hbank, rfl⟩, hw⟩
    exact ⟨bank, hbank, hw⟩
  · rintro ⟨bank, hbank, hw⟩
    exact ⟨w, w, ⟨rfl, rfl⟩, bank, w, ⟨hbank, rfl⟩, hw⟩

theorem invoke_ok {cpi : Cpi} {w w' : World} {u : Unit} :
    invoke cpi w = .ok (u, w') ↔
      ∃ bank, Chain.invoke w.clock cpi [] w.bank = some bank ∧
        (w.setBank bank).addLog (.cpi cpi none) = w' :=
  invokeWith_ok

theorem invokeSigned_ok {cpi : Cpi} {k : Pubkey} {c : Controller} {w w' : World} {u : Unit} :
    invokeSigned cpi k c w = .ok (u, w') ↔
      ∃ signer, authorityAddress k c = some signer ∧
        ∃ bank, Chain.invoke w.clock cpi [signer] w.bank = some bank ∧
          (w.setBank bank).addLog (.cpi cpi (some k)) = w' := by
  simp only [invokeSigned, bind_ok, ofOption_ok, invokeWith_ok]
  constructor
  · rintro ⟨signer, _, ⟨hsigner, rfl⟩, hinvoke⟩
    exact ⟨signer, hsigner, hinvoke⟩
  · rintro ⟨signer, hsigner, hinvoke⟩
    exact ⟨signer, w, ⟨hsigner, rfl⟩, hinvoke⟩

/-! ## Addresses of the program's accounts -/

/-- `try_find_program_address(..).ok_or(InvalidSeeds)`. -/
def findAddress (seeds : List (List UInt8)) (program : Pubkey) : Except Error (Pubkey × UInt8) :=
  okOr (Chain.tryFindProgramAddress seeds program) (.program .InvalidSeeds)

/-- The little-endian bytes of a `u16`. -/
def u16Bytes (n : UInt16) : List UInt8 := Borsh.write n

def Controller.derivePdaBytes (id : UInt16) : Except Error (Pubkey × UInt8) :=
  findAddress [CONTROLLER_SEED, u16Bytes id] ID

def Controller.deriveAuthority (controller : Pubkey) : Except Error (Pubkey × UInt8) :=
  findAddress [CONTROLLER_AUTHORITY_SEED, controller.bytes] ID

def Controller.seeds (self : Controller) : List (List UInt8) :=
  [CONTROLLER_SEED, u16Bytes self.id]

def Permission.seeds (self : Permission) : List (List UInt8) :=
  [PERMISSION_SEED, self.controller.bytes, self.authority.bytes]

def Reserve.seeds (self : Reserve) : List (List UInt8) :=
  [RESERVE_SEED, self.controller.bytes, self.mint.bytes]

def Integration.seeds (self : Integration) : List (List UInt8) :=
  [INTEGRATION_SEED, self.controller.bytes, self.hash.bytes]

def Oracle.seeds (self : Oracle) : List (List UInt8) := [ORACLE_SEED, self.nonce.bytes]

/-- The address the runtime finds for an account of this program. -/
def pdaOf (seeds : List (List UInt8)) : Option Pubkey :=
  (Chain.tryFindProgramAddress seeds ID).map Prod.fst

/-- `verify_pda`. -/
def verifyPda (account : AccountMeta) (seeds : List (List UInt8)) : Ix Unit := do
  let (pda, _) ← ofExcept (findAddress seeds ID)
  rejectIf (account.pubkey ≠ pda) (SvmAlmControllerErrors.InvalidPda : Error)

theorem verifyPda_ok {account : AccountMeta} {seeds : List (List UInt8)} {w w' : World} {u : Unit} :
    verifyPda account seeds w = .ok (u, w') ↔ pdaOf seeds = some account.pubkey ∧ w = w' := by
  simp only [verifyPda, findAddress, bind_ok, ofExcept_ok, okOr_ok, rejectIf_ok, not_not, pdaOf,
    Option.map_eq_some_iff]
  constructor
  · rintro ⟨r, _, ⟨hr, rfl⟩, hkey, hw⟩
    exact ⟨⟨r, hr, hkey.symm⟩, hw⟩
  · rintro ⟨⟨r, hr, hkey⟩, hw⟩
    exact ⟨r, w, ⟨hr, rfl⟩, hkey.symm, hw⟩

/-! ## Loading -/

/-- `KeelAccount::deserialize` of an account that must belong to the program. -/
def loadKeel {α : Type} (account : AccountMeta) (proj : KeelAccount → Option α) : Ix α := do
  let w ← read id
  let data ← ofOption (w.keel account.pubkey) (.program .InvalidAccountOwner)
  ofOption (proj data) (.program .InvalidAccountData)

omit [Chain] in
theorem loadKeel_ok {α : Type} {account : AccountMeta} {proj : KeelAccount → Option α} {a : α}
    {w w' : World} :
    loadKeel account proj w = .ok (a, w') ↔
      ∃ data, w.keel account.pubkey = some data ∧ proj data = some a ∧ w = w' := by
  simp only [loadKeel, bind_ok, read_ok, ofOption_ok, id]
  constructor
  · rintro ⟨_, _, ⟨rfl, rfl⟩, data, _, ⟨hdata, rfl⟩, ha, hw⟩
    exact ⟨data, hdata, ha, hw⟩
  · rintro ⟨data, hdata, ha, hw⟩
    exact ⟨w, w, ⟨rfl, rfl⟩, data, w, ⟨hdata, rfl⟩, ha, hw⟩

namespace KeelAccount

omit [Chain]

def controller? : KeelAccount → Option Controller
  | .controller a => some a
  | _ => none

def permission? : KeelAccount → Option Permission
  | .permission a => some a
  | _ => none

def reserve? : KeelAccount → Option Reserve
  | .reserve a => some a
  | _ => none

def integration? : KeelAccount → Option Integration
  | .integration a => some a
  | _ => none

def oracle? : KeelAccount → Option Oracle
  | .oracle a => some a
  | _ => none

theorem controller?_eq {d : KeelAccount} {a : Controller} :
    d.controller? = some a ↔ d = .controller a := by
  cases d <;> simp [controller?]

theorem permission?_eq {d : KeelAccount} {a : Permission} :
    d.permission? = some a ↔ d = .permission a := by
  cases d <;> simp [permission?]

theorem reserve?_eq {d : KeelAccount} {a : Reserve} :
    d.reserve? = some a ↔ d = .reserve a := by
  cases d <;> simp [reserve?]

theorem integration?_eq {d : KeelAccount} {a : Integration} :
    d.integration? = some a ↔ d = .integration a := by
  cases d <;> simp [integration?]

theorem oracle?_eq {d : KeelAccount} {a : Oracle} :
    d.oracle? = some a ↔ d = .oracle a := by
  cases d <;> simp [oracle?]

end KeelAccount

/-- Deserializes the Controller, validates its PDA and `controller_authority`. -/
def Controller.loadAndCheck (account : AccountMeta) (controllerAuthority : Pubkey) :
    Ix Controller := do
  let controller ← loadKeel account KeelAccount.controller?
  verifyPda account controller.seeds
  rejectIf (controller.authority ≠ controllerAuthority)
    (SvmAlmControllerErrors.InvalidControllerAuthority : Error)
  return controller

def Permission.loadAndCheck (account : AccountMeta) (controller authority : Pubkey) :
    Ix Permission := do
  let permission ← loadKeel account KeelAccount.permission?
  ofExcept (permission.checkData controller authority)
  verifyPda account permission.seeds
  return permission

def Reserve.loadAndCheck (account : AccountMeta) (controller : Pubkey) : Ix Reserve := do
  let reserve ← loadKeel account KeelAccount.reserve?
  ofExcept (reserve.checkData controller)
  verifyPda account reserve.seeds
  return reserve

def Integration.loadAndCheck (account : AccountMeta) (controller : Pubkey) : Ix Integration := do
  let integration ← loadKeel account KeelAccount.integration?
  ofExcept (integration.checkData controller)
  verifyPda account integration.seeds
  return integration

def Oracle.loadAndCheck (account : AccountMeta) (controller authority : Option Pubkey) :
    Ix Oracle := do
  let oracle ← loadKeel account KeelAccount.oracle?
  ofExcept (oracle.checkData controller authority)
  verifyPda account oracle.seeds
  return oracle

section Loaded

variable {w w' : World} {account : AccountMeta} {controller authority : Pubkey}

theorem Controller.loadAndCheck_ok {c : Controller} :
    Controller.loadAndCheck account authority w = .ok (c, w') ↔
      w.keel account.pubkey = some (.controller c) ∧ pdaOf c.seeds = some account.pubkey ∧
        c.authority = authority ∧ w = w' := by
  simp only [loadAndCheck, bind_ok, loadKeel_ok, KeelAccount.controller?_eq, verifyPda_ok,
    rejectIf_ok, pure_ok, not_not]
  constructor
  · rintro ⟨_, _, ⟨_, hkeel, rfl, rfl⟩, _, _, ⟨hpda, rfl⟩, _, _, ⟨hauth, rfl⟩, rfl, hw⟩
    exact ⟨hkeel, hpda, hauth, hw⟩
  · rintro ⟨hkeel, hpda, hauth, hw⟩
    exact ⟨c, w, ⟨_, hkeel, rfl, rfl⟩, (), w, ⟨hpda, rfl⟩, (), w, ⟨hauth, rfl⟩, rfl, hw⟩

theorem Permission.loadAndCheck_ok {p : Permission} :
    Permission.loadAndCheck account controller authority w = .ok (p, w') ↔
      w.keel account.pubkey = some (.permission p) ∧ p.authority = authority ∧
        p.controller = controller ∧ pdaOf p.seeds = some account.pubkey ∧ w = w' := by
  simp only [loadAndCheck, bind_ok, loadKeel_ok, KeelAccount.permission?_eq, verifyPda_ok,
    ofExcept_ok, checkData, except_bind_ok, check_ok, pure_ok, not_not]
  constructor
  · rintro ⟨_, _, ⟨_, hkeel, rfl, rfl⟩, _, _, ⟨⟨_, hauth, hctl⟩, rfl⟩, _, _, ⟨hpda, rfl⟩, rfl, hw⟩
    exact ⟨hkeel, hauth, hctl, hpda, hw⟩
  · rintro ⟨hkeel, hauth, hctl, hpda, hw⟩
    exact ⟨p, w, ⟨_, hkeel, rfl, rfl⟩, (), w, ⟨⟨(), hauth, hctl⟩, rfl⟩, (), w, ⟨hpda, rfl⟩, rfl, hw⟩

theorem Reserve.loadAndCheck_ok {r : Reserve} :
    Reserve.loadAndCheck account controller w = .ok (r, w') ↔
      w.keel account.pubkey = some (.reserve r) ∧ r.controller = controller ∧
        pdaOf r.seeds = some account.pubkey ∧ w = w' := by
  simp only [loadAndCheck, bind_ok, loadKeel_ok, KeelAccount.reserve?_eq, verifyPda_ok,
    ofExcept_ok, checkData, check_ok, pure_ok, not_not]
  constructor
  · rintro ⟨_, _, ⟨_, hkeel, rfl, rfl⟩, _, _, ⟨hctl, rfl⟩, _, _, ⟨hpda, rfl⟩, rfl, hw⟩
    exact ⟨hkeel, hctl, hpda, hw⟩
  · rintro ⟨hkeel, hctl, hpda, hw⟩
    exact ⟨r, w, ⟨_, hkeel, rfl, rfl⟩, (), w, ⟨hctl, rfl⟩, (), w, ⟨hpda, rfl⟩, rfl, hw⟩

theorem Integration.loadAndCheck_ok {i : Integration} :
    Integration.loadAndCheck account controller w = .ok (i, w') ↔
      w.keel account.pubkey = some (.integration i) ∧ i.controller = controller ∧
        pdaOf i.seeds = some account.pubkey ∧ w = w' := by
  simp only [loadAndCheck, bind_ok, loadKeel_ok, KeelAccount.integration?_eq, verifyPda_ok,
    ofExcept_ok, checkData, check_ok, pure_ok, not_not]
  constructor
  · rintro ⟨_, _, ⟨_, hkeel, rfl, rfl⟩, _, _, ⟨hctl, rfl⟩, _, _, ⟨hpda, rfl⟩, rfl, hw⟩
    exact ⟨hkeel, hctl, hpda, hw⟩
  · rintro ⟨hkeel, hctl, hpda, hw⟩
    exact ⟨i, w, ⟨_, hkeel, rfl, rfl⟩, (), w, ⟨hctl, rfl⟩, (), w, ⟨hpda, rfl⟩, rfl, hw⟩

theorem Oracle.loadAndCheck_ok {o : Oracle} {controller authority : Option Pubkey} :
    Oracle.loadAndCheck account controller authority w = .ok (o, w') ↔
      w.keel account.pubkey = some (.oracle o) ∧ (∀ c, controller = some c → o.controller = c) ∧
        (∀ a, authority = some a → o.authority = a) ∧ pdaOf o.seeds = some account.pubkey ∧
        w = w' := by
  have hany : ∀ (x : Option Pubkey) (y : Pubkey),
      ¬ (x.any (y ≠ ·) = true) ↔ ∀ c, x = some c → y = c := by
    intro x y
    cases x <;> simp
  simp only [loadAndCheck, bind_ok, loadKeel_ok, KeelAccount.oracle?_eq, verifyPda_ok,
    ofExcept_ok, checkData, except_bind_ok, check_ok, pure_ok, hany]
  constructor
  · rintro ⟨_, _, ⟨_, hkeel, rfl, rfl⟩, _, _, ⟨⟨_, hctl, hauth⟩, rfl⟩, _, _, ⟨hpda, rfl⟩, rfl, hw⟩
    exact ⟨hkeel, hctl, hauth, hpda, hw⟩
  · rintro ⟨hkeel, hctl, hauth, hpda, hw⟩
    exact ⟨o, w, ⟨_, hkeel, rfl, rfl⟩, (), w, ⟨⟨(), hctl, hauth⟩, rfl⟩, (), w, ⟨hpda, rfl⟩, rfl, hw⟩

end Loaded

/-- What most instructions ask of the controller: it is neither Frozen nor in the middle
    of an atomic swap. -/
def Controller.rejectHalted (self : Controller) : Ix Unit := do
  rejectIf self.isFrozen (SvmAlmControllerErrors.ControllerFrozen : Error)
  rejectIf self.isAtomicSwapLocked (SvmAlmControllerErrors.ControllerAtomicSwapLocked : Error)

omit [Chain] in
theorem Controller.rejectHalted_ok {c : Controller} {w w' : World} {u : Unit} :
    c.rejectHalted w = .ok (u, w') ↔ ¬ c.isFrozen ∧ ¬ c.isAtomicSwapLocked ∧ w = w' := by
  simp only [rejectHalted, bind_ok, rejectIf_ok]
  constructor
  · rintro ⟨_, _, ⟨hf, rfl⟩, hl, hw⟩
    exact ⟨hf, hl, hw⟩
  · rintro ⟨hf, hl, hw⟩
    exact ⟨(), w, ⟨hf, rfl⟩, hl, hw⟩

end AlmController
