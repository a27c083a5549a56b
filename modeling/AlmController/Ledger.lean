import AlmController.Shared

/-!
# Creating, saving, emitting, and moving a reserve's balance

The other half of what the processors share: the operations that change something.
An account is created and saved, an event emitted, a reserve brought in line with
its vault, a flow booked on a limiter.
-/

namespace AlmController

open Prog

variable [Chain]

/-! ## Saving and creating accounts -/

/-- `save`: write discriminator and data to an account. The last check is the
    runtime's, which rejects an instruction that changed a read-only account. -/
def save (account : AccountMeta) (data : KeelAccount) : Ix Unit := do
  let w ← read id
  let old ← ofOption (w.keel account.pubkey) (.program .InvalidAccountOwner)
  rejectIf (old.dataLen ≠ data.dataLen) (.program .AccountDataTooSmall)
  rejectIf (account.isWritable = false) .runtime
  modify fun w => w.setKeel account.pubkey data

omit [Chain] in
theorem save_ok {account : AccountMeta} {data : KeelAccount} {w w' : World} {u : Unit} :
    save account data w = .ok (u, w') ↔
      (∃ old, w.keel account.pubkey = some old ∧ old.dataLen = data.dataLen) ∧
        account.isWritable = true ∧ w.setKeel account.pubkey data = w' := by
  simp only [save, bind_ok, read_ok, ofOption_ok, rejectIf_ok, modify_ok, id, not_not,
    Bool.not_eq_false]
  constructor
  · rintro ⟨_, _, ⟨rfl, rfl⟩, old, _, ⟨hold, rfl⟩, _, _, ⟨hlen, rfl⟩, _, _, ⟨hwr, rfl⟩, hw⟩
    exact ⟨⟨old, hold, hlen⟩, hwr, hw⟩
  · rintro ⟨⟨old, hold, hlen⟩, hwr, hw⟩
    exact ⟨w, w, ⟨rfl, rfl⟩, old, w, ⟨hold, rfl⟩, (), w, ⟨hlen, rfl⟩, (), w, ⟨hwr, rfl⟩, hw⟩

/-- `Controller::update_and_save`. -/
def Controller.updateAndSave (self : Controller) (account : AccountMeta)
    (status : ControllerStatus) : Ix Controller := do
  let controller ← ofExcept (self.update status)
  save account (.controller controller)
  return controller

omit [Chain] in
theorem Controller.updateAndSave_ok {c c' : Controller} {account : AccountMeta}
    {status : ControllerStatus} {w w' : World} :
    c.updateAndSave account status w = .ok (c', w') ↔
      c.status ≠ status ∧ c' = { c with status := status } ∧
        (∃ old, w.keel account.pubkey = some old ∧ old.dataLen = (KeelAccount.controller c').dataLen) ∧
        account.isWritable = true ∧ w.setKeel account.pubkey (.controller c') = w' := by
  simp only [updateAndSave, update, bind_ok, ofExcept_ok, except_bind_ok, check_ok, except_pure_ok,
    save_ok, pure_ok]
  constructor
  · rintro ⟨_, _, ⟨⟨_, hne, rfl⟩, rfl⟩, _, _, ⟨hold, hwr, rfl⟩, rfl, rfl⟩
    exact ⟨hne, rfl, hold, hwr, rfl⟩
  · rintro ⟨hne, rfl, hold, hwr, rfl⟩
    exact ⟨_, w, ⟨⟨(), hne, rfl⟩, rfl⟩, (), _, ⟨hold, hwr, rfl⟩, rfl, rfl⟩

/-- `create_pda_account`: create an account for this program at a derived address.
    The system program only touches accounts that are its own and empty. -/
def createPdaAccount (payer newPdaAccount : AccountMeta) (space : Nat)
    (seeds : List (List UInt8)) : Ix Unit := do
  let w ← read id
  let signer ← ofOption (Chain.createProgramAddress seeds ID) .runtime
  let lamports := (w.bank newPdaAccount.pubkey).lamports
  let minimum := max (Chain.minimumBalance space) 1
  rejectIf (w.owner newPdaAccount.pubkey ≠ SYSTEM_PROGRAM_ID ∨
    ¬ w.dataIsEmpty newPdaAccount.pubkey) .cpi
  if 0 < lamports then do
    -- someone funded the address before: top it up, then allocate and assign
    let requiredLamports := minimum.saturatingSub lamports
    onlyIf (0 < requiredLamports)
      (invoke (.systemTransfer payer.pubkey newPdaAccount.pubkey requiredLamports))
    invokeWith (.systemAllocate newPdaAccount.pubkey space) [signer] none
    invokeWith (.systemAssign newPdaAccount.pubkey ID) [signer] none
  else
    invokeWith (.systemCreateAccount payer.pubkey newPdaAccount.pubkey minimum space ID)
      [signer] none
  modify fun w => w.setKeel newPdaAccount.pubkey (.allocated space)

/-- An instruction of the system program. -/
def Cpi.isSystem : Cpi → Bool
  | .systemTransfer _ _ _ => true
  | .systemAllocate _ _ => true
  | .systemAssign _ _ => true
  | .systemCreateAccount _ _ _ _ _ => true
  | _ => false

/-- `SystemSteps calls w w'`: `w'` is `w` after these invocations of the system
    program, none of them signed by a controller. -/
inductive SystemSteps : List Cpi → World → World → Prop
  | nil {w : World} : SystemSteps [] w w
  | cons {w w' : World} {call : Cpi} {calls : List Cpi} {signers : List Pubkey} {bank : Bank} :
      call.isSystem = true → Chain.invoke w.clock call signers w.bank = some bank →
        SystemSteps calls ((w.setBank bank).addLog (.cpi call none)) w' →
          SystemSteps (call :: calls) w w'

namespace SystemSteps

variable {calls : List Cpi} {w w' : World}

theorem keel_eq (h : SystemSteps calls w w') : w'.keel = w.keel := by
  induction h with
  | nil => rfl
  | cons _ _ _ ih => exact ih

theorem clock_eq (h : SystemSteps calls w w') : w'.clock = w.clock := by
  induction h with
  | nil => rfl
  | cons _ _ _ ih => exact ih

theorem log_eq (h : SystemSteps calls w w') :
    w'.log = w.log ++ calls.map fun call => .cpi call none := by
  induction h with
  | nil => simp
  | cons _ _ _ ih => simpa using ih

end SystemSteps

theorem createPdaAccount_ok {payer account : AccountMeta} {space : Nat}
    {seeds : List (List UInt8)} {w w' : World} {u : Unit}
    (h : createPdaAccount payer account space seeds w = .ok (u, w')) :
    w.keel account.pubkey = none ∧ ∃ calls w₁, SystemSteps calls w w₁ ∧
      w' = w₁.setKeel account.pubkey (.allocated space) := by
  simp only [createPdaAccount, bind_ok, read_ok, ofOption_ok, rejectIf_ok, ite_ok, onlyIf_ok,
    invoke_ok, invokeWith_ok, modify_ok, id, not_or, not_not] at h
  obtain ⟨_, _, ⟨rfl, rfl⟩, signer, _, ⟨-, rfl⟩, _, _, ⟨⟨-, hempty⟩, rfl⟩, h⟩ := h
  refine ⟨hempty.1, ?_⟩
  rcases h with ⟨-, _, w₁, htransfer, _, _, ⟨_, hallocate, rfl⟩, _, _, ⟨_, hassign, rfl⟩, rfl⟩ |
    ⟨-, _, _, ⟨_, hcreate, rfl⟩, rfl⟩
  · rcases htransfer with ⟨-, _, htransfer, rfl⟩ | ⟨-, rfl⟩
    · exact ⟨_, _, .cons rfl htransfer (.cons rfl hallocate (.cons rfl hassign .nil)), rfl⟩
    · exact ⟨_, _, .cons rfl hallocate (.cons rfl hassign .nil), rfl⟩
  · exact ⟨_, _, .cons rfl hcreate .nil, rfl⟩

/-- What the `init_account` methods share: check the address, create the account,
    commit the data. -/
def initAccount (account payer : AccountMeta) (seeds : List (List UInt8)) (data : KeelAccount) :
    Ix Unit := do
  let (pda, bump) ← ofExcept (findAddress seeds ID)
  rejectIf (account.pubkey ≠ pda) (SvmAlmControllerErrors.InvalidPda : Error)
  createPdaAccount payer account data.dataLen (seeds ++ [[bump]])
  save account data

/-- The account did not exist before, sits at its derived address, and now holds the
    data. -/
theorem initAccount_ok {account payer : AccountMeta} {seeds : List (List UInt8)}
    {data : KeelAccount} {w w' : World} {u : Unit}
    (h : initAccount account payer seeds data w = .ok (u, w')) :
    w.keel account.pubkey = none ∧ pdaOf seeds = some account.pubkey ∧
      ∃ calls w₁, SystemSteps calls w w₁ ∧ w' = w₁.setKeel account.pubkey data := by
  simp only [initAccount, findAddress, bind_ok, ofExcept_ok, okOr_ok, rejectIf_ok, not_not,
    save_ok] at h
  obtain ⟨r, _, ⟨hr, rfl⟩, _, _, ⟨hkey, rfl⟩, _, w₂, hcreate, _, _, rfl⟩ := h
  obtain ⟨hnone, calls, w₁, hsteps, rfl⟩ := createPdaAccount_ok hcreate
  refine ⟨hnone, ?_, calls, w₁, hsteps, ?_⟩
  · simp [pdaOf, hr, hkey]
  · simp [World.setKeel]

def Controller.initAccount (account authority payer : AccountMeta) (id : UInt16)
    (status : ControllerStatus) : Ix Controller := do
  let (pda, bump) ← ofExcept (Controller.derivePdaBytes id)
  rejectIf (account.pubkey ≠ pda) (SvmAlmControllerErrors.InvalidPda : Error)
  let (controllerAuthority, controllerAuthorityBump) ←
    ofExcept (Controller.deriveAuthority account.pubkey)
  rejectIf (authority.pubkey ≠ controllerAuthority) (SvmAlmControllerErrors.InvalidPda : Error)
  let controller : Controller :=
    { id := id
      bump := bump
      status := status
      authority := controllerAuthority
      authorityBump := controllerAuthorityBump
      padding := 0 }
  AlmController.initAccount account payer controller.seeds (.controller controller)
  return controller

theorem Controller.initAccount_ok {account authority payer : AccountMeta} {id : UInt16}
    {status : ControllerStatus} {c : Controller} {w w' : World}
    (h : Controller.initAccount account authority payer id status w = .ok (c, w')) :
    c.id = id ∧ c.status = status ∧ c.authority = authority.pubkey ∧
      (∃ bump, Controller.deriveAuthority account.pubkey = .ok (c.authority, bump) ∧
        c.authorityBump = bump) ∧
      w.keel account.pubkey = none ∧ pdaOf c.seeds = some account.pubkey ∧
      ∃ calls w₁, SystemSteps calls w w₁ ∧ w' = w₁.setKeel account.pubkey (.controller c) := by
  simp only [Controller.initAccount, bind_ok, ofExcept_ok, rejectIf_ok, not_not, pure_ok] at h
  obtain ⟨_, _, ⟨_, rfl⟩, _, _, ⟨_, rfl⟩, r, _, ⟨hauth, rfl⟩, _, _, ⟨hkey, rfl⟩, _, _, hinit,
    rfl, rfl⟩ := h
  obtain ⟨hnone, hpda, hsteps⟩ := AlmController.initAccount_ok hinit
  exact ⟨rfl, rfl, hkey.symm, ⟨r.2, hauth, rfl⟩, hnone, hpda, hsteps⟩

/-! ## Events -/

/-- `let [account] = accounts`. -/
def onlyAccount : List AccountMeta → Option AccountMeta
  | [account] => some account
  | _ => none

/-- The first two bytes as a `u16`. -/
def u16Prefix : List UInt8 → Option UInt16
  | b₀ :: b₁ :: _ => some (UInt16.ofNat (u16FromLe b₀ b₁))
  | _ => none

/-- `process_emit_event`: only a controller's authority may emit. -/
def processEmitEvent (accounts : List AccountMeta) (instructionData : List UInt8) : Ix Unit := do
  let authority ← ofOption (onlyAccount accounts) (.program .NotEnoughAccountKeys)
  let controllerId ← ofOption (u16Prefix instructionData) (.program .InvalidInstructionData)
  let (controllerPda, _) ← ofExcept (Controller.derivePdaBytes controllerId)
  let (controllerAuthority, _) ← ofExcept (Controller.deriveAuthority controllerPda)
  rejectIf (authority.pubkey ≠ controllerAuthority) (SvmAlmControllerErrors.InvalidPda : Error)
  rejectIf (authority.isSigner = false) (.program .MissingRequiredSignature)
  let w ← read id
  rejectIf (w.owner authority.pubkey ≠ SYSTEM_PROGRAM_ID) (.program .InvalidAccountOwner)

theorem processEmitEvent_ok {accounts : List AccountMeta} {data : List UInt8} {w w' : World}
    {u : Unit} (h : processEmitEvent accounts data w = .ok (u, w')) :
    w = w' ∧ ∃ authority controllerPda bump, accounts = [authority] ∧
      authority.isSigner = true ∧
      Controller.deriveAuthority controllerPda = .ok (authority.pubkey, bump) := by
  simp only [processEmitEvent, bind_ok, ofExcept_ok, ofOption_ok, rejectIf_ok, read_ok, not_not,
    Bool.not_eq_false] at h
  obtain ⟨authority, _, ⟨hacc, rfl⟩, _, _, ⟨-, rfl⟩, pda, _, ⟨-, rfl⟩, r, _, ⟨hr, rfl⟩, _, _,
    ⟨hkey, rfl⟩, _, _, ⟨hsigner, rfl⟩, _, _, ⟨rfl, rfl⟩, -, rfl⟩ := h
  have honly : accounts = [authority] := by
    rcases accounts with _ | ⟨a, _ | ⟨b, rest⟩⟩ <;> simp [onlyAccount] at hacc
    rw [hacc]
  refine ⟨rfl, authority, pda.1, r.2, honly, hsigner, ?_⟩
  rw [hr, hkey]

/-- `emit_event`: invoke EmitEvent with the authority's signature. The runtime only
    grants that signature when the seeds derive the authority account given. -/
def emitEvent (controller : Controller) (authority controllerKey : Pubkey)
    (event : SvmAlmControllerEvent) : Ix Unit := do
  let signer ← ofOption (authorityAddress controllerKey controller) .runtime
  rejectIf (signer ≠ authority) .runtime
  processEmitEvent [{ pubkey := authority, isSigner := true, isWritable := false }]
    (u16Bytes controller.id)
  record (.event event)

omit [Chain] in
theorem record_ok {e : LogEntry} {w w' : World} {u : Unit} :
    record e w = .ok (u, w') ↔ w.addLog e = w' :=
  modify_ok

theorem emitEvent_ok {c : Controller} {authority k : Pubkey} {e : SvmAlmControllerEvent}
    {w w' : World} {u : Unit} (h : emitEvent c authority k e w = .ok (u, w')) :
    authorityAddress k c = some authority ∧ w' = w.addLog (.event e) := by
  simp only [emitEvent, bind_ok, ofOption_ok, rejectIf_ok, record_ok, not_not] at h
  obtain ⟨_, _, ⟨haddr, rfl⟩, _, _, ⟨rfl, rfl⟩, _, _, hemit, rfl⟩ := h
  obtain ⟨rfl, -⟩ := processEmitEvent_ok hemit
  exact ⟨haddr, rfl⟩

end AlmController
