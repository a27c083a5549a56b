import AlmController.Codec
import AlmController.Entrypoint
import AlmController.Lib.BorshVec

/-!
# The bytes of an event

`events.rs` and `emit_cpi.rs`: what an off-chain reader sees. The program tells an event by invoking
itself, and the event is in the data of this invocation, as a vector of bytes. `emitEvent` keeps the
event as it is; here are the bytes, and that the invocation with them does what `emitEvent` says.

A controller update does not say which account it is about, since that is the controller. So the
event that is read back is the one that was told for the events that agree, and
`SvmAlmControllerEvent.NamesItself` says which.
-/

namespace AlmController

open Prog

/-! ## Accounting events -/

namespace AccountingAction

def toByte : AccountingAction → UInt8
  | Sync => 0
  | ExternalTransfer => 1
  | Deposit => 2
  | Withdrawal => 3
  | BridgeSend => 4
  | Swap => 5

def ofByte : UInt8 → Option AccountingAction
  | 0 => some Sync
  | 1 => some ExternalTransfer
  | 2 => some Deposit
  | 3 => some Withdrawal
  | 4 => some BridgeSend
  | 5 => some Swap
  | _ => none

theorem ofByte_eq_some (n : UInt8) (a : AccountingAction) : ofByte n = some a ↔ n = toByte a := by
  cases a <;> (unfold ofByte toByte; split <;> grind)

instance : Borsh AccountingAction := Borsh.restrict toByte ofByte ofByte_eq_some

instance : Borsh.Sized AccountingAction := .restrict toByte fun _ => rfl

end AccountingAction

namespace AccountingDirection

def toByte : AccountingDirection → UInt8
  | Debit => 0
  | Credit => 1

def ofByte : UInt8 → Option AccountingDirection
  | 0 => some Debit
  | 1 => some Credit
  | _ => none

theorem ofByte_eq_some (n : UInt8) (d : AccountingDirection) :
    ofByte n = some d ↔ n = toByte d := by
  cases d <;> (unfold ofByte toByte; split <;> grind)

instance : Borsh AccountingDirection := Borsh.restrict toByte ofByte ofByte_eq_some

instance : Borsh.Sized AccountingDirection := .restrict toByte fun _ => rfl

end AccountingDirection

/-- The fields in the order they are declared. -/
def AccountingEvent.fields (self : AccountingEvent) :=
  (self.controller, self.integration, self.reserve, self.mint, self.action, self.delta,
    self.direction)

instance : Borsh AccountingEvent :=
  Borsh.record AccountingEvent.fields (fun (a, b, c, d, e, f, g) => ⟨a, b, c, d, e, f, g⟩)
    (fun _ => rfl) (fun _ => rfl)

instance : Borsh.Bounded AccountingEvent :=
  ⟨140, fun e => Borsh.Bounded.length_write_le e.fields⟩

/-! ## Update events -/

/-- `ControllerUpdateEvent`, which has no field for the account. -/
structure ControllerUpdateEvent where
  authority : Pubkey
  controller : Pubkey
  oldState : Option Controller
  newState : Option Controller
  deriving DecidableEq, Repr

def ControllerUpdateEvent.fields (self : ControllerUpdateEvent) :=
  (self.authority, self.controller, self.oldState, self.newState)

instance : Borsh ControllerUpdateEvent :=
  Borsh.record ControllerUpdateEvent.fields (fun (a, b, c, d) => ⟨a, b, c, d⟩) (fun _ => rfl)
    (fun _ => rfl)

section UpdateEvent

variable {α : Type} [Borsh α]

/-- The fields of the four other update events. -/
def UpdateEvent.fields {α : Type} (self : UpdateEvent α) :=
  (self.authority, self.controller, self.account, self.oldState, self.newState)

instance : Borsh (UpdateEvent α) :=
  Borsh.record UpdateEvent.fields (fun (a, b, c, d, e) => ⟨a, b, c, d, e⟩) (fun _ => rfl)
    (fun _ => rfl)

instance [Borsh.Bounded α] : Borsh.Bounded (UpdateEvent α) :=
  ⟨32 + (32 + (32 + (Borsh.Bounded.bound α + 1 + (Borsh.Bounded.bound α + 1)))),
    fun e => Borsh.Bounded.length_write_le e.fields⟩

end UpdateEvent

instance : Borsh.Bounded ControllerUpdateEvent :=
  ⟨32 + (32 + (Controller.LEN + 1 + (Controller.LEN + 1))),
    fun e => Borsh.Bounded.length_write_le e.fields⟩

/-! ## Events -/

/-- `SvmAlmControllerEvent`, field for field. -/
inductive WireEvent
  | ControllerUpdate (event : ControllerUpdateEvent)
  | PermissionUpdate (event : UpdateEvent Permission)
  | ReserveUpdate (event : UpdateEvent Reserve)
  | IntegrationUpdate (event : UpdateEvent Integration)
  | AccountingEvent (event : AccountingEvent)
  | OracleUpdate (event : UpdateEvent Oracle)
  deriving DecidableEq, Repr

/-- The variant's index, then its fields. -/
instance : Borsh WireEvent where
  write
    | .ControllerUpdate e => 0 :: Borsh.write e
    | .PermissionUpdate e => 1 :: Borsh.write e
    | .ReserveUpdate e => 2 :: Borsh.write e
    | .IntegrationUpdate e => 3 :: Borsh.write e
    | .AccountingEvent e => 4 :: Borsh.write e
    | .OracleUpdate e => 5 :: Borsh.write e
  read
    | 0 :: bs => Borsh.readAs .ControllerUpdate bs
    | 1 :: bs => Borsh.readAs .PermissionUpdate bs
    | 2 :: bs => Borsh.readAs .ReserveUpdate bs
    | 3 :: bs => Borsh.readAs .IntegrationUpdate bs
    | 4 :: bs => Borsh.readAs .AccountingEvent bs
    | 5 :: bs => Borsh.readAs .OracleUpdate bs
    | _ => none
  read_write e rest := by
    cases e <;> simp only [List.cons_append, Borsh.readAs_write]
  write_read {bs e rest} h := by
    split at h
    case h_7 => cases h
    all_goals
      obtain ⟨a, rfl, rfl⟩ := Borsh.readAs_eq_some h
      rfl

/-- The longest event is an integration update with both states. -/
instance : Borsh.Bounded WireEvent where
  bound := 99 + 2 * Integration.LEN
  length_write_le e := by
    cases e with
    | ControllerUpdate e =>
      exact (Nat.succ_le_succ (Borsh.Bounded.length_write_le e)).trans (by decide)
    | PermissionUpdate e =>
      exact (Nat.succ_le_succ (Borsh.Bounded.length_write_le e)).trans (by decide)
    | ReserveUpdate e =>
      exact (Nat.succ_le_succ (Borsh.Bounded.length_write_le e)).trans (by decide)
    | IntegrationUpdate e =>
      exact (Nat.succ_le_succ (Borsh.Bounded.length_write_le e)).trans (by decide)
    | AccountingEvent e =>
      exact (Nat.succ_le_succ (Borsh.Bounded.length_write_le e)).trans (by decide)
    | OracleUpdate e =>
      exact (Nat.succ_le_succ (Borsh.Bounded.length_write_le e)).trans (by decide)

namespace SvmAlmControllerEvent

/-- What is sent of an event. -/
def toWire : SvmAlmControllerEvent → WireEvent
  | ControllerUpdate e => .ControllerUpdate ⟨e.authority, e.controller, e.oldState, e.newState⟩
  | PermissionUpdate e => .PermissionUpdate e
  | ReserveUpdate e => .ReserveUpdate e
  | IntegrationUpdate e => .IntegrationUpdate e
  | AccountingEvent e => .AccountingEvent e
  | OracleUpdate e => .OracleUpdate e

/-- A controller update is about the controller it names. -/
def NamesItself : SvmAlmControllerEvent → Prop
  | ControllerUpdate e => e.account = e.controller
  | _ => True

/-- `try_to_vec`, which is told to succeed. -/
def tryToVec (event : SvmAlmControllerEvent) : Borsh.Vec UInt8 where
  elements := Borsh.write event.toWire
  length_lt := (Borsh.Bounded.length_write_le event.toWire).trans_lt (by decide)

end SvmAlmControllerEvent

/-- What a reader takes the bytes for. -/
def WireEvent.event : WireEvent → SvmAlmControllerEvent
  | ControllerUpdate e =>
    .ControllerUpdate ⟨e.authority, e.controller, e.controller, e.oldState, e.newState⟩
  | PermissionUpdate e => .PermissionUpdate e
  | ReserveUpdate e => .ReserveUpdate e
  | IntegrationUpdate e => .IntegrationUpdate e
  | AccountingEvent e => .AccountingEvent e
  | OracleUpdate e => .OracleUpdate e

theorem SvmAlmControllerEvent.NamesItself.event_toWire {e : SvmAlmControllerEvent}
    (h : e.NamesItself) : e.toWire.event = e := by
  cases e with
  | ControllerUpdate e =>
    obtain ⟨authority, controller, account, old, new⟩ := e
    have haccount : account = controller := h
    subst haccount
    rfl
  | _ => rfl

/-! ## The invocation -/

structure EmitEventArgs where
  controllerId : ByteArr 2
  data : Borsh.Vec UInt8

instance : Borsh EmitEventArgs :=
  Borsh.record (fun a => (a.controllerId, a.data)) (fun (a, b) => ⟨a, b⟩) (fun _ => rfl)
    (fun _ => rfl)

/-- The data of the instruction that `emit_cpi` invokes. -/
def emitEventData (controllerId : UInt16) (event : SvmAlmControllerEvent) : List UInt8 :=
  0 :: Borsh.write (EmitEventArgs.mk controllerId.toBitVec event.tryToVec)

/-- An off-chain reader: the event in the data of an instruction. -/
def readEvent : List UInt8 → Option SvmAlmControllerEvent
  | 0 :: bs => (Borsh.tryFromSlice bs).bind fun args : EmitEventArgs =>
    (Borsh.tryFromSlice args.data.elements).map WireEvent.event
  | _ => none

theorem emitEventData_eq {controllerId : UInt16} {event : SvmAlmControllerEvent} :
    emitEventData controllerId event =
      0 :: (u16Bytes controllerId ++ Borsh.write event.tryToVec) := rfl

/-- **The reader reads what was told.** -/
theorem readEvent_emitEventData {controllerId : UInt16} {event : SvmAlmControllerEvent}
    (h : event.NamesItself) : readEvent (emitEventData controllerId event) = some event := by
  show ((Borsh.tryFromSlice (Borsh.write (EmitEventArgs.mk controllerId.toBitVec
    event.tryToVec))).bind fun args : EmitEventArgs => _) = _
  rw [Borsh.tryFromSlice_eq_some.mpr rfl, Option.bind_some]
  show (Borsh.tryFromSlice (Borsh.write event.toWire)).map WireEvent.event = some event
  rw [Borsh.tryFromSlice_eq_some.mpr rfl, Option.map_some, h.event_toWire]

/-- A short instruction: an invocation may have 10240 bytes of data. -/
theorem length_emitEventData {controllerId : UInt16} {event : SvmAlmControllerEvent} :
    (emitEventData controllerId event).length ≤ 106 + 2 * Integration.LEN := by
  have hevent : (Borsh.write event.toWire).length ≤ 99 + 2 * Integration.LEN :=
    Borsh.Bounded.length_write_le event.toWire
  have hvec : (Borsh.write event.tryToVec).length = 4 + (Borsh.write event.toWire).length := by
    show (Borsh.write (UInt32.ofNat _) ++ Borsh.writeAll (Borsh.write event.toWire)).length = _
    rw [List.length_append, Borsh.Sized.length_write, Borsh.writeAll_bytes]
    rfl
  have hid : (u16Bytes controllerId).length = 2 := rfl
  rw [emitEventData_eq, List.length_cons, List.length_append, hid, hvec]
  omega

theorem u16Prefix_append {n : UInt16} {rest : List UInt8} :
    u16Prefix (u16Bytes n ++ rest) = u16Prefix (u16Bytes n) := rfl

variable [Chain]

/-- **The invocation does what `emitEvent` says**: the entrypoint dispatches on the first byte, and
    EmitEvent looks no further than the id. -/
theorem processInstruction_emitEventData {tx : TxContext} {accounts : List AccountMeta}
    {controllerId : UInt16} {event : SvmAlmControllerEvent} :
    processInstruction tx accounts (emitEventData controllerId event) =
      processEmitEvent accounts (u16Bytes controllerId) := by
  show processEmitEvent accounts (u16Bytes controllerId ++ _) = _
  unfold processEmitEvent
  rw [u16Prefix_append]

end AlmController
