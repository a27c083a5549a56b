import AlmController.Processor.Integration
import AlmController.Spec.Parts

/-!
# Who may move funds, and through which protocol

The program's rules about its six protocols, stated without its code: which protocol a
configuration, a state and the caller's arguments belong to, which flag each kind of
flow asks for, and whose tokens an invocation moves. The proofs about the processors
establish these; nothing here is computed by the program.
-/

namespace AlmController

/-! ## Protocols -/

def IntegrationConfig.protocol : IntegrationConfig → Option IntegrationType
  | .Undefined _ => none
  | .SplTokenExternal _ => some .SplTokenExternal
  | .CctpBridge _ => some .CctpBridge
  | .LzBridge _ => some .LzBridge
  | .AtomicSwap _ => some .AtomicSwap
  | .Drift _ => some .Drift
  | .Kamino _ => some .Kamino

def IntegrationState.protocol : IntegrationState → Option IntegrationType
  | .Undefined _ => none
  | .SplTokenExternal _ => some .SplTokenExternal
  | .CctpBridge _ => some .CctpBridge
  | .LzBridge _ => some .LzBridge
  | .AtomicSwap _ => some .AtomicSwap
  | .Drift _ => some .Drift
  | .Kamino _ => some .Kamino

def PushArgs.protocol : PushArgs → IntegrationType
  | .SplTokenExternal _ => .SplTokenExternal
  | .CctpBridge _ => .CctpBridge
  | .LzBridge _ => .LzBridge
  | .Drift _ _ => .Drift
  | .Kamino _ => .Kamino

def PullArgs.protocol : PullArgs → IntegrationType
  | .SplTokenExternal => .SplTokenExternal
  | .CctpBridge => .CctpBridge
  | .LzBridge => .LzBridge
  | .Drift _ _ => .Drift
  | .Kamino _ => .Kamino

section Readings

variable {config : IntegrationConfig} {state : IntegrationState} {args : PushArgs}
  {pullArgs : PullArgs}

theorem IntegrationConfig.splTokenExternal?_eq {c : SplTokenExternalConfig} :
    config.splTokenExternal? = some c ↔ config = .SplTokenExternal c := by
  cases config <;> simp [splTokenExternal?]

theorem IntegrationConfig.cctpBridge?_eq {c : CctpBridgeConfig} :
    config.cctpBridge? = some c ↔ config = .CctpBridge c := by
  cases config <;> simp [cctpBridge?]

theorem IntegrationConfig.lzBridge?_eq {c : LzBridgeConfig} :
    config.lzBridge? = some c ↔ config = .LzBridge c := by
  cases config <;> simp [lzBridge?]

theorem IntegrationConfig.atomicSwap?_eq {c : AtomicSwapConfig} :
    config.atomicSwap? = some c ↔ config = .AtomicSwap c := by
  cases config <;> simp [atomicSwap?]

theorem IntegrationConfig.drift?_eq {c : DriftConfig} :
    config.drift? = some c ↔ config = .Drift c := by
  cases config <;> simp [drift?]

theorem IntegrationConfig.kamino?_eq {c : KaminoConfig} :
    config.kamino? = some c ↔ config = .Kamino c := by
  cases config <;> simp [kamino?]

theorem IntegrationState.lzBridge?_eq {s : LzBridgeState} :
    state.lzBridge? = some s ↔ state = .LzBridge s := by
  cases state <;> simp [lzBridge?]

theorem IntegrationState.atomicSwap?_eq {s : AtomicSwapState} :
    state.atomicSwap? = some s ↔ state = .AtomicSwap s := by
  cases state <;> simp [atomicSwap?]

theorem IntegrationState.drift?_eq {s : LendingState} :
    state.drift? = some s ↔ state = .Drift s := by
  cases state <;> simp [drift?]

theorem IntegrationState.kamino?_eq {s : LendingState} :
    state.kamino? = some s ↔ state = .Kamino s := by
  cases state <;> simp [kamino?]

theorem PushArgs.splTokenExternal?_eq {n : UInt64} :
    args.splTokenExternal? = some n ↔ args = .SplTokenExternal n := by
  cases args <;> simp [splTokenExternal?]

theorem PushArgs.cctpBridge?_eq {n : UInt64} :
    args.cctpBridge? = some n ↔ args = .CctpBridge n := by
  cases args <;> simp [cctpBridge?]

theorem PushArgs.lzBridge?_eq {n : UInt64} : args.lzBridge? = some n ↔ args = .LzBridge n := by
  cases args <;> simp [lzBridge?]

theorem PushArgs.drift?_eq {m : UInt16} {n : UInt64} :
    args.drift? = some (m, n) ↔ args = .Drift m n := by
  cases args <;> simp [drift?]

theorem PushArgs.kamino?_eq {n : UInt64} : args.kamino? = some n ↔ args = .Kamino n := by
  cases args <;> simp [kamino?]

theorem PullArgs.drift?_eq {m : UInt16} {n : UInt64} :
    pullArgs.drift? = some (m, n) ↔ pullArgs = .Drift m n := by
  cases pullArgs <;> simp [drift?]

theorem PullArgs.kamino?_eq {n : UInt64} :
    pullArgs.kamino? = some n ↔ pullArgs = .Kamino n := by
  cases pullArgs <;> simp [kamino?]

end Readings

/-! ## Permissions -/

/-- The flag that a push of this protocol asks for. -/
def Permission.mayPush (p : Permission) (i : Integration) : PushArgs → Prop
  | .SplTokenExternal _ => p.mayInvokeExternalTransfer
  | .CctpBridge _ => p.mayReallocate ∨ p.mayLiquidate i
  | .LzBridge _ => p.mayReallocate ∨ p.mayLiquidate i
  | .Drift _ _ => p.mayReallocate
  | .Kamino _ => p.mayReallocate

/-- The flag that every pull asks for. -/
def Permission.mayPull (p : Permission) (i : Integration) : Prop :=
  p.mayReallocate ∨ p.mayLiquidate i

/-! ## Invocations -/

/-- The token account of the controller that an invocation moves funds out of, or pulls a
    position back into. -/
def Cpi.vault? : Cpi → Option Pubkey
  | .transferChecked ix => some ix.fromAccount
  | .depositForBurn ix => some ix.vault
  | .kaminoDeposit accounts _ => some accounts.userLiquidity
  | .kaminoWithdraw accounts _ => some accounts.userLiquidity
  | .driftDeposit ix => some ix.userTokenAccount
  | .driftWithdraw ix _ => some ix.userTokenAccount
  | _ => none

/-- The invocations among these entries that move funds move those of this vault. -/
def MovesOnly (vault : Pubkey) (es : List LogEntry) : Prop :=
  ∀ call k, (call, k) ∈ signedCalls es → call.movesFunds = true → call.vault? = some vault

namespace MovesOnly

variable {vault : Pubkey} {es es' : List LogEntry}

theorem append (h : MovesOnly vault es) (h' : MovesOnly vault es') :
    MovesOnly vault (es ++ es') := by
  intro call k hcall hmoves
  rw [signedCalls_append] at hcall
  rcases List.mem_append.mp hcall with hcall | hcall
  · exact h call k hcall hmoves
  · exact h' call k hcall hmoves

theorem of_unsigned (h : signedCalls es = []) : MovesOnly vault es := by
  intro call k hcall
  rw [h] at hcall
  exact absurd hcall List.not_mem_nil

theorem of_signed {call : Cpi} {k : Pubkey} (h : call.vault? = some vault) :
    MovesOnly vault [.cpi call (some k)] := by
  intro call' k' hcall _
  obtain ⟨rfl, -⟩ := Prod.mk.inj (List.mem_singleton.mp hcall)
  exact h

theorem of_prepares [Chain] {ck : Pubkey} {w w' : World} (h : Prepares ck w w' es) :
    MovesOnly vault es := by
  intro call k hcall hmoves
  rw [h.not_movesFunds hcall] at hmoves
  cases hmoves

end MovesOnly

/-- No invocation among these entries moves funds. -/
def MovesNone (es : List LogEntry) : Prop :=
  ∀ ⦃call k⦄, (call, k) ∈ signedCalls es → call.movesFunds = false

namespace MovesNone

variable {es es' : List LogEntry}

theorem append (h : MovesNone es) (h' : MovesNone es') : MovesNone (es ++ es') := by
  intro call k hcall
  rw [signedCalls_append] at hcall
  rcases List.mem_append.mp hcall with hcall | hcall
  · exact h hcall
  · exact h' hcall

theorem of_unsigned (h : signedCalls es = []) : MovesNone es := by
  intro call k hcall
  rw [h] at hcall
  exact absurd hcall List.not_mem_nil

theorem of_signed {call : Cpi} {k : Pubkey} (h : call.movesFunds = false) :
    MovesNone [.cpi call (some k)] := by
  intro call' k' hcall
  obtain ⟨rfl, -⟩ := Prod.mk.inj (List.mem_singleton.mp hcall)
  exact h

theorem of_prepares [Chain] {ck : Pubkey} {w w' : World} (h : Prepares ck w w' es) :
    MovesNone es :=
  fun _ _ hcall => h.not_movesFunds hcall

end MovesNone

end AlmController
