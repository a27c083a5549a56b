import AlmController.Instructions
import AlmController.Ledger

/-!
# Oracles

InitializeOracle, UpdateOracle and RefreshOracle. The last one asks no controller:
it only copies what the feed says.
-/

namespace AlmController

open Prog

variable [Chain]

/-- `PRECISION` of the Switchboard on-demand feeds. -/
def PRECISION : UInt32 := 18

/-- `Oracle::verify_oracle_type`: a type the program knows, and a feed of that type. -/
def Oracle.verifyOracleType (oracleType : UInt8) (priceFeed : AccountMeta) : Ix Unit := do
  rejectIf (oracleType ≠ 0) (SvmAlmControllerErrors.UnsupportedOracleType : Error)
  let w ← read id
  rejectIf (w.owner priceFeed.pubkey ≠ SWITCHBOARD_ON_DEMAND_PROGRAM_ID)
    (SvmAlmControllerErrors.InvalidAccountData : Error)
  let _ ← readData priceFeed.pubkey ExtData.pullFeed?

/-! ## InitializeOracle -/

structure InitializeOracle where
  payer : AccountMeta
  controller : AccountMeta
  controllerAuthority : AccountMeta
  authority : AccountMeta
  priceFeed : AccountMeta
  oracle : AccountMeta
  systemProgram : AccountMeta

def InitializeOracle.specs : List AccountSpec :=
  [{ attrs := [.signer, .writable] },
    { owner := some [ID] },
    { attrs := [.empty], owner := some [SYSTEM_PROGRAM_ID] },
    { attrs := [.signer] },
    {},
    { attrs := [.writable, .empty], owner := some [SYSTEM_PROGRAM_ID] },
    { pubkey := some [SYSTEM_PROGRAM_ID] }]

def InitializeOracle.bind : List AccountMeta → Option InitializeOracle
  | payer :: controller :: controllerAuthority :: authority :: priceFeed :: oracle ::
      systemProgram :: _ =>
    some ⟨payer, controller, controllerAuthority, authority, priceFeed, oracle, systemProgram⟩
  | _ => none

/-- `Oracle::init_account`. -/
def Oracle.initAccount (account authority payer : AccountMeta)
    (controller baseMint quoteMint nonce : Pubkey) (oracleType : UInt8) (priceFeed : AccountMeta) :
    Ix Oracle := do
  rejectIf (oracleType ≠ 0) (SvmAlmControllerErrors.UnsupportedOracleType : Error)
  let oracle : Oracle :=
    { version := 1
      authority := authority.pubkey
      nonce := nonce
      value := 0
      precision := PRECISION
      lastUpdateSlot := 0
      controller := controller
      baseMint := baseMint
      quoteMint := quoteMint
      reserved := 0
      feed := { priceFeed := priceFeed.pubkey, oracleType := oracleType, reserved := 0 } }
  AlmController.initAccount account payer oracle.seeds (.oracle oracle)
  return oracle

def processInitializeOracle (accounts : List AccountMeta) (instructionData : List UInt8) :
    Ix Unit := do
  let ctx ← fromAccounts InitializeOracle.specs InitializeOracle.bind accounts
  let args ← parseArgs InitializeOracleArgs instructionData
  let controller ← Controller.loadAndCheck ctx.controller ctx.controllerAuthority.pubkey
  controller.rejectHalted
  Oracle.verifyOracleType args.oracleType ctx.priceFeed
  let oracle ← Oracle.initAccount ctx.oracle ctx.authority ctx.payer ctx.controller.pubkey
    args.baseMint args.quoteMint args.nonce args.oracleType ctx.priceFeed
  emitEvent controller ctx.controllerAuthority.pubkey ctx.controller.pubkey
    (.OracleUpdate
      { controller := ctx.controller.pubkey
        authority := ctx.authority.pubkey
        account := ctx.oracle.pubkey
        oldState := none
        newState := some oracle })

/-! ## UpdateOracle -/

structure UpdateOracle where
  controller : AccountMeta
  controllerAuthority : AccountMeta
  authority : AccountMeta
  priceFeed : AccountMeta
  oracle : AccountMeta
  newAuthority : AccountMeta

def UpdateOracle.specs : List AccountSpec :=
  [{ owner := some [ID] },
    { attrs := [.empty], owner := some [SYSTEM_PROGRAM_ID] },
    { attrs := [.signer] },
    {},
    { attrs := [.writable], owner := some [ID] },
    {}]

def UpdateOracle.bind : List AccountMeta → Option UpdateOracle
  | controller :: controllerAuthority :: authority :: priceFeed :: oracle :: newAuthority :: _ =>
    some ⟨controller, controllerAuthority, authority, priceFeed, oracle, newAuthority⟩
  | _ => none

/-- Point the oracle at another feed, when one is given; its value starts over. -/
def Oracle.updateFeed (self : Oracle) (feedArgs : Option FeedArgs) (priceFeed : AccountMeta) :
    Ix Oracle :=
  match feedArgs with
  | none => return self
  | some feedArgs => do
    Oracle.verifyOracleType feedArgs.oracleType priceFeed
    return { self with
      feed :=
        { self.feed with oracleType := feedArgs.oracleType, priceFeed := priceFeed.pubkey }
      value := 0
      precision := PRECISION
      lastUpdateSlot := 0 }

/-- Hand the oracle over; the program's own address stands for "no new authority". -/
def Oracle.updateAuthority (self : Oracle) (newAuthority : AccountMeta) : Oracle :=
  if newAuthority.pubkey = ID then self else { self with authority := newAuthority.pubkey }

def processUpdateOracle (accounts : List AccountMeta) (instructionData : List UInt8) :
    Ix Unit := do
  let ctx ← fromAccounts UpdateOracle.specs UpdateOracle.bind accounts
  let args ← parseArgs UpdateOracleArgs instructionData
  let controller ← Controller.loadAndCheck ctx.controller ctx.controllerAuthority.pubkey
  controller.rejectHalted
  let oracle ← Oracle.loadAndCheck ctx.oracle (some ctx.controller.pubkey)
    (some ctx.authority.pubkey)
  let pointed ← oracle.updateFeed args.feedArgs ctx.priceFeed
  let updated := pointed.updateAuthority ctx.newAuthority
  emitEvent controller ctx.controllerAuthority.pubkey ctx.controller.pubkey
    (.OracleUpdate
      { controller := ctx.controller.pubkey
        authority := ctx.authority.pubkey
        account := ctx.oracle.pubkey
        oldState := some oracle
        newState := some updated })
  save ctx.oracle (.oracle updated)

/-! ## RefreshOracle -/

structure RefreshOracle where
  priceFeed : AccountMeta
  oracle : AccountMeta

def RefreshOracle.specs : List AccountSpec := [{}, { attrs := [.writable], owner := some [ID] }]

def RefreshOracle.bind : List AccountMeta → Option RefreshOracle
  | priceFeed :: oracle :: _ => some ⟨priceFeed, oracle⟩
  | _ => none

/-- Copy the feed's current result. No controller is checked: the update has no impact
    on controller related assets. -/
def processRefreshOracle (accounts : List AccountMeta) : Ix Unit := do
  let ctx ← fromAccounts RefreshOracle.specs RefreshOracle.bind accounts
  let oracle ← Oracle.loadAndCheck ctx.oracle none none
  rejectIf (ctx.priceFeed.pubkey ≠ oracle.feed.priceFeed) (.program .InvalidAccountData)
  rejectIf (oracle.feed.oracleType ≠ 0) (SvmAlmControllerErrors.UnsupportedOracleType : Error)
  let w ← read id
  rejectIf (w.owner ctx.priceFeed.pubkey ≠ SWITCHBOARD_ON_DEMAND_PROGRAM_ID)
    (.program .InvalidAccountOwner)
  let dataSource ← readData ctx.priceFeed.pubkey ExtData.pullFeed?
  save ctx.oracle
    (.oracle { oracle with value := dataSource.value, lastUpdateSlot := dataSource.slot })

end AlmController
