import AlmController.Entrypoint
import AlmController.Spec.Repay

/-!
# The subtraction from the recorded balance

An outflow subtracts from `last_balance`, and the program would panic if the balance were too
small. It never is: what is subtracted was measured against a vault amount, and that amount is
the recorded balance, because every path syncs first.

`Safe` is the judgment that a part never reaches the panic. It says nothing about a part that
stops for another reason, so it follows the text of the processors, error paths included; only
where something is subtracted does it matter what the state is.
-/

namespace AlmController

open Prog

/-- The panic of the subtraction. -/
abbrev Error.underflow : Error := .panic .lastBalanceSub

/-- Whether it is that panic. -/
def Error.isUnderflow : Error → Bool
  | .panic .lastBalanceSub => true
  | _ => false

theorem Error.ne_underflow {e : Error} (h : e.isUnderflow = false) : e ≠ .underflow := by
  intro heq
  rw [heq] at h
  cases h

/-- The part never stops with it. -/
abbrev Safe {α : Type} (x : Ix α) : Prop := Avoids Error.underflow x

/-- Nor does a computation without a state. -/
abbrev SafeValue {α : Type} (x : Except Error α) : Prop := x ≠ .error .underflow

section Rules

variable {α β : Type} {c : Prop} [Decidable c] {e : Error} {x y : Ix α} {f : α → Ix β}

theorem Safe.bind (hx : Safe x) (hf : ∀ a, Safe (f a)) : Safe (x >>= f) := Avoids.bind hx hf

theorem Safe.pure {a : α} : Safe (pure a) := Avoids.pure

theorem Safe.read {f : World → α} : Safe (read f) := Avoids.read

theorem Safe.modify {f : World → World} : Safe (modify f) := Avoids.modify

theorem Safe.ite (hx : Safe x) (hy : Safe y) : Safe (if c then x else y) := Avoids.ite hx hy

theorem Safe.onlyIf {x : Ix Unit} (hx : Safe x) : Safe (onlyIf c x) := Avoids.onlyIf hx

theorem Safe.ofExcept {x : Except Error α} (hx : SafeValue x) : Safe (ofExcept x) :=
  Avoids.ofExcept hx

theorem Safe.rejectIf (h : e.isUnderflow = false) : Safe (rejectIf c e) :=
  Avoids.rejectIf (Error.ne_underflow h)

theorem Safe.ofOption {x : Option α} (h : e.isUnderflow = false) : Safe (ofOption x e) :=
  Avoids.ofOption (Error.ne_underflow h)

theorem Safe.fail (h : e.isUnderflow = false) : Safe (fail e : Ix α) :=
  Avoids.fail (Error.ne_underflow h)

theorem SafeValue.check (h : e.isUnderflow = false) : SafeValue (check c e) :=
  check_ne (Error.ne_underflow h)

theorem SafeValue.okOr {x : Option α} (h : e.isUnderflow = false) : SafeValue (okOr x e) :=
  okOr_ne (Error.ne_underflow h)

theorem SafeValue.bind {x : Except Error α} {f : α → Except Error β} (hx : SafeValue x)
    (hf : ∀ a, SafeValue (f a)) : SafeValue (x >>= f) :=
  except_bind_ne hx hf

theorem SafeValue.pure {a : α} : SafeValue (pure a) := except_pure_ne

end Rules

theorem SafeValue.ok {α : Type} {a : α} : SafeValue (.ok a : Except Error α) := by
  intro h
  cases h

theorem SafeValue.error {α : Type} {e : Error} (h : e.isUnderflow = false) :
    SafeValue (.error e : Except Error α) := by
  intro heq
  exact Error.ne_underflow h (Except.error.inj heq)

theorem SafeValue.map {α β : Type} {x : Except Error α} {f : α → β} (hx : SafeValue x) :
    SafeValue (x.map f) := by
  intro h
  cases x with
  | ok a => cases h
  | error e => exact hx (congrArg Except.error (Except.error.inj h))

/-! ## Values that are computed -/

open FlowError (underflow)

theorem RateLimit.refreshRateLimit_safe {l : RateLimit} {clock : Clock} :
    SafeValue (l.refreshRateLimit clock) := by
  unfold RateLimit.refreshRateLimit
  split
  · exact .bind (.bind (.okOr rfl) fun _ => .bind (.okOr rfl) fun _ => .bind (.okOr rfl) fun _ =>
      .pure) fun _ => .pure
  · exact .ok

theorem Reserve.refreshRateLimit_safe {r : Reserve} {clock : Clock} :
    SafeValue (r.refreshRateLimit clock) :=
  .bind RateLimit.refreshRateLimit_safe fun _ => .pure

theorem Integration.refreshRateLimit_safe {i : Integration} {clock : Clock} :
    SafeValue (i.refreshRateLimit clock) :=
  .bind RateLimit.refreshRateLimit_safe fun _ => .pure

theorem SpotMarket.getTokenAmount_safe {market : SpotMarket} {balance : Nat} {type : UInt8} :
    SafeValue (market.getTokenAmount balance type) := by
  refine .bind (.check rfl) fun _ => .bind (.check rfl) fun _ => .bind (.okOr rfl) fun product => ?_
  dsimp only
  split
  · exact .bind .ok fun _ => .okOr rfl
  · exact .bind (.okOr rfl) fun _ => .okOr rfl

theorem KaminoReserve.collateralToLiquidity_safe {reserve : KaminoReserve} {amount : UInt64} :
    SafeValue (reserve.collateralToLiquidity amount) :=
  .bind (.okOr rfl) fun _ => .bind (.okOr rfl) fun _ => .pure

theorem KaminoReserve.liquidityToCollateral_safe {reserve : KaminoReserve} {amount : UInt64} :
    SafeValue (reserve.liquidityToCollateral amount) :=
  .bind (.okOr rfl) fun _ => .okOr rfl

theorem LastUpdate.isStale_safe {update : LastUpdate} {slot : UInt64} :
    SafeValue (update.isStale slot) := by
  unfold LastUpdate.isStale
  split
  · exact .ok
  · exact .bind (.okOr rfl) fun _ => .pure

theorem KaminoConfig.checkAccounts_safe {config : KaminoConfig}
    {obligation kaminoReserve mint : Pubkey} {market : Option Pubkey} :
    SafeValue (config.checkAccounts obligation kaminoReserve mint market) :=
  .bind (.check rfl) fun _ => .bind (.check rfl) fun _ => .bind (.check rfl) fun _ => .check rfl

theorem Integration.setKaminoBalance_safe {i : Integration} {balance : UInt64} :
    SafeValue (i.setKaminoBalance balance) :=
  .bind (.okOr rfl) fun _ => .pure

theorem Integration.setDriftBalance_safe {i : Integration} {balance : UInt64} :
    SafeValue (i.setDriftBalance balance) :=
  .bind (.okOr rfl) fun _ => .pure

theorem lpAmount_safe {w : World} {kaminoReserve obligation : Pubkey} :
    SafeValue (lpAmount w kaminoReserve obligation) := by
  unfold lpAmount
  split
  · exact .ok
  · exact .bind (.okOr rfl) fun _ => .pure

/-! ### The extensions of a mint -/

theorem extensionTypes_safe {fuel : Nat} {data : List UInt8} :
    SafeValue (extensionTypes fuel data) := by
  induction fuel generalizing data with
  | zero => exact .ok
  | succ fuel ih =>
    rcases data with _ | ⟨t₀, _ | ⟨t₁, rest⟩⟩
    · exact .ok
    · exact .error rfl
    · refine .bind (.okOr rfl) fun type => ?_
      rcases rest with _ | ⟨l₀, _ | ⟨l₁, value⟩⟩
      · exact .error rfl
      · exact .error rfl
      · exact .bind ih fun _ => .pure

theorem findExtension_safe {type : ExtensionType} {len fuel : Nat} {data : List UInt8} :
    SafeValue (findExtension type len fuel data) := by
  induction fuel generalizing data with
  | zero => exact .ok
  | succ fuel ih =>
    rcases data with _ | ⟨t₀, _ | ⟨t₁, rest⟩⟩
    · exact .ok
    · exact .error rfl
    · unfold findExtension
      split
      · exact .ok
      · dsimp only
        split
        · split
          · exact .error rfl
          · exact .ok
        · exact ih
      · exact .error rfl

theorem getAllExtensionsForMint_safe {data : List UInt8} :
    SafeValue (getAllExtensionsForMint data) :=
  .bind (.check rfl) fun _ => extensionTypes_safe

theorem getExtensionFromBytes_safe {type : ExtensionType} {len : Nat} {data : List UInt8} :
    SafeValue (getExtensionFromBytes type len data) :=
  .bind (.check rfl) fun _ => findExtension_safe

theorem validateExtension_safe {blocked : List ExtensionType} {data : List UInt8}
    {extension : ExtensionType} : SafeValue (validateExtension blocked data extension) := by
  refine .bind (.check rfl) fun _ => .bind (.check rfl) fun _ => ?_
  split
  · exact .bind getExtensionFromBytes_safe fun _ => .bind (.okOr rfl) fun _ =>
      .bind (.okOr rfl) fun _ => .check rfl
  · split
    · exact .bind getExtensionFromBytes_safe fun _ => .bind (.okOr rfl) fun _ => .check rfl
    · exact .pure

theorem validateExtensions_safe {blocked : List ExtensionType} {data : List UInt8}
    {extensions : List ExtensionType} : SafeValue (validateExtensions blocked data extensions) := by
  induction extensions with
  | nil => exact .pure
  | cons extension extensions ih => exact .bind validateExtension_safe fun _ => ih

theorem validateMintExtensions_safe {k : Pubkey} {blocked : List ExtensionType} :
    Safe (validateMintExtensions k blocked) :=
  .bind .read fun _ => .onlyIf (.bind underflow.readData fun _ => .onlyIf
    (.bind (.ofExcept getAllExtensionsForMint_safe) fun _ => .ofExcept validateExtensions_safe))

/-! ### The transaction around an instruction -/

section Introspection

variable {tx : TxContext} {ix : Instruction} {n : Nat}

theorem TxContext.loadInstructionAt_safe : SafeValue (tx.loadInstructionAt n) := .okOr rfl

theorem Instruction.getAccountKeyAt_safe : SafeValue (ix.getAccountKeyAt n) := .okOr rfl

theorem OftSendParams.deserialize_safe {data : List UInt8} :
    SafeValue (OftSendParams.deserialize data) :=
  .bind (.check rfl) fun _ => .bind (.check rfl) fun _ => .bind (.check rfl) fun _ => .okOr rfl

theorem verifySendIxInTx_safe {authority integration : Pubkey} {accounts : PushLzBridgeAccounts}
    {config : LzBridgeConfig} {amount : UInt64} :
    SafeValue (verifySendIxInTx tx authority accounts config integration amount) := by
  refine .bind (.check rfl) fun _ => .bind (.check rfl) fun _ =>
    .bind TxContext.loadInstructionAt_safe fun reset => ?_
  refine .bind (.check rfl) fun _ => .bind (.okOr rfl) fun _ => .bind (.check rfl) fun _ =>
    .bind Instruction.getAccountKeyAt_safe fun _ => .bind (.check rfl) fun _ => ?_
  refine .bind TxContext.loadInstructionAt_safe fun send => .bind (.check rfl) fun _ =>
    .bind OftSendParams.deserialize_safe fun _ => ?_
  exact .bind Instruction.getAccountKeyAt_safe fun _ => .bind Instruction.getAccountKeyAt_safe fun _ =>
    .bind Instruction.getAccountKeyAt_safe fun _ => .bind Instruction.getAccountKeyAt_safe fun _ =>
      .bind Instruction.getAccountKeyAt_safe fun _ => .bind Instruction.getAccountKeyAt_safe fun _ =>
        .bind Instruction.getAccountKeyAt_safe fun _ => .bind (.check rfl) fun _ => .check rfl

theorem rejectInnerControllerIxs_safe {ixs : List Instruction} :
    SafeValue (rejectInnerControllerIxs ixs) := by
  induction ixs with
  | nil => exact .pure
  | cons ix ixs ih => exact .bind (.check rfl) fun _ => ih

theorem verifyRepayIxInTx_safe {integration recipientA recipientB vaultA vaultB : Pubkey} :
    SafeValue (verifyRepayIxInTx tx integration recipientA recipientB vaultA vaultB) := by
  refine .bind (.check rfl) fun _ => .bind TxContext.loadInstructionAt_safe fun current =>
    .bind (.check rfl) fun _ => .bind (.okOr rfl) fun _ => .bind (.check rfl) fun _ =>
      .bind rejectInnerControllerIxs_safe fun _ => ?_
  refine .bind TxContext.loadInstructionAt_safe fun last => .bind (.check rfl) fun _ =>
    .bind (.okOr rfl) fun _ => .bind (.check rfl) fun _ => ?_
  exact .bind Instruction.getAccountKeyAt_safe fun _ => .bind (.check rfl) fun _ =>
    .bind Instruction.getAccountKeyAt_safe fun _ => .bind Instruction.getAccountKeyAt_safe fun _ =>
      .bind (.check rfl) fun _ => .bind (.check rfl) fun _ => .check rfl

end Introspection

/-! ## Parts that subtract nothing -/

theorem Controller.rejectHalted_safe {c : Controller} : Safe c.rejectHalted :=
  .bind (.rejectIf rfl) fun _ => .rejectIf rfl

theorem getDriftLendingBalance_safe {market : SpotMarket} {user : Pubkey} :
    Safe (getDriftLendingBalance market user) := by
  refine .bind underflow.readData fun _ => ?_
  split
  · exact .ofExcept SpotMarket.getTokenAmount_safe
  · exact .pure

theorem getKaminoLendingBalance_safe {kaminoReserve obligation : Pubkey} :
    Safe (getKaminoLendingBalance kaminoReserve obligation) :=
  .bind .read fun _ => .bind (.ofExcept lpAmount_safe) fun _ => .ite .pure
    (.bind underflow.readData fun _ => .ofExcept KaminoReserve.collateralToLiquidity_safe)

variable [Chain]

theorem checkDerived_safe {account : AccountMeta} {seeds : List (List UInt8)} {program : Pubkey} :
    Safe (checkDerived account seeds program) :=
  .bind (.ofExcept (.map underflow.findAddress)) fun _ => .rejectIf rfl

theorem createPdaAccount_safe {payer account : AccountMeta} {space : Nat}
    {seeds : List (List UInt8)} : Safe (createPdaAccount payer account space seeds) := by
  refine .bind .read fun _ => .bind (.ofOption rfl) fun _ => .bind (.rejectIf rfl) fun _ => ?_
  dsimp only
  split
  · exact .bind (.onlyIf underflow.invoke) fun _ => .bind underflow.invokeWith fun _ =>
      .bind underflow.invokeWith fun _ => .modify
  · exact .bind underflow.invokeWith fun _ => .modify

theorem initAccount_safe {account payer : AccountMeta} {seeds : List (List UInt8)}
    {data : KeelAccount} : Safe (initAccount account payer seeds data) :=
  .bind (.ofExcept underflow.findAddress) fun _ => .bind (.rejectIf rfl) fun _ =>
    .bind createPdaAccount_safe fun _ => underflow.save

omit [Chain] in
theorem Controller.updateAndSave_safe {c : Controller} {account : AccountMeta}
    {status : ControllerStatus} : Safe (c.updateAndSave account status) :=
  .bind (.ofExcept (.bind (.check rfl) fun _ => .pure)) fun _ =>
    .bind underflow.save fun _ => .pure

section Lending

variable {c : Controller} {i : Integration} {ik ck authority mint : Pubkey}

theorem emitLendingBalanceSyncEvent_safe {prev new : UInt64} :
    Safe (emitLendingBalanceSyncEvent c ik ck authority mint prev new) :=
  .onlyIf underflow.emitEvent

theorem syncDriftBalance_safe {spotMarket user : Pubkey} :
    Safe (syncDriftBalance c i ik ck authority spotMarket user) :=
  .bind (.ofOption rfl) fun _ => .bind underflow.readData fun _ =>
    .bind getDriftLendingBalance_safe fun _ =>
      .bind emitLendingBalanceSyncEvent_safe fun _ => .pure

theorem syncKaminoLiquidityValue_safe {kaminoReserve obligation : Pubkey} :
    Safe (syncKaminoLiquidityValue c i ik ck authority mint kaminoReserve obligation) :=
  .bind (.ofOption rfl) fun _ => .bind getKaminoLendingBalance_safe fun _ =>
    .bind emitLendingBalanceSyncEvent_safe fun _ => .pure

end Lending

/-! ### Drift -/

section Drift

variable {ctx : PushAccounts} {config : IntegrationConfig} {accounts : List AccountMeta}
  {spotMarketIndex : UInt16}

theorem DriftConfig.checkAccounts_safe {config : DriftConfig} {authority user : Pubkey} :
    SafeValue (config.checkAccounts authority user spotMarketIndex) :=
  .bind (.map underflow.findAddress) fun _ => .bind (.check rfl) fun _ => .check rfl

theorem findSpotMarketAndOracle_safe : Safe (findSpotMarketAndOracle accounts spotMarketIndex) :=
  .bind (.ofExcept (.map underflow.findAddress)) fun _ => .bind (.ofOption rfl) fun _ =>
    .bind underflow.readData fun _ => .bind (.ofOption rfl) fun _ => .pure

theorem PushDriftAccounts.checkedFromAccounts_safe :
    Safe (checkedFromAccounts config ctx spotMarketIndex) :=
  .bind underflow.fromAccounts fun _ => .bind (.ofOption rfl) fun _ =>
    .bind (.ofExcept DriftConfig.checkAccounts_safe) fun _ => .bind checkDerived_safe fun _ =>
      .bind checkDerived_safe fun _ => .bind checkDerived_safe fun _ => .pure

theorem PullDriftAccounts.checkedFromAccounts_safe :
    Safe (checkedFromAccounts config ctx spotMarketIndex) :=
  .bind underflow.fromAccounts fun _ => .bind (.ofOption rfl) fun _ =>
    .bind (.ofExcept DriftConfig.checkAccounts_safe) fun _ => .bind checkDerived_safe fun _ =>
      .bind checkDerived_safe fun _ => .bind checkDerived_safe fun _ => .pure

theorem SyncDriftAccounts.checkedFromAccounts_safe {authority : Pubkey} :
    Safe (checkedFromAccounts config authority accounts) :=
  .bind underflow.fromAccounts fun _ => .bind (.ofOption rfl) fun _ =>
    .bind checkDerived_safe fun _ => .bind checkDerived_safe fun _ => .bind checkDerived_safe fun _ =>
      .bind underflow.readData fun _ => .bind (.rejectIf rfl) fun _ => .pure

end Drift

/-! ### Kamino -/

section Kamino

variable {c : Controller} {i : Integration} {r : Reserve} {config : IntegrationConfig}
  {accounts : List AccountMeta} {authority : Pubkey}

theorem PushPullKaminoAccounts.checkedFromAccounts_safe :
    Safe (checkedFromAccounts authority config accounts r) := by
  refine .bind underflow.fromAccounts fun _ => .bind (.ofOption rfl) fun _ =>
    .bind (.ofExcept KaminoConfig.checkAccounts_safe) fun _ => .bind checkDerived_safe fun _ =>
      .bind underflow.tokenAccount fun _ => ?_
  refine .bind (.rejectIf rfl) fun _ => .bind (.rejectIf rfl) fun _ => .bind (.rejectIf rfl) fun _ =>
    .bind (.rejectIf rfl) fun _ => .bind .read fun _ => .bind (.rejectIf rfl) fun _ =>
      .bind ?_ fun _ => .pure
  exact .bind .read fun _ => .onlyIf (.bind (.rejectIf rfl) fun _ => checkDerived_safe)

theorem reopenObligation_safe {ctx : PushAccounts} {innerCtx : PushPullKaminoAccounts} :
    Safe (reopenObligation c i ctx innerCtx) :=
  .bind .read fun _ => .ite
    (.bind (.ofOption rfl) fun _ => .bind
      (.bind underflow.fromAccounts fun _ => .bind checkDerived_safe fun _ => .pure) fun _ =>
        .bind underflow.invokeSigned fun _ => underflow.invoke)
    (.bind underflow.readData fun _ => .rejectIf rfl)

omit [Chain] in
theorem SyncKaminoAccounts.checkedFromAccounts_safe :
    Safe (checkedFromAccounts config accounts r) :=
  .bind underflow.fromAccounts fun _ => .bind (.ofOption rfl) fun _ =>
    .bind (.ofExcept KaminoConfig.checkAccounts_safe) fun _ => .bind (.rejectIf rfl) fun _ => .pure

theorem HarvestKaminoAccounts.checkedFromAccounts_safe {obligation : Pubkey} :
    Safe (checkedFromAccounts obligation accounts) :=
  .bind underflow.fromAccounts fun _ => .bind checkDerived_safe fun _ =>
    .bind checkDerived_safe fun _ => .bind checkDerived_safe fun _ =>
      .bind checkDerived_safe fun _ => .pure

end Kamino

/-! ## Flows -/

section Flows

omit [Chain]

variable {clock : Clock} {n : UInt64} {allow : Bool} {r : Reserve} {i : Integration}

theorem RateLimit.inflow_safe {l : RateLimit} : SafeValue (l.inflow clock n) :=
  .bind (.check rfl) fun _ => .pure

theorem RateLimit.outflow_safe {l : RateLimit} : SafeValue (l.outflow clock n allow) := by
  refine .bind (.check rfl) fun _ => ?_
  split
  · exact .pure
  · exact .bind (.okOr rfl) fun _ => .pure

theorem Reserve.recordInflow_safe : Safe (r.recordInflow clock n) :=
  .bind (.ofExcept (.bind RateLimit.inflow_safe fun _ => .bind (.okOr rfl) fun _ => .pure))
    fun _ => .bind .modify fun _ => .pure

theorem Integration.recordInflow_safe : Safe (i.recordInflow clock n) :=
  .bind (.ofExcept (.bind RateLimit.inflow_safe fun _ => .pure)) fun _ =>
    .bind .modify fun _ => .pure

theorem Integration.recordOutflow_safe : Safe (i.recordOutflow clock n) :=
  .bind (.ofExcept (.bind RateLimit.outflow_safe fun _ => .pure)) fun _ =>
    .bind .modify fun _ => .pure

/-- **The subtraction**: it is safe when there is enough to subtract from. -/
theorem Reserve.recordOutflow_safe (h : n ≤ r.lastBalance) : Safe (r.recordOutflow clock n allow) := by
  refine .bind (.ofExcept (.bind RateLimit.outflow_safe fun _ => .bind ?_ fun _ => .pure))
    fun _ => .bind .modify fun _ => .pure
  intro hfail
  have hnone := UInt64.checkedSub_eq_none.mp (okOr_error.mp hfail).1
  exact absurd (UInt64.le_iff_toNat_le.mp h) (Nat.not_le.mpr hnone)

end Flows

section Reserves

variable {c : Controller} {ctx : PushAccounts} {i : Integration} {r r' : Reserve}
  {vault : AccountMeta} {authority ck k : Pubkey} {w w' : World}

/-- A sync subtracts the difference to the vault, which is no more than there is. -/
theorem Reserve.syncBalance_safe : Safe (r.syncBalance vault authority ck c) := by
  refine .bind (.rejectIf rfl) fun _ => .bind (.rejectIf rfl) fun _ => .bind .read fun clock => ?_
  intro w
  refine Avoids.bind_at (Safe.ofExcept Reserve.refreshRateLimit_safe w) fun refreshed _ hread => ?_
  obtain ⟨hrefresh, rfl⟩ := ofExcept_ok.mp hread
  refine Safe.bind underflow.tokenAccount (fun t => ?_) w
  dsimp only
  split
  · exact .pure
  refine .bind (.ofExcept underflow.findAddress) fun found => ?_
  rcases found with ⟨pda, bump⟩
  dsimp only
  split
  · exact .bind Reserve.recordInflow_safe fun _ => .bind underflow.emitEvent fun _ => .pure
  · rename_i hge
    refine .bind (Reserve.recordOutflow_safe ?_) fun _ => .bind underflow.emitEvent fun _ => .pure
    have hdiff := UInt64.toNat_absDiff (a := t.amount) (b := r.lastBalance)
    rw [UInt64.lt_iff_toNat_lt] at hge
    rw [Reserve.refreshRateLimit_lastBalance hrefresh, UInt64.le_iff_toNat_le]
    omega

/-- After a sync the recorded balance is the vault's. -/
theorem Reserve.syncBalance_tracked (hk : pdaOf r.seeds = some k)
    (h : r.syncBalance vault authority ck c w = .ok (r', w')) :
    w'.bank.tokenAmount r.vault = r'.lastBalance.toNat := by
  obtain ⟨-, -, t, ht, -, hsynced⟩ := Reserve.syncBalance_ok hk h
  obtain ⟨es, hrun⟩ := hsynced.run
  rw [hrun.bank, hrun.lastBalance]
  exact Bank.tokenAmount_of_token? ht

/-- What is settled is no more than the balance after the sync. -/
theorem settlePush_safe {vault mint : Pubkey} {action : AccountingAction}
    {amount postSyncBalance : UInt64} (h : postSyncBalance ≤ r.lastBalance) :
    Safe (settlePush c ctx vault mint action amount postSyncBalance i r) := by
  refine .bind .read fun clock => .bind underflow.tokenAccount fun t => ?_
  intro w
  refine Avoids.bind_at (Safe.ofOption rfl w) fun delta _ hread => ?_
  obtain ⟨hdelta, rfl⟩ := ofOption_ok.mp hread
  have hle : delta ≤ r.lastBalance := by
    have hsum := UInt64.checkedSub_eq_some.mp hdelta
    rw [UInt64.le_iff_toNat_le] at h ⊢
    omega
  exact Safe.bind (.rejectIf rfl) (fun _ => .bind Integration.recordOutflow_safe fun _ =>
    .bind (Reserve.recordOutflow_safe hle) fun _ => .bind underflow.emitEvent fun _ =>
      .bind underflow.emitEvent fun _ => .pure) w

end Reserves

/-! ## Push -/

section Push

variable {tx : TxContext} {c : Controller} {p : Permission} {ctx : PushAccounts} {args : PushArgs}
  {i : Integration} {r : Reserve} {k : Pubkey}

theorem processPushSplTokenExternal_safe : Safe (processPushSplTokenExternal c p i r ctx args) := by
  refine .bind (.ofOption rfl) fun amount => .bind (.rejectIf rfl) fun _ => .bind (.rejectIf rfl)
    fun _ => .bind ?_ fun innerCtx => ?_
  · exact .bind underflow.fromAccounts fun _ => .bind (.ofOption rfl) fun _ => .bind .read fun _ =>
      .bind (.rejectIf rfl) fun _ => .bind (.rejectIf rfl) fun _ => .bind (.rejectIf rfl) fun _ =>
        .bind (.rejectIf rfl) fun _ => .bind (.rejectIf rfl) fun _ => .bind (.rejectIf rfl) fun _ =>
          .pure
  · exact .bind (.rejectIf rfl) fun _ => .bind (.rejectIf rfl) fun _ =>
      .bind Reserve.syncBalance_safe fun _ => .bind underflow.invoke fun _ =>
        .bind underflow.mint fun _ => .bind underflow.invokeSigned fun _ =>
          settlePush_safe (UInt64.le_refl _)

theorem processPushCctpBridge_safe : Safe (processPushCctpBridge c p i r ctx args) := by
  refine .bind (.ofOption rfl) fun amount => .bind (.rejectIf rfl) fun _ => .bind (.rejectIf rfl)
    fun _ => .bind ?_ fun innerCtx => ?_
  · exact .bind underflow.fromAccounts fun _ => .bind (.ofOption rfl) fun _ =>
      .bind (.rejectIf rfl) fun _ => .bind (.rejectIf rfl) fun _ => .bind (.rejectIf rfl) fun _ =>
        .pure
  · exact .bind (.ofOption rfl) fun _ => .bind underflow.readData fun _ => .bind (.rejectIf rfl)
      fun _ => .bind underflow.readData fun _ => .bind (.rejectIf rfl) fun _ =>
        .bind (.rejectIf rfl) fun _ => .bind (.rejectIf rfl) fun _ =>
          .bind Reserve.syncBalance_safe fun _ => .bind underflow.invokeSigned fun _ =>
            settlePush_safe (UInt64.le_refl _)

theorem processPushLzBridge_safe : Safe (processPushLzBridge tx c p i r ctx args) := by
  refine .bind (.ofOption rfl) fun amount => .bind (.rejectIf rfl) fun _ => .bind (.rejectIf rfl)
    fun _ => .bind ?_ fun innerCtx => ?_
  · exact .bind underflow.fromAccounts fun _ => .bind (.ofOption rfl) fun _ =>
      .bind (.rejectIf rfl) fun _ => .pure
  · exact .bind (.ofOption rfl) fun _ => .bind (.ofOption rfl) fun _ => .bind (.rejectIf rfl)
      fun _ => .bind (.rejectIf rfl) fun _ => .bind (.rejectIf rfl) fun _ =>
        .bind (.ofExcept verifySendIxInTx_safe) fun _ => .bind Reserve.syncBalance_safe fun _ =>
          .bind underflow.invoke fun _ => .bind underflow.mint fun _ =>
            .bind underflow.invokeSigned fun _ => settlePush_safe (UInt64.le_refl _)

/-- The amount deposited is measured from the vault before, which Drift's refresh of the market
    left at the synced amount. -/
theorem processPushDrift_safe (laws : TokenLaws) (hk : pdaOf r.seeds = some k) :
    Safe (processPushDrift c p i r ctx args) := by
  refine .bind (.ofOption rfl) fun parsed => ?_
  rcases parsed with ⟨spotMarketIndex, amount⟩
  refine .bind (.rejectIf rfl) fun _ => .bind (.rejectIf rfl) fun _ =>
    .bind PushDriftAccounts.checkedFromAccounts_safe fun innerCtx => ?_
  intro w
  refine Avoids.bind_at (Reserve.syncBalance_safe w) fun synced w₁ hsync => ?_
  have hsynced := Reserve.syncBalance_tracked hk hsync
  obtain ⟨hvault, -⟩ := Reserve.syncBalance_ok hk hsync
  refine Avoids.bind_at (findSpotMarketAndOracle_safe w₁) fun found _ hfind => ?_
  obtain rfl := readOnly_findSpotMarketAndOracle hfind
  rcases found with ⟨market, oracle⟩
  refine Avoids.bind_at (underflow.invoke w₁) fun _ _ hinvoke => ?_
  obtain ⟨bank, hupdate, rfl⟩ := invoke_ok.mp hinvoke
  refine Avoids.bind_at (syncDriftBalance_safe _) fun _ w₂ hreport => ?_
  obtain ⟨_, hreport, -⟩ := syncDriftBalance_run hreport
  refine Avoids.bind_at (underflow.tokenAccount w₂) fun before _ hbefore => ?_
  obtain ⟨rfl, -, hbefore⟩ := TokenAccount.fromAccountInfo_ok hbefore
  have hamount : before.amount.toNat = synced.lastBalance.toNat := by
    rw [hvault] at hbefore
    have hquiet := laws.quiet rfl hupdate r.vault
    rw [← Bank.tokenAmount_of_token? hbefore, hreport.bank, ← hsynced]
    exact hquiet
  refine Safe.bind underflow.tokenAccount (fun _ => .bind underflow.invokeSigned fun _ =>
    .bind underflow.tokenAccount fun after => ?_) w₂
  intro w₃
  refine Avoids.bind_at (Safe.ofOption rfl w₃) fun delta _ hread => ?_
  obtain ⟨hdelta, rfl⟩ := ofOption_ok.mp hread
  have hle : delta ≤ synced.lastBalance := by
    have hsum := UInt64.checkedSub_eq_some.mp hdelta
    rw [UInt64.le_iff_toNat_le]
    omega
  refine Safe.bind (.rejectIf rfl) (fun _ => .bind underflow.tokenAccount fun _ =>
    .bind (.ofOption rfl) fun _ => .bind underflow.emitEvent fun _ => .bind underflow.emitEvent
      fun _ => .bind (.ofOption rfl) fun _ => ?_) w₃
  exact .bind underflow.readData fun _ => .bind getDriftLendingBalance_safe fun _ =>
    .bind (.ofExcept Integration.setDriftBalance_safe) fun _ => .bind .read fun _ =>
      .bind Integration.recordOutflow_safe fun _ => .bind (Reserve.recordOutflow_safe hle) fun _ =>
        .pure

theorem processPushKamino_safe (hk : pdaOf r.seeds = some k) :
    Safe (processPushKamino c p i r ctx args) := by
  refine .bind .read fun clock => .bind (.ofOption rfl) fun amount => .bind (.rejectIf rfl) fun _ =>
    .bind (.rejectIf rfl) fun _ => ?_
  intro w
  refine Avoids.bind_at (PushPullKaminoAccounts.checkedFromAccounts_safe w) fun innerCtx _ h => ?_
  obtain ⟨rfl, -, hvault⟩ := PushPullKaminoAccounts.checkedFromAccounts_ok h
  refine Safe.bind .read (fun _ => .bind (.rejectIf rfl) fun _ => .bind reopenObligation_safe
    fun _ => ?_) w
  intro w₀
  refine Avoids.bind_at (Reserve.syncBalance_safe w₀) fun synced w₁ hsync => ?_
  have hsynced := Reserve.syncBalance_tracked hk hsync
  refine Avoids.bind_at (syncKaminoLiquidityValue_safe w₁) fun _ w₂ hreport => ?_
  obtain ⟨_, hreport, -⟩ := syncKaminoLiquidityValue_run hreport
  refine Avoids.bind_at (underflow.tokenAccount w₂) fun before _ hbefore => ?_
  obtain ⟨rfl, -, hbefore⟩ := TokenAccount.fromAccountInfo_ok hbefore
  have hamount : before.amount.toNat = synced.lastBalance.toNat := by
    rw [hvault] at hbefore
    rw [← Bank.tokenAmount_of_token? hbefore, hreport.bank, hsynced]
  refine Safe.bind getKaminoLendingBalance_safe (fun _ => .bind underflow.invokeSigned fun _ =>
    .bind underflow.tokenAccount fun after => ?_) w₂
  have hle : before.amount.saturatingSub after.amount ≤ synced.lastBalance := by
    rw [UInt64.le_iff_toNat_le, UInt64.toNat_saturatingSub, hamount]
    exact Nat.sub_le _ _
  refine .bind getKaminoLendingBalance_safe fun _ => .bind underflow.emitEvent fun _ =>
    .bind underflow.emitEvent fun _ => .bind (.ofExcept Integration.setKaminoBalance_safe) fun _ => ?_
  exact .bind Integration.recordOutflow_safe fun _ => .bind (Reserve.recordOutflow_safe hle) fun _ =>
    .pure

theorem processPushProtocol_safe (laws : TokenLaws) (hk : pdaOf r.seeds = some k) :
    Safe (processPushProtocol tx c p i r ctx args) := by
  cases args with
  | SplTokenExternal => exact processPushSplTokenExternal_safe
  | CctpBridge => exact processPushCctpBridge_safe
  | LzBridge => exact processPushLzBridge_safe
  | Drift => exact processPushDrift_safe laws hk
  | Kamino => exact processPushKamino_safe hk

end Push

/-! ## Pull and SyncIntegration

Both only add to the balance, after a sync. -/

section Pull

variable {c : Controller} {p : Permission} {ctx : PushAccounts} {args : PullArgs} {i : Integration}
  {r : Reserve}

theorem processPullKamino_safe : Safe (processPullKamino c p i r ctx args) := by
  refine .bind .read fun clock => .bind (.ofOption rfl) fun amount => .bind (.rejectIf rfl) fun _ =>
    .bind (.rejectIf rfl) fun _ => .bind PushPullKaminoAccounts.checkedFromAccounts_safe
      fun innerCtx => .bind .read fun _ => .bind (.rejectIf rfl) fun _ => ?_
  refine .bind Reserve.syncBalance_safe fun synced => .bind syncKaminoLiquidityValue_safe fun _ =>
    .bind underflow.readData fun _ => .bind (.ofExcept KaminoReserve.liquidityToCollateral_safe)
      fun _ => .bind underflow.tokenAccount fun _ => .bind underflow.invokeSigned fun _ =>
        .bind underflow.tokenAccount fun _ => .bind getKaminoLendingBalance_safe fun _ => ?_
  exact .bind underflow.emitEvent fun _ => .bind underflow.emitEvent fun _ =>
    .bind (.ofExcept Integration.setKaminoBalance_safe) fun _ =>
      .bind Integration.recordInflow_safe fun _ => .bind Reserve.recordInflow_safe fun _ => .pure

theorem processPullDrift_safe : Safe (processPullDrift c p i r ctx args) := by
  refine .bind (.ofOption rfl) fun parsed => ?_
  rcases parsed with ⟨spotMarketIndex, amount⟩
  refine .bind (.rejectIf rfl) fun _ => .bind (.rejectIf rfl) fun _ =>
    .bind PullDriftAccounts.checkedFromAccounts_safe fun innerCtx =>
      .bind Reserve.syncBalance_safe fun synced => .bind findSpotMarketAndOracle_safe fun found => ?_
  rcases found with ⟨market, oracle⟩
  refine .bind underflow.invoke fun _ => .bind syncDriftBalance_safe fun _ =>
    .bind underflow.tokenAccount fun _ => .bind underflow.invokeSigned fun _ =>
      .bind underflow.tokenAccount fun _ => .bind underflow.tokenAccount fun _ =>
        .bind underflow.emitEvent fun _ => .bind underflow.emitEvent fun _ => ?_
  exact .bind (.ofOption rfl) fun _ => .bind underflow.readData fun _ =>
    .bind getDriftLendingBalance_safe fun _ => .bind (.ofExcept Integration.setDriftBalance_safe)
      fun _ => .bind .read fun _ => .bind Integration.recordInflow_safe fun _ =>
        .bind Reserve.recordInflow_safe fun _ => .pure

theorem processPullProtocol_safe : Safe (processPullProtocol c p i r ctx args) := by
  cases args with
  | SplTokenExternal => exact .fail rfl
  | CctpBridge => exact .fail rfl
  | LzBridge => exact .fail rfl
  | Kamino => exact processPullKamino_safe
  | Drift => exact processPullDrift_safe

end Pull

section Sync

variable {c : Controller} {ctx : SyncIntegrationAccounts} {i : Integration} {r : Reserve}

theorem harvestRewards_safe {innerCtx : SyncKaminoAccounts} {state : KaminoReserve} :
    Safe (harvestRewards c i r ctx innerCtx state) := by
  refine .bind HarvestKaminoAccounts.checkedFromAccounts_safe fun _ => .bind (.rejectIf rfl) fun _ =>
    .bind underflow.readData fun _ => .bind (.ofOption rfl) fun _ => .bind underflow.invoke fun _ =>
      .bind underflow.invokeSigned fun _ => .ite ?_ .pure
  exact .bind .read fun _ => .bind underflow.tokenAccount fun _ => .bind underflow.emitEvent fun _ =>
    .bind underflow.emitEvent fun _ => .bind underflow.emitEvent fun _ =>
      .bind Reserve.recordInflow_safe fun _ => .bind Integration.recordInflow_safe fun _ => .pure

theorem processSyncKamino_safe : Safe (processSyncKamino c i r ctx) := by
  refine .bind SyncKaminoAccounts.checkedFromAccounts_safe fun innerCtx =>
    .bind Reserve.syncBalance_safe fun synced => .bind underflow.readData fun state =>
      .bind .read fun _ => .bind (.ofExcept LastUpdate.isStale_safe) fun _ =>
        .bind (.rejectIf rfl) fun _ => .bind (.ite harvestRewards_safe .pure) fun pair => ?_
  rcases pair with ⟨harvested, reserve⟩
  exact .bind syncKaminoLiquidityValue_safe fun _ =>
    .bind (.ofExcept Integration.setKaminoBalance_safe) fun _ => .pure

theorem processSyncDrift_safe : Safe (processSyncDrift c i ctx) :=
  .bind SyncDriftAccounts.checkedFromAccounts_safe fun _ => .bind underflow.invoke fun _ =>
    .bind syncDriftBalance_safe fun _ => .ofExcept Integration.setDriftBalance_safe

theorem processSyncProtocol_safe : Safe (processSyncProtocol c i ctx) := by
  unfold processSyncProtocol
  split
  · refine .bind underflow.reserve fun r => .bind processSyncKamino_safe fun pair => ?_
    rcases pair with ⟨updated, synced⟩
    exact .bind underflow.save fun _ => .pure
  · exact processSyncDrift_safe
  · exact .fail rfl

end Sync

/-! ## The instructions -/

section Instructions

variable {tx : TxContext} {accounts : List AccountMeta} {data : List UInt8}

theorem processInitializeReserve_safe : Safe (processInitializeReserve accounts data) := by
  refine .bind underflow.fromAccounts fun ctx => .bind underflow.parseArgs fun args =>
    .bind underflow.controller fun c => .bind Controller.rejectHalted_safe fun _ =>
      .bind underflow.permission fun p => .bind (.rejectIf rfl) fun _ => .bind underflow.mint fun _ =>
        .bind validateMintExtensions_safe fun _ => .bind underflow.invoke fun _ => ?_
  exact .bind (.bind .read fun _ => .bind initAccount_safe fun _ => .pure) fun r =>
    .bind underflow.emitEvent fun _ => .bind Reserve.syncBalance_safe fun _ => underflow.save

theorem processSyncReserve_safe : Safe (processSyncReserve accounts) :=
  .bind underflow.fromAccounts fun _ => .bind underflow.controller fun _ =>
    .bind Controller.rejectHalted_safe fun _ => .bind underflow.reserve fun _ =>
      .bind Reserve.syncBalance_safe fun _ => underflow.save

theorem processSyncIntegration_safe : Safe (processSyncIntegration accounts) :=
  .bind .read fun _ => .bind underflow.fromAccounts fun _ => .bind underflow.controller fun _ =>
    .bind Controller.rejectHalted_safe fun _ => .bind underflow.integration fun _ =>
      .bind (.ofExcept Integration.refreshRateLimit_safe) fun _ =>
        .bind processSyncProtocol_safe fun _ => underflow.save

theorem loadForFlow_safe {ctx : PushAccounts} : Safe (loadForFlow ctx) :=
  .bind .read fun _ => .bind underflow.controller fun _ => .bind (.rejectIf rfl) fun _ =>
    .bind underflow.permission fun _ => .bind (.rejectIf rfl) fun _ => .bind underflow.integration
      fun _ => .bind (.rejectIf rfl) fun _ => .bind (.ofExcept Integration.refreshRateLimit_safe)
        fun _ => .bind underflow.reserve fun _ => .bind (.rejectIf rfl) fun _ => .pure

theorem processPush_safe (laws : TokenLaws) : Safe (processPush tx accounts data) := by
  intro w
  refine Avoids.bind_at (underflow.fromAccounts w) fun ctx _ hctx => ?_
  obtain ⟨haccounts, hbind, rfl⟩ := fromAccounts_ok.mp hctx
  refine Avoids.bind_at (underflow.parseArgs w) fun args _ hargs => ?_
  obtain ⟨-, rfl⟩ := parseArgs_ok.mp hargs
  refine Avoids.bind_at (loadForFlow_safe w) fun loaded _ hload => ?_
  rcases loaded with ⟨c, p, refreshed, r⟩
  obtain ⟨rfl, i, hparties, -⟩ := loadForFlow_ok haccounts hbind hload
  refine Safe.bind (processPushProtocol_safe laws hparties.reserve.seeds) (fun pair => ?_) w
  rcases pair with ⟨i', r'⟩
  exact .bind underflow.save fun _ => underflow.save

theorem processPull_safe : Safe (processPull accounts data) := by
  refine .bind underflow.fromAccounts fun ctx => .bind underflow.parseArgs fun args =>
    .bind loadForFlow_safe fun loaded => ?_
  rcases loaded with ⟨c, p, refreshed, r⟩
  refine .bind processPullProtocol_safe fun pair => ?_
  rcases pair with ⟨i', r'⟩
  exact .bind underflow.save fun _ => underflow.save

/-- What a Borrow lends was in the vault, whose amount is the balance just synced. -/
theorem processAtomicSwapBorrow_safe : Safe (processAtomicSwapBorrow tx accounts data) := by
  refine .bind underflow.fromAccounts fun ctx => .bind underflow.parseArgs fun args =>
    .bind underflow.controller fun c => .bind (.rejectIf rfl) fun _ => .bind underflow.permission
      fun p => .bind (.rejectIf rfl) fun _ => .bind .read fun clock => ?_
  intro w
  refine Avoids.bind_at (underflow.reserve w) fun rA _ hread => ?_
  obtain ⟨rfl, hrA⟩ := Reserve.loadAndCheck_at hread
  refine Avoids.bind_at (Safe.rejectIf rfl w) fun _ _ hread => ?_
  obtain ⟨hplaces, rfl⟩ := rejectIf_ok.mp hread
  rw [not_or, not_not] at hplaces
  refine Avoids.bind_at (Safe.rejectIf rfl w) fun _ _ hread => ?_
  obtain ⟨-, rfl⟩ := rejectIf_ok.mp hread
  refine Avoids.bind_at (underflow.reserve w) fun rB _ hread => ?_
  obtain ⟨rfl, hrB⟩ := Reserve.loadAndCheck_at hread
  refine Safe.bind (.rejectIf rfl) (fun _ => .bind (.rejectIf rfl) fun _ => ?_) w
  intro w₀
  refine Avoids.bind_at (Reserve.syncBalance_safe w₀) fun sA wA hsyncA => ?_
  have hsyncedA := Reserve.syncBalance_tracked hrA.seeds hsyncA
  refine Avoids.bind_at (Reserve.syncBalance_safe wA) fun sB wB hsyncB => ?_
  obtain ⟨-, -, _, -, -, hsyncedB⟩ := Reserve.syncBalance_ok hrB.seeds hsyncB
  obtain ⟨_, hrunB⟩ := hsyncedB.run
  refine Avoids.bind_at (underflow.integration wB) fun i _ hread => ?_
  obtain ⟨rfl, -⟩ := Integration.loadAndCheck_at hread
  refine Avoids.bind_at (Safe.rejectIf rfl wB) fun _ _ hread => ?_
  obtain ⟨-, rfl⟩ := rejectIf_ok.mp hread
  refine Avoids.bind_at (Safe.ofExcept Integration.refreshRateLimit_safe wB) fun refreshed _ hread => ?_
  obtain ⟨-, rfl⟩ := ofExcept_ok.mp hread
  refine Avoids.bind_at (Safe.ofOption rfl wB) fun cfg _ hread => ?_
  obtain ⟨-, rfl⟩ := ofOption_ok.mp hread
  refine Avoids.bind_at (Safe.ofOption rfl wB) fun state _ hread => ?_
  obtain ⟨-, rfl⟩ := ofOption_ok.mp hread
  refine Avoids.bind_at (Safe.rejectIf rfl wB) fun _ _ hread => ?_
  obtain ⟨-, rfl⟩ := rejectIf_ok.mp hread
  refine Avoids.bind_at (Safe.rejectIf rfl wB) fun _ _ hread => ?_
  obtain ⟨-, rfl⟩ := rejectIf_ok.mp hread
  refine Avoids.bind_at (Safe.rejectIf rfl wB) fun _ _ hread => ?_
  obtain ⟨-, rfl⟩ := rejectIf_ok.mp hread
  refine Avoids.bind_at (underflow.tokenAccount wB) fun tA _ hread => ?_
  obtain ⟨rfl, -, htA⟩ := TokenAccount.fromAccountInfo_ok hread
  have hamount : tA.amount.toNat = sA.lastBalance.toNat := by
    rw [← hplaces.1] at htA
    rw [← Bank.tokenAmount_of_token? htA, hrunB.bank, hsyncedA]
  refine Safe.bind underflow.tokenAccount (fun _ => .bind (.rejectIf rfl) fun _ =>
    .bind underflow.tokenAccount fun _ => .bind underflow.tokenAccount fun _ => ?_) wB
  intro w₁
  refine Avoids.bind_at (Safe.rejectIf rfl w₁) fun _ _ hread => ?_
  obtain ⟨henough, rfl⟩ := rejectIf_ok.mp hread
  have hle : args.amount ≤ sA.lastBalance := by
    rw [UInt64.lt_iff_toNat_lt] at henough
    rw [UInt64.le_iff_toNat_le]
    omega
  refine Safe.bind (.rejectIf rfl) (fun _ => .bind underflow.mint fun _ =>
    .bind underflow.invokeSigned fun _ => .bind (.ofExcept verifyRepayIxInTx_safe) fun _ => ?_) w₁
  exact .bind (Reserve.recordOutflow_safe hle) fun _ => .bind underflow.save fun _ =>
    .bind underflow.save fun _ => .bind Integration.recordOutflow_safe fun _ =>
      .bind underflow.save fun _ => .bind Controller.updateAndSave_safe fun _ => .pure

/-- A Repay only adds. -/
theorem processAtomicSwapRepay_safe : Safe (processAtomicSwapRepay accounts) := by
  refine .bind underflow.fromAccounts fun ctx => .bind .read fun clock =>
    .bind underflow.permission fun p => .bind (.rejectIf rfl) fun _ => .bind underflow.controller
      fun locked => .bind (.rejectIf rfl) fun _ => .bind Controller.updateAndSave_safe fun c =>
        .bind underflow.reserve fun rA => .bind (.rejectIf rfl) fun _ => ?_
  refine .bind underflow.reserve fun rB => .bind (.rejectIf rfl) fun _ => .bind underflow.integration
    fun i => .bind (.ofOption rfl) fun cfg => .bind (.ofOption rfl) fun state =>
      .bind (.rejectIf rfl) fun _ => .bind (.rejectIf rfl) fun _ => ?_
  refine .bind underflow.tokenAccount fun _ => .bind underflow.tokenAccount fun _ =>
    .bind underflow.tokenAccount fun _ => .bind underflow.tokenAccount fun _ =>
      .bind (.ofOption rfl) fun _ => .bind (.ofOption rfl) fun _ => .bind (.rejectIf rfl) fun _ =>
        .bind underflow.repayInput fun spent => ?_
  rcases spent with ⟨final, deltaA⟩
  refine .bind underflow.repayTokens fun deltaB => .bind underflow.oracle fun _ =>
    .bind (.rejectIf rfl) fun _ => .bind (.ofExcept underflow.getPrice) fun _ =>
      .bind (.ofExcept underflow.checkSwapSlippage) fun _ => ?_
  exact .bind Reserve.recordInflow_safe fun _ => .bind underflow.save fun _ =>
    .bind Reserve.recordInflow_safe fun _ => .bind underflow.save fun _ =>
      .bind Integration.recordInflow_safe fun _ => .bind underflow.save fun _ =>
        .bind underflow.emitEvent fun _ => underflow.emitEvent

/-- **No instruction that records a balance reaches the panic**, from any state. -/
theorem processInstruction_safe (laws : TokenLaws) {d : UInt8}
    (hd : d ∈ ([4, 8, 9, 10, 11, 15, 16] : List UInt8)) :
    Safe (processInstruction tx accounts (d :: data)) := by
  simp only [List.mem_cons, List.not_mem_nil, or_false] at hd
  rcases hd with rfl | rfl | rfl | rfl | rfl | rfl | rfl
  · exact processInitializeReserve_safe
  · exact processSyncReserve_safe
  · exact processSyncIntegration_safe
  · exact processPush_safe laws
  · exact processPull_safe
  · exact processAtomicSwapBorrow_safe
  · exact processAtomicSwapRepay_safe

end Instructions

end AlmController
