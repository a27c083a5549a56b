import AlmController.Spec.Flow

/-!
# Parts that change little

Most of a processor's text only looks: it parses, loads, and checks. And most of its
invocations only set up: they create or initialize what will be needed. Both are
judged by their text here, so that the lemmas about the processors can pass over them.
-/

namespace AlmController

open Prog

/-! ## Parts that only look -/

section ReadOnly

variable {α : Type} {k : Pubkey} {account : AccountMeta} {accounts : List AccountMeta}

theorem readOnly_readData {proj : ExtData → Option α} : ReadOnly (readData k proj) :=
  .bind .read fun _ => .ofOption

theorem readOnly_tokenAccount : ReadOnly (TokenAccount.fromAccountInfo k) :=
  .bind .read fun _ => .bind .rejectIf fun _ => .bind readOnly_readData fun _ =>
    .bind .rejectIf fun _ => .bind .rejectIf fun _ => .pure

theorem readOnly_mint : ReadOnly (Mint.fromAccountInfo k) :=
  .bind .read fun _ => .bind .rejectIf fun _ => .bind readOnly_readData fun _ =>
    .bind .rejectIf fun _ => .bind .rejectIf fun _ =>
      .bind (.onlyIf (.bind .ofOption fun _ => .bind .rejectIf fun _ => .rejectIf)) fun _ =>
        .bind .ofOption fun _ => .pure

theorem readOnly_validateMintExtensions {blocked : List ExtensionType} :
    ReadOnly (validateMintExtensions k blocked) :=
  .bind .read fun _ => .onlyIf (.bind readOnly_readData fun _ =>
    .onlyIf (.bind .ofExcept fun _ => .ofExcept))

theorem readOnly_fromAccounts {specs : List AccountSpec} {bind : List AccountMeta → Option α} :
    ReadOnly (fromAccounts specs bind accounts) :=
  fun _ _ _ h => (fromAccounts_ok.mp h).2.2

variable [Chain]

theorem readOnly_checkDerived {seeds : List (List UInt8)} {program : Pubkey} :
    ReadOnly (checkDerived account seeds program) :=
  .bind .ofExcept fun _ => .rejectIf

theorem readOnly_oracle {controller authority : Option Pubkey} :
    ReadOnly (Oracle.loadAndCheck account controller authority) :=
  fun _ _ _ h => (Oracle.loadAndCheck_ok.mp h).2.2.2.2

/-! ### Kamino -/

omit [Chain] in
theorem readOnly_getKaminoLendingBalance {kaminoReserve obligation : Pubkey} :
    ReadOnly (getKaminoLendingBalance kaminoReserve obligation) :=
  .bind .read fun _ => .bind .ofExcept fun _ =>
    .ite .pure (.bind readOnly_readData fun _ => .ofExcept)

theorem readOnly_initializeKaminoAccounts {authority : Pubkey} {obligationId : UInt8} :
    ReadOnly (InitializeKaminoAccounts.checkedFromAccounts accounts authority obligationId) :=
  .bind readOnly_fromAccounts fun _ => .bind readOnly_validateMintExtensions fun _ =>
    .bind .read fun _ => .bind .rejectIf fun _ => .bind readOnly_checkDerived fun _ =>
      .bind readOnly_checkDerived fun _ => .bind readOnly_checkDerived fun _ =>
        .bind readOnly_checkDerived fun _ => .bind .rejectIf fun _ => .pure

theorem readOnly_initializeObligationAccounts {innerCtx : PushPullKaminoAccounts}
    {authority : Pubkey} :
    ReadOnly (InitializeObligationAccounts.checkedFromAccounts innerCtx authority) :=
  .bind readOnly_fromAccounts fun _ => .bind readOnly_checkDerived fun _ => .pure

theorem readOnly_checkObligationFarm {ctx : PushPullKaminoAccounts} :
    ReadOnly ctx.checkObligationFarm :=
  .bind .read fun _ => .onlyIf (.bind .rejectIf fun _ => readOnly_checkDerived)

theorem readOnly_harvestKaminoAccounts {obligation : Pubkey} :
    ReadOnly (HarvestKaminoAccounts.checkedFromAccounts obligation accounts) :=
  .bind readOnly_fromAccounts fun _ => .bind readOnly_checkDerived fun _ =>
    .bind readOnly_checkDerived fun _ => .bind readOnly_checkDerived fun _ =>
      .bind readOnly_checkDerived fun _ => .pure

/-! ### Drift -/

omit [Chain] in
theorem readOnly_getDriftLendingBalance {market : SpotMarket} {user : Pubkey} :
    ReadOnly (getDriftLendingBalance market user) := by
  refine .bind readOnly_readData fun _ => ?_
  split
  · exact .ofExcept
  · exact .pure

theorem readOnly_findSpotMarketAndOracle {marketIndex : UInt16} :
    ReadOnly (findSpotMarketAndOracle accounts marketIndex) :=
  .bind .ofExcept fun _ => .bind .ofOption fun _ => .bind readOnly_readData fun _ =>
    .bind .ofOption fun _ => .pure

theorem readOnly_initializeDriftAccounts {authority : Pubkey} {subAccountId marketIndex : UInt16} :
    ReadOnly (InitializeDriftAccounts.checkedFromAccounts accounts authority subAccountId
      marketIndex) :=
  .bind readOnly_fromAccounts fun _ => .bind readOnly_validateMintExtensions fun _ =>
    .bind readOnly_checkDerived fun _ => .bind readOnly_checkDerived fun _ =>
      .bind readOnly_checkDerived fun _ => .bind readOnly_checkDerived fun _ => .pure

theorem readOnly_syncDriftAccounts {config : IntegrationConfig} {authority : Pubkey} :
    ReadOnly (SyncDriftAccounts.checkedFromAccounts config authority accounts) :=
  .bind readOnly_fromAccounts fun _ => .bind .ofOption fun _ => .bind readOnly_checkDerived fun _ =>
    .bind readOnly_checkDerived fun _ => .bind readOnly_checkDerived fun _ =>
      .bind readOnly_readData fun _ => .bind .rejectIf fun _ => .pure

/-! ### Values of positions

They are read off the accounts, so they do not depend on what was logged. -/

/-- The accounts there are. -/
def World.tables (w : World) : KeelTable × Bank := (w.keel, w.bank)

omit [Chain] in
theorem sees_readData {proj : ExtData → Option α} : Sees World.tables (readData k proj) := by
  refine .look ?_ fun _ => .ofOption
  intro w w' hview
  obtain ⟨hkeel, hbank⟩ := Prod.mk.inj hview
  unfold World.data
  rw [hkeel, hbank]

omit [Chain] in
theorem lpAmount_congr {w w' : World} {kaminoReserve obligation : Pubkey}
    (h : w'.tables = w.tables) :
    lpAmount w' kaminoReserve obligation = lpAmount w kaminoReserve obligation := by
  cases w
  cases w'
  obtain ⟨rfl, rfl⟩ := Prod.mk.inj h
  rfl

omit [Chain] in
theorem sees_getKaminoLendingBalance {kaminoReserve obligation : Pubkey} :
    Sees World.tables (getKaminoLendingBalance kaminoReserve obligation) := by
  refine .look ?_ fun _ => .bind .ofExcept .ofExcept fun _ => .ite .pure
    (.bind readOnly_readData sees_readData fun _ => .ofExcept)
  intro w w' hview
  rw [lpAmount_congr hview]

omit [Chain] in
theorem sees_getDriftLendingBalance {market : SpotMarket} {user : Pubkey} :
    Sees World.tables (getDriftLendingBalance market user) := by
  refine .bind readOnly_readData sees_readData fun _ => ?_
  split
  · exact .ofExcept
  · exact .pure

omit [Chain] in
theorem sees_driftValue {spotMarket user : Pubkey} :
    Sees World.tables (driftValue spotMarket user) :=
  .bind readOnly_readData sees_readData fun _ => sees_getDriftLendingBalance

theorem sees_findSpotMarketAndOracle {marketIndex : UInt16} :
    Sees World.tables (findSpotMarketAndOracle accounts marketIndex) :=
  .bind .ofExcept .ofExcept fun _ => .bind .ofOption .ofOption fun _ =>
    .bind readOnly_readData sees_readData fun _ => .bind .ofOption .ofOption fun _ => .pure

/-- The market found is at the address of its index. -/
theorem findSpotMarketAndOracle_ok {marketIndex : UInt16} {market oracle : AccountMeta}
    {w w' : World} (h : findSpotMarketAndOracle accounts marketIndex w = .ok ((market, oracle), w')) :
    deriveAddress (driftSpotMarketSeeds marketIndex) DRIFT_PROGRAM_ID = .ok market.pubkey := by
  simp only [findSpotMarketAndOracle, bind_ok, ofExcept_ok, ofOption_ok, pure_ok,
    Prod.mk.injEq] at h
  obtain ⟨address, _, ⟨haddress, rfl⟩, _, _, ⟨hfind, rfl⟩, _, _, -, _, _, -, ⟨rfl, -⟩, -⟩ := h
  have hkey := List.find?_some hfind
  rw [haddress, of_decide_eq_true hkey]

theorem checkDerived_ok {seeds : List (List UInt8)} {program : Pubkey} {w w' : World} {u : Unit} :
    checkDerived account seeds program w = .ok (u, w') ↔
      deriveAddress seeds program = .ok account.pubkey ∧ w = w' := by
  simp only [checkDerived, bind_ok, ofExcept_ok, rejectIf_ok, not_not]
  constructor
  · rintro ⟨_, _, ⟨haddress, rfl⟩, rfl, rfl⟩
    exact ⟨haddress, rfl⟩
  · rintro ⟨haddress, rfl⟩
    exact ⟨_, _, ⟨haddress, rfl⟩, rfl, rfl⟩

/-! ### Bridges -/

omit [Chain] in
theorem readOnly_initializeCctpBridgeAccounts :
    ReadOnly (InitializeCctpBridgeAccounts.checkedFromAccounts accounts) :=
  .bind readOnly_fromAccounts fun _ => .bind readOnly_validateMintExtensions fun _ => .pure

omit [Chain] in
theorem readOnly_initializeLzBridgeAccounts :
    ReadOnly (InitializeLzBridgeAccounts.checkedFromAccounts accounts) :=
  .bind readOnly_fromAccounts fun _ => .bind readOnly_validateMintExtensions fun _ =>
    .bind .read fun _ => .bind .rejectIf fun _ => .bind .rejectIf fun _ => .pure

end ReadOnly

/-! ## Parts that set up -/

variable [Chain]

/-- From `w` to `w'` only set-up invocations were made, signed by nobody or by the
    authority of controller `ck`. -/
structure Prepares (ck : Pubkey) (w w' : World) (es : List LogEntry) : Prop where
  grows : Extends w w' es
  calls : ∀ e ∈ es, ∃ call signedFor, e = .cpi call signedFor ∧ call.isQuiet = true ∧
    ∀ k, signedFor = some k → k = ck
  amounts : TokenLaws → ∀ k, w'.bank.tokenAmount k = w.bank.tokenAmount k

namespace Prepares

variable {ck : Pubkey} {w w' w'' : World} {es es' : List LogEntry}

theorem refl : Prepares ck w w [] :=
  ⟨.refl, fun _ h => absurd h List.not_mem_nil, fun _ _ => rfl⟩

theorem trans (h : Prepares ck w w' es) (h' : Prepares ck w' w'' es') :
    Prepares ck w w'' (es ++ es') := by
  refine ⟨h.grows.trans h'.grows, ?_, ?_⟩
  · intro e he
    rcases List.mem_append.mp he with he | he
    · exact h.calls e he
    · exact h'.calls e he
  · intro laws k
    exact (h'.amounts laws k).trans (h.amounts laws k)

theorem of_invoke {call : Cpi} {signers : List Pubkey} {signedFor : Option Pubkey} {bank : Bank}
    (hquiet : call.isQuiet = true) (hsigned : ∀ k, signedFor = some k → k = ck)
    (h : Chain.invoke w.clock call signers w.bank = some bank) :
    Prepares ck w ((w.setBank bank).addLog (.cpi call signedFor)) [.cpi call signedFor] := by
  refine ⟨Extends.refl.invoke h, ?_, ?_⟩
  · intro e he
    exact ⟨call, signedFor, List.mem_singleton.mp he, hquiet, hsigned⟩
  · intro laws k
    exact laws.quiet hquiet h k

/-- One that nobody signs. -/
theorem of_unsigned {call : Cpi} {signers : List Pubkey} {bank : Bank}
    (hquiet : call.isQuiet = true) (h : Chain.invoke w.clock call signers w.bank = some bank) :
    Prepares ck w ((w.setBank bank).addLog (.cpi call none)) [.cpi call none] :=
  of_invoke hquiet (fun _ hk => absurd hk (Option.some_ne_none _).symm) h

/-- A set-up says nothing about any account but the controller. -/
theorem within (h : Prepares ck w w' es) {s : Scope} (hck : ck ∈ s.controllers) : Within s es := by
  intro e he
  obtain ⟨call, signedFor, rfl, -, hsigned⟩ := h.calls e he
  intro k hk
  rw [hsigned k hk]
  exact hck

theorem flowsOf_eq_nil (h : Prepares ck w w' es) (id : LimiterId) : flowsOf id es = [] :=
  (h.within (s := { controllers := [ck] }) (List.mem_singleton_self _)).flowsOf_eq_nil
    List.not_mem_nil

theorem ledger_eq_zero (h : Prepares ck w w' es) (k : Pubkey) : ledger k es = 0 :=
  (h.within (s := { controllers := [ck] }) (List.mem_singleton_self _)).ledger_eq_zero
    List.not_mem_nil

theorem position_eq_zero (h : Prepares ck w w' es) (k m : Pubkey) : position k m es = 0 :=
  (h.within (s := { controllers := [ck] }) (List.mem_singleton_self _)).position_eq_zero
    List.not_mem_nil

theorem flowRun (h : Prepares ck w w' es) {ik rk : Pubkey} {i : Integration} {r : Reserve} :
    FlowRun ck ik rk w w' i i r r es :=
  .of_silent h.grows (h.within (List.mem_singleton_self _)) (h.flowsOf_eq_nil _)
    (h.flowsOf_eq_nil _) (h.ledger_eq_zero _)

/-- None of the calls it signs moves funds. -/
theorem not_movesFunds (h : Prepares ck w w' es) {call : Cpi} {k : Pubkey}
    (hcall : (call, k) ∈ signedCalls es) : call.movesFunds = false := by
  obtain ⟨e, he, hsigned⟩ := List.mem_filterMap.mp hcall
  obtain ⟨call', signedFor, rfl, hquiet, -⟩ := h.calls e he
  cases signedFor with
  | none => cases hsigned
  | some k' =>
    obtain ⟨rfl, -⟩ := Prod.mk.inj (Option.some.inj hsigned)
    cases call' with
    | transferChecked => cases hquiet
    | depositForBurn => cases hquiet
    | kaminoDeposit => cases hquiet
    | kaminoWithdraw => cases hquiet
    | driftDeposit => cases hquiet
    | driftWithdraw => cases hquiet
    | _ => rfl

end Prepares

/-- A program that does nothing but set up for controller `ck`. -/
def SetsUp {α : Type} (ck : Pubkey) (x : Ix α) : Prop :=
  ∀ ⦃w a w'⦄, x w = .ok (a, w') → ∃ es, Prepares ck w w' es

namespace SetsUp

variable {α β : Type} {ck : Pubkey} {x : Ix α} {f : α → Ix β}

theorem of_readOnly (h : ReadOnly x) : SetsUp ck x := by
  intro w a w' hx
  obtain rfl := h hx
  exact ⟨[], .refl⟩

theorem bind (hx : SetsUp ck x) (hf : ∀ a, SetsUp ck (f a)) : SetsUp ck (x >>= f) := by
  intro w b w' h
  obtain ⟨a, w₁, hfirst, hrest⟩ := bind_ok.mp h
  obtain ⟨es, hes⟩ := hx hfirst
  obtain ⟨es', hes'⟩ := hf a hrest
  exact ⟨es ++ es', hes.trans hes'⟩

/-- Past a part that only looks. -/
theorem look (hx : ReadOnly x) (hf : ∀ a, SetsUp ck (f a)) : SetsUp ck (x >>= f) :=
  bind (of_readOnly hx) hf

theorem ite {c : Prop} [Decidable c] {x y : Ix α} (hx : SetsUp ck x) (hy : SetsUp ck y) :
    SetsUp ck (if c then x else y) := by
  split
  · exact hx
  · exact hy

theorem onlyIf {c : Prop} [Decidable c] {x : Ix Unit} (hx : SetsUp ck x) :
    SetsUp ck (onlyIf c x) := by
  intro w u w' h
  rcases onlyIf_ok.mp h with ⟨-, h⟩ | ⟨-, rfl⟩
  · exact hx h
  · exact ⟨[], .refl⟩

theorem pure {a : α} : SetsUp ck (pure a) := of_readOnly .pure

theorem invoke {call : Cpi} (hquiet : call.isQuiet = true) : SetsUp ck (invoke call) := by
  intro w u w' h
  obtain ⟨bank, hinvoke, rfl⟩ := invoke_ok.mp h
  exact ⟨_, .of_unsigned hquiet hinvoke⟩

theorem invokeSigned {call : Cpi} {c : Controller} (hquiet : call.isQuiet = true) :
    SetsUp ck (invokeSigned call ck c) := by
  intro w u w' h
  obtain ⟨signer, -, bank, hinvoke, rfl⟩ := invokeSigned_ok.mp h
  exact ⟨_, .of_invoke hquiet (fun _ hk => (Option.some.inj hk).symm) hinvoke⟩

end SetsUp

/-! ### The set-ups -/

section SetUps

variable {outerCtx : InitializeIntegrationAccounts} {args : InitializeIntegrationArgs}
  {c : Controller}

theorem setsUp_reopenObligation {i : Integration} {ctx : PushAccounts}
    {innerCtx : PushPullKaminoAccounts} :
    SetsUp ctx.controller.pubkey (reopenObligation c i ctx innerCtx) :=
  .look .read fun _ => .ite
    (.look .ofOption fun _ => .look readOnly_initializeObligationAccounts fun _ =>
      .bind (.invokeSigned rfl) fun _ => .invoke rfl)
    (.look readOnly_readData fun _ => .of_readOnly .rejectIf)

theorem setsUp_initializeObligation {innerCtx : InitializeKaminoAccounts} {obligationId : UInt8} :
    SetsUp outerCtx.controller.pubkey (initializeObligation outerCtx innerCtx obligationId c) :=
  .look .read fun _ => .ite (.invokeSigned rfl)
    (.look readOnly_readData fun _ => .of_readOnly .ofExcept)

theorem setsUp_initializeDriftUser {innerCtx : InitializeDriftAccounts} {subAccountId : UInt16}
    {market : SpotMarket} :
    SetsUp outerCtx.controller.pubkey
      (initializeDriftUser outerCtx innerCtx subAccountId market c) :=
  .look .read fun _ => .ite
    (.bind (.invokeSigned rfl) fun _ => .onlyIf (.invokeSigned rfl))
    (.look readOnly_readData fun _ => .of_readOnly .rejectIf)

/-- **Initializing any protocol only sets up.** -/
theorem setsUp_initializeProtocol :
    SetsUp outerCtx.controller.pubkey (processInitializeProtocol outerCtx args c) := by
  unfold processInitializeProtocol
  cases args.integrationType with
  | SplTokenExternal =>
    exact .look readOnly_fromAccounts fun _ => .look readOnly_mint fun _ =>
      .look readOnly_validateMintExtensions fun _ => .bind (.invoke rfl) fun _ => .pure
  | CctpBridge =>
    exact .look readOnly_initializeCctpBridgeAccounts fun _ => .look .ofOption fun _ =>
      .look readOnly_readData fun _ => .look .rejectIf fun _ => .look readOnly_readData fun _ =>
        .look .rejectIf fun _ => .pure
  | LzBridge =>
    exact .look readOnly_initializeLzBridgeAccounts fun _ => .look .ofOption fun _ =>
      .look readOnly_readData fun _ => .look .rejectIf fun _ => .look .rejectIf fun _ =>
        .look .ofExcept fun _ => .look .rejectIf fun _ => .look readOnly_readData fun _ => .pure
  | AtomicSwap =>
    exact .look readOnly_fromAccounts fun _ => .look .rejectIf fun _ =>
      .look readOnly_oracle fun _ => .look .ofOption fun _ => .look .read fun _ =>
        .look .rejectIf fun _ => .look readOnly_mint fun _ =>
          .look readOnly_validateMintExtensions fun _ => .look readOnly_mint fun _ =>
            .look readOnly_validateMintExtensions fun _ => .look .rejectIf fun _ =>
              .look .rejectIf fun _ => .pure
  | Drift =>
    exact .look .ofOption fun _ => .look readOnly_initializeDriftAccounts fun _ =>
      .look readOnly_readData fun _ => .look .rejectIf fun _ => .look .rejectIf fun _ =>
        .look .read fun _ => .bind (.onlyIf (.invokeSigned rfl)) fun _ =>
          .bind setsUp_initializeDriftUser fun _ => .pure
  | Kamino =>
    exact .look .ofOption fun _ => .look readOnly_initializeKaminoAccounts fun _ =>
      .look readOnly_readData fun _ => .look .ofExcept fun _ => .look .read fun _ =>
        .bind (.onlyIf (.invokeSigned rfl)) fun _ => .bind setsUp_initializeObligation fun _ =>
          .look .read fun _ => .bind (.onlyIf (.invoke rfl)) fun _ => .pure

end SetUps

end AlmController
