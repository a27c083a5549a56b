import AlmController.Spec.Price
import AlmController.Spec.Repay

/-!
# The same Repay at another price

A Repay looks at a price once, after the tokens came back. Up to there it sees nothing of the
oracle's value, and past its check it writes nothing of it. So two Repays that differ in the value
alone do the same, as long as both prices pass the check (`processAtomicSwapRepay_repriced`).

`World.unpriced` is all that is seen without a price, and `Repriced` relates the two states.

Two judgments carry the proof. `Sees` says of a part that only reads that it reads nothing of the
price, so its result is the same in both states. `Relates` says of a part that writes that it can be
run in the second state when it ran in the first one, and leads to states that are related again.
A Repay that fails is not compared: at another price it may fail elsewhere.
-/

namespace AlmController

open Prog

/-! ## What is seen without a price -/

/-- The account, with no price in it. -/
def KeelAccount.unpriced : KeelAccount → KeelAccount
  | .oracle o => .oracle { o with value := 0 }
  | a => a

/-- The state, with no price in it and without the log. -/
def World.unpriced (w : World) : KeelTable × Bank × Clock :=
  (fun k => (w.keel k).map KeelAccount.unpriced, w.bank, w.clock)

section Unpriced

variable {w w' : World} {k : Pubkey}

theorem World.unpriced_keel (h : w'.unpriced = w.unpriced) (k : Pubkey) :
    (w'.keel k).map KeelAccount.unpriced = (w.keel k).map KeelAccount.unpriced :=
  congrFun (Prod.mk.inj h).1 k

theorem World.unpriced_bank (h : w'.unpriced = w.unpriced) : w'.bank = w.bank :=
  (Prod.mk.inj (Prod.mk.inj h).2).1

theorem World.unpriced_clock (h : w'.unpriced = w.unpriced) : w'.clock = w.clock :=
  (Prod.mk.inj (Prod.mk.inj h).2).2

theorem World.unpriced_eq
    (hkeel : ∀ k, (w'.keel k).map KeelAccount.unpriced = (w.keel k).map KeelAccount.unpriced)
    (hbank : w'.bank = w.bank) (hclock : w'.clock = w.clock) : w'.unpriced = w.unpriced :=
  Prod.ext (funext hkeel) (Prod.ext hbank hclock)

theorem World.unpriced_isSome (h : w'.unpriced = w.unpriced) (k : Pubkey) :
    (w'.keel k).isSome = (w.keel k).isSome := by
  have hkeel := congrArg Option.isSome (unpriced_keel h k)
  rw [Option.isSome_map, Option.isSome_map] at hkeel
  exact hkeel

theorem World.unpriced_owner (h : w'.unpriced = w.unpriced) (k : Pubkey) :
    w'.owner k = w.owner k := by
  unfold World.owner
  rw [unpriced_isSome h, unpriced_bank h]

theorem World.unpriced_data (h : w'.unpriced = w.unpriced) (k : Pubkey) : w'.data k = w.data k := by
  unfold World.data
  rw [unpriced_isSome h, unpriced_bank h]

theorem World.unpriced_dataIsEmpty (h : w'.unpriced = w.unpriced) (k : Pubkey) :
    w'.dataIsEmpty k ↔ w.dataIsEmpty k := by
  have hnone : w'.keel k = none ↔ w.keel k = none := by
    rw [← Option.not_isSome_iff_eq_none, ← Option.not_isSome_iff_eq_none, unpriced_isSome h]
  unfold World.dataIsEmpty
  rw [hnone, unpriced_bank h]

end Unpriced

/-- A kind of accounts that have no price: its accounts are seen. -/
def Priceless {α : Type} (proj : KeelAccount → Option α) : Prop := ∀ a, proj a.unpriced = proj a

theorem priceless_controller : Priceless KeelAccount.controller? := by
  intro a
  cases a with
  | _ => rfl

theorem priceless_permission : Priceless KeelAccount.permission? := by
  intro a
  cases a with
  | _ => rfl

theorem priceless_reserve : Priceless KeelAccount.reserve? := by
  intro a
  cases a with
  | _ => rfl

theorem priceless_integration : Priceless KeelAccount.integration? := by
  intro a
  cases a with
  | _ => rfl

section Sees

variable {α : Type} {k : Pubkey} {account : AccountMeta} {accounts : List AccountMeta}
  {specs : List AccountSpec} {bind : List AccountMeta → Option α}

theorem seesUnpriced_readData {proj : ExtData → Option α} :
    Sees World.unpriced (readData k proj) := by
  refine .look ?_ fun _ => .ofOption
  intro w w' hview
  rw [World.unpriced_data hview]

theorem seesUnpriced_tokenAccount : Sees World.unpriced (TokenAccount.fromAccountInfo k) := by
  refine .look ?_ fun _ => .bind .rejectIf .rejectIf fun _ =>
    .bind readOnly_readData seesUnpriced_readData fun _ => .bind .rejectIf .rejectIf fun _ =>
      .bind .rejectIf .rejectIf fun _ => .pure
  intro w w' hview
  rw [World.unpriced_owner hview]

theorem seesUnpriced_mint : Sees World.unpriced (Mint.fromAccountInfo k) := by
  refine .look ?_ fun _ => .bind .rejectIf .rejectIf fun _ =>
    .bind readOnly_readData seesUnpriced_readData fun _ => .bind .rejectIf .rejectIf fun _ =>
      .bind .rejectIf .rejectIf fun _ => .bind ?_ (.onlyIf ?_) fun _ =>
        .bind .ofOption .ofOption fun _ => .pure
  · intro w w' hview
    rw [World.unpriced_owner hview]
  · exact .onlyIf (.bind .ofOption fun _ => .bind .rejectIf fun _ => .rejectIf)
  · exact .bind .ofOption .ofOption fun _ => .bind .rejectIf .rejectIf fun _ => .rejectIf

theorem readOnly_checkAttr {attr : AccountAttr} : ReadOnly (checkAttr account attr) := by
  cases attr with
  | signer => exact .rejectIf
  | writable => exact .rejectIf
  | empty => exact .bind .read fun _ => .rejectIf

theorem seesUnpriced_checkAttr {attr : AccountAttr} :
    Sees World.unpriced (checkAttr account attr) := by
  cases attr with
  | signer => exact .rejectIf
  | writable => exact .rejectIf
  | empty =>
    refine .look ?_ fun _ => .rejectIf
    intro w w' hview
    exact rejectIf_congr (not_congr (World.unpriced_dataIsEmpty hview _))

/-- The checks of the account list look at owners, keys and lengths. -/
theorem seesUnpriced_checkAccounts : Sees World.unpriced (checkAccounts specs accounts) := by
  have hattrs : ∀ (account : AccountMeta) (attrs : List AccountAttr),
      Sees World.unpriced (checkAttrs account attrs) := by
    intro account attrs
    induction attrs with
    | nil => exact .pure
    | cons attr attrs ih => exact .bind readOnly_checkAttr seesUnpriced_checkAttr fun _ => ih
  have hone : ∀ (spec : AccountSpec) (account : AccountMeta),
      Sees World.unpriced (checkAccount spec account) := by
    intro spec account
    refine .bind (fun _ _ _ h => (checkAttrs_ok h).1.symm) (hattrs _ _) fun _ =>
      .bind .rejectIf .rejectIf fun _ => .look ?_ fun _ => .rejectIf
    intro w w' hview
    rw [World.unpriced_owner hview]
  induction specs generalizing accounts with
  | nil => exact .pure
  | cons spec specs ih =>
    cases accounts with
    | nil =>
      intro w a w₁ h
      exact (fail_ok.mp h).elim
    | cons account accounts =>
      exact .bind (fun _ _ _ h => (checkAccount_ok h).1.symm) (hone _ _) fun _ => ih

theorem seesUnpriced_fromAccounts : Sees World.unpriced (fromAccounts specs bind accounts) :=
  .bind (fun _ _ _ h => (checkAccounts_ok h).1.symm) seesUnpriced_checkAccounts fun _ => .ofOption

/-- An account of a kind without a price is loaded the same. -/
theorem seesUnpriced_loadKeel {proj : KeelAccount → Option α} (hproj : Priceless proj) :
    Sees World.unpriced (loadKeel account proj) := by
  intro w a w₁ h w' hview
  obtain ⟨data, hdata, ha, -⟩ := loadKeel_ok.mp h
  have hkeel := World.unpriced_keel hview account.pubkey
  rw [hdata, Option.map_some] at hkeel
  obtain ⟨data', hdata', heq⟩ := Option.map_eq_some_iff.mp hkeel
  refine loadKeel_ok.mpr ⟨data', hdata', ?_, rfl⟩
  rw [← hproj, heq, hproj, ha]

end Sees

variable [Chain]

section Loads

variable {α : Type} {account : AccountMeta} {accounts : List AccountMeta}
  {controller authority k : Pubkey} {seeds : List (List UInt8)} {data : List UInt8}

omit [Chain] in
theorem readOnly_loadKeel {proj : KeelAccount → Option α} : ReadOnly (loadKeel account proj) :=
  .bind .read fun _ => .bind .ofOption fun _ => .ofOption

theorem readOnly_verifyPda : ReadOnly (verifyPda account seeds) := .bind .ofExcept fun _ => .rejectIf

theorem seesUnpriced_verifyPda : Sees World.unpriced (verifyPda account seeds) :=
  .bind .ofExcept .ofExcept fun _ => .rejectIf

theorem seesUnpriced_controller :
    Sees World.unpriced (Controller.loadAndCheck account authority) :=
  .bind readOnly_loadKeel (seesUnpriced_loadKeel priceless_controller) fun _ =>
    .bind readOnly_verifyPda seesUnpriced_verifyPda fun _ => .bind .rejectIf .rejectIf fun _ => .pure

theorem seesUnpriced_permission :
    Sees World.unpriced (Permission.loadAndCheck account controller authority) :=
  .bind readOnly_loadKeel (seesUnpriced_loadKeel priceless_permission) fun _ =>
    .bind .ofExcept .ofExcept fun _ =>
      .bind readOnly_verifyPda seesUnpriced_verifyPda fun _ => .pure

theorem seesUnpriced_reserve : Sees World.unpriced (Reserve.loadAndCheck account controller) :=
  .bind readOnly_loadKeel (seesUnpriced_loadKeel priceless_reserve) fun _ =>
    .bind .ofExcept .ofExcept fun _ =>
      .bind readOnly_verifyPda seesUnpriced_verifyPda fun _ => .pure

theorem seesUnpriced_integration :
    Sees World.unpriced (Integration.loadAndCheck account controller) :=
  .bind readOnly_loadKeel (seesUnpriced_loadKeel priceless_integration) fun _ =>
    .bind .ofExcept .ofExcept fun _ =>
      .bind readOnly_verifyPda seesUnpriced_verifyPda fun _ => .pure

theorem readOnly_controller : ReadOnly (Controller.loadAndCheck account authority) :=
  fun _ _ _ h => (Controller.loadAndCheck_ok.mp h).2.2.2

theorem readOnly_permission : ReadOnly (Permission.loadAndCheck account controller authority) :=
  fun _ _ _ h => (Permission.loadAndCheck_ok.mp h).2.2.2.2

theorem readOnly_reserve : ReadOnly (Reserve.loadAndCheck account controller) :=
  fun _ _ _ h => (Reserve.loadAndCheck_ok.mp h).2.2.2

theorem readOnly_integration : ReadOnly (Integration.loadAndCheck account controller) :=
  fun _ _ _ h => (Integration.loadAndCheck_ok.mp h).2.2.2

/-- EmitEvent checks its own two accounts, and they are no oracles. -/
theorem seesUnpriced_processEmitEvent : Sees World.unpriced (processEmitEvent accounts data) := by
  refine .bind .ofOption .ofOption fun _ => .bind .ofOption .ofOption fun _ =>
    .bind .ofExcept .ofExcept fun _ => .bind .ofExcept .ofExcept fun _ =>
      .bind .rejectIf .rejectIf fun _ => .bind .rejectIf .rejectIf fun _ =>
        .look ?_ fun _ => .rejectIf
  intro w w' hview
  rw [World.unpriced_owner hview]

end Loads

/-! ## Two states that differ in a price -/

/-- The second state is the first with another value in the oracle at `k`. -/
structure Repriced (k : Pubkey) (o : Oracle) (value : BitVec (8 * 16)) (w w' : World) : Prop where
  oracle : w.keel k = some (.oracle o)
  eq : w' = w.setKeel k (.oracle { o with value := value })

section Repriced

variable {α : Type} {k : Pubkey} {o : Oracle} {value : BitVec (8 * 16)} {w w' : World}

omit [Chain]

theorem Repriced.unpriced (h : Repriced k o value w w') : w'.unpriced = w.unpriced := by
  rw [h.eq]
  refine World.unpriced_eq ?_ rfl rfl
  intro k'
  by_cases hk : k' = k
  · rw [hk, World.setKeel_keel_self, h.oracle]
    rfl
  · rw [World.setKeel_keel_of_ne hk]

theorem Repriced.setBank (h : Repriced k o value w w') {bank : Bank} :
    Repriced k o value (w.setBank bank) (w'.setBank bank) :=
  ⟨h.oracle, by rw [h.eq]; rfl⟩

theorem Repriced.addLog (h : Repriced k o value w w') {e : LogEntry} :
    Repriced k o value (w.addLog e) (w'.addLog e) :=
  ⟨h.oracle, by rw [h.eq]; rfl⟩

/-- What is saved over an account of its own length is not saved over an oracle. -/
theorem Repriced.setKeel {k' : Pubkey} {old a : KeelAccount} (h : Repriced k o value w w')
    (hold : w.keel k' = some old) (hlen : old.dataLen = a.dataLen)
    (ha : a.dataLen ≠ (KeelAccount.oracle o).dataLen) :
    Repriced k o value (w.setKeel k' a) (w'.setKeel k' a) := by
  have hne : k ≠ k' := by
    intro heq
    rw [← heq, h.oracle] at hold
    obtain rfl := Option.some.inj hold
    exact ha hlen.symm
  refine ⟨?_, ?_⟩
  · rw [World.setKeel_keel_of_ne hne]
    exact h.oracle
  · rw [h.eq]
    exact World.setKeel_comm hne

/-- A part that reads nothing of the price is run the same. -/
theorem relates_sees {R : World → World → Prop} {x : Ix α}
    (hR : ∀ ⦃w w'⦄, R w w' → Repriced k o value w w') (hro : ReadOnly x)
    (hx : Sees World.unpriced x) : Relates R x fun _ => R :=
  .of_sees hro hx fun _ _ h => (hR h).unpriced

theorem relates_record {e : LogEntry} :
    Relates (Repriced k o value) (record e) fun _ => Repriced k o value :=
  .modify fun _ _ h => h.addLog

/-- A save is of an account that is as long as before, so not over the oracle. -/
theorem relates_save {account : AccountMeta} {a : KeelAccount}
    (ha : a.dataLen ≠ (KeelAccount.oracle o).dataLen) :
    Relates (Repriced k o value) (save account a) fun _ => Repriced k o value := by
  intro w w' hR u w₁ h
  obtain ⟨⟨old, hold, hlen⟩, hwritable, rfl⟩ := save_ok.mp h
  refine ⟨_, save_ok.mpr ⟨?_, hwritable, rfl⟩, hR.setKeel hold hlen ha⟩
  have hkeel := World.unpriced_keel hR.unpriced account.pubkey
  rw [hold, Option.map_some] at hkeel
  obtain ⟨old', hold', heq⟩ := Option.map_eq_some_iff.mp hkeel
  have hsame : ∀ b : KeelAccount, b.unpriced.dataLen = b.dataLen := by
    intro b
    cases b with
    | _ => rfl
  exact ⟨old', hold', by rw [← hsame, heq, hsame, hlen]⟩

end Repriced

/-! ## Repay -/

section Repay

variable {accounts : List AccountMeta} {w w' : World} {u : Unit} {k : Pubkey} {o : Oracle}
  {value : BitVec (8 * 16)} {cfg : AtomicSwapConfig}

/-- Other programs see the bank and the clock, not the accounts of this one. -/
theorem relates_invoke {call : Cpi} :
    Relates (Repriced k o value) (invoke call) fun _ => Repriced k o value := by
  intro w w' hR u w₁ h
  obtain ⟨bank, hinvoke, rfl⟩ := invoke_ok.mp h
  refine ⟨_, invoke_ok.mpr ⟨bank, ?_, rfl⟩, hR.setBank.addLog⟩
  rw [World.unpriced_clock hR.unpriced, World.unpriced_bank hR.unpriced]
  exact hinvoke

/-- An event changes the log, which neither state looks at. -/
theorem relates_emitEvent {c : Controller} {authority controllerKey : Pubkey}
    {e : SvmAlmControllerEvent} :
    Relates (Repriced k o value) (emitEvent c authority controllerKey e) fun _ =>
      Repriced k o value :=
  .bind .ofOption fun _ => .assume fun _ => .bind .rejectIf fun _ =>
    .bind (relates_sees (fun _ _ h => h) (fun _ _ _ h => (processEmitEvent_ok h).1)
      seesUnpriced_processEmitEvent) fun _ => relates_record

/-- A transfer into a vault, with the vault read again after it. -/
theorem relates_repayTokens {payer payerAccount vault mint tokenProgram : Pubkey}
    {amount balanceBefore : UInt64} :
    Relates (Repriced k o value)
      (repayTokens payer payerAccount vault mint tokenProgram amount balanceBefore) fun _ =>
        Repriced k o value :=
  .bind (relates_sees (fun _ _ h => h) readOnly_mint seesUnpriced_mint) fun _ =>
    .bind relates_invoke fun _ =>
      .bind (relates_sees (fun _ _ h => h) readOnly_tokenAccount seesUnpriced_tokenAccount)
        fun _ => .mono .ofOption fun _ _ _ h => h.2

theorem relates_repayInput {ctx : AtomicSwapRepay} {borrowed excess balanceBefore : UInt64} :
    Relates (Repriced k o value) (repayInput ctx borrowed excess balanceBefore) fun _ =>
      Repriced k o value :=
  .ite (.bind relates_repayTokens fun _ => .pure) .pure

omit [Chain] in
theorem relates_recordInflow {r : Reserve} {clock : Clock} {n : UInt64} :
    Relates (Repriced k o value) (r.recordInflow clock n) fun _ => Repriced k o value :=
  .bind .ofExcept fun _ => .assume fun _ => .bind relates_record fun _ => .pure

omit [Chain] in
theorem relates_recordRepaid {i : Integration} {clock : Clock} {n : UInt64} :
    Relates (Repriced k o value) (i.recordInflow clock n) fun _ => Repriced k o value :=
  .bind .ofExcept fun _ => .assume fun _ => .bind relates_record fun _ => .pure

/-- Both prices pass whatever check the first one passes. -/
def PassesToo (o : Oracle) (value : BitVec (8 * 16)) (cfg : AtomicSwapConfig) : Prop :=
  ∀ ⦃price⦄, o.getPrice cfg.oraclePriceInverted = .ok price →
    ∃ price', Oracle.getPrice { o with value := value } cfg.oraclePriceInverted = .ok price' ∧
      ∀ input output, checkSwapSlippage input cfg.inputMintDecimals output cfg.outputMintDecimals
          cfg.maxSlippageBps price o.precision = .ok () →
        checkSwapSlippage input cfg.inputMintDecimals output cfg.outputMintDecimals
          cfg.maxSlippageBps price' o.precision = .ok ()

/-- **Past the one look at the price.** -/
theorem relates_price {rest : Ix Unit} {account : AccountMeta} {controller : Pubkey}
    {input output oldest : UInt64} {e : Error} (hkey : account.pubkey = k)
    (hpasses : PassesToo o value cfg)
    (hrest : Relates (Repriced k o value) rest fun _ => Repriced k o value) :
    Relates (Repriced k o value) (do
      let oracle ← Oracle.loadAndCheck account (some controller) none
      rejectIf (oracle.lastUpdateSlot < oldest) e
      let oraclePrice ← ofExcept (oracle.getPrice cfg.oraclePriceInverted)
      ofExcept (checkSwapSlippage input cfg.inputMintDecimals output cfg.outputMintDecimals
        cfg.maxSlippageBps oraclePrice oracle.precision)
      rest) fun _ => Repriced k o value := by
  intro w w' hR u w₁ h
  simp only [bind_ok, rejectIf_ok, ofExcept_ok, Oracle.loadAndCheck_ok, and_assoc, exists_and_left,
    exists_eq_left', exists_const] at h
  obtain ⟨o₁, hkeel, hcontroller, hauthority, hseeds, hfresh, price, hprice, _, hcheck, hrun⟩ := h
  rw [hkey, hR.oracle] at hkeel
  obtain rfl := KeelAccount.oracle.inj (Option.some.inj hkeel)
  -- the oracle is the one at `k`: the other price comes of its other value
  obtain ⟨price', hprice', hpass⟩ := hpasses hprice
  obtain ⟨w₂, hrun', hR'⟩ := hrest hR hrun
  refine ⟨w₂, ?_, hR'⟩
  simp only [bind_ok, rejectIf_ok, ofExcept_ok, Oracle.loadAndCheck_ok]
  have hkeel' : w'.keel account.pubkey = some (.oracle { o with value := value }) := by
    rw [hkey, hR.eq, World.setKeel_keel_self]
  exact ⟨_, w', ⟨hkeel', hcontroller, hauthority, hseeds, rfl⟩, (), w', ⟨hfresh, rfl⟩, price', w',
    ⟨hprice', rfl⟩, (), w', ⟨hpass _ _ hcheck, rfl⟩, hrun'⟩

/-! Nothing that a Repay saves is as long as an oracle. -/

omit [Chain] in
theorem Controller.dataLen_ne_oracle {c : Controller} :
    (KeelAccount.controller c).dataLen ≠ (KeelAccount.oracle o).dataLen :=
  show DISCRIMINATOR_SIZE + Controller.LEN ≠ DISCRIMINATOR_SIZE + Oracle.LEN by decide

omit [Chain] in
theorem Reserve.dataLen_ne_oracle {r : Reserve} :
    (KeelAccount.reserve r).dataLen ≠ (KeelAccount.oracle o).dataLen :=
  show DISCRIMINATOR_SIZE + Reserve.LEN ≠ DISCRIMINATOR_SIZE + Oracle.LEN by decide

omit [Chain] in
theorem Integration.dataLen_ne_oracle {i : Integration} :
    (KeelAccount.integration i).dataLen ≠ (KeelAccount.oracle o).dataLen :=
  show DISCRIMINATOR_SIZE + Integration.LEN ≠ DISCRIMINATOR_SIZE + Oracle.LEN by decide

omit [Chain] in
theorem Integration.dataLen_ne_controller {i : Integration} {c : Controller} :
    (KeelAccount.integration i).dataLen ≠ (KeelAccount.controller c).dataLen :=
  show DISCRIMINATOR_SIZE + Integration.LEN ≠ DISCRIMINATOR_SIZE + Controller.LEN by decide

/-- The two states differ in a price, and the integration at `ki` has this configuration. -/
def RepricedAt (ki k : Pubkey) (o : Oracle) (value : BitVec (8 * 16)) (cfg : AtomicSwapConfig)
    (w w' : World) : Prop :=
  Repriced k o value w w' ∧ ∃ i, w.keel ki = some (.integration i) ∧ i.config = .AtomicSwap cfg

omit [Chain] in
theorem relates_unlock {ki : Pubkey} {c : Controller} {account : AccountMeta}
    {status : ControllerStatus} :
    Relates (RepricedAt ki k o value cfg) (c.updateAndSave account status) fun _ =>
      RepricedAt ki k o value cfg := by
  intro w w' hR c' w₁ h
  obtain ⟨hR, i, hi, hcfg⟩ := hR
  have hrun : Relates (Repriced k o value) (c.updateAndSave account status) fun _ =>
      Repriced k o value :=
    .bind .ofExcept fun _ => .assume fun _ =>
      .bind (relates_save Controller.dataLen_ne_oracle) fun _ => .pure
  obtain ⟨w₁', hrun', hR'⟩ := hrun hR h
  refine ⟨w₁', hrun', hR', i, ?_, hcfg⟩
  obtain ⟨-, -, ⟨old, hold, hlen⟩, -, rfl⟩ := Controller.updateAndSave_ok.mp h
  have hne : ki ≠ account.pubkey := by
    intro heq
    rw [← heq, hi] at hold
    obtain rfl := Option.some.inj hold
    exact Integration.dataLen_ne_controller hlen
  rw [World.setKeel_keel_of_ne hne]
  exact hi

/-- From here on the configuration is known. -/
theorem relates_integration {account : AccountMeta} {controller : Pubkey} :
    Relates (RepricedAt account.pubkey k o value cfg)
      (Integration.loadAndCheck account controller) fun i w w' =>
        i.config = .AtomicSwap cfg ∧ Repriced k o value w w' := by
  intro w w' hR i w₁ h
  obtain ⟨hR, i', hi', hcfg⟩ := hR
  obtain ⟨w₁', h', hR'⟩ := relates_sees (fun _ _ h => h) readOnly_integration
    seesUnpriced_integration hR h
  obtain ⟨hi, -⟩ := Integration.loadAndCheck_ok.mp h
  rw [hi'] at hi
  obtain rfl := KeelAccount.integration.inj (Option.some.inj hi)
  exact ⟨w₁', h', hcfg, hR'⟩

/-- **A Repay at the one price is a Repay at the other.** -/
theorem relates_repay {ctx : AtomicSwapRepay} (hbind : AtomicSwapRepay.bind accounts = some ctx)
    (hpasses : PassesToo o value cfg) :
    Relates (RepricedAt ctx.integration.pubkey ctx.oracle.pubkey o value cfg)
      (processAtomicSwapRepay accounts) fun _ => Repriced ctx.oracle.pubkey o value := by
  have hsame : ∀ ⦃w w' : World⦄,
      RepricedAt ctx.integration.pubkey ctx.oracle.pubkey o value cfg w w' →
        Repriced ctx.oracle.pubkey o value w w' := fun _ _ h => h.1
  refine .bind (.yields (relates_sees hsame readOnly_fromAccounts seesUnpriced_fromAccounts)
    fun _ _ _ h => (fromAccounts_ok.mp h).2.1) fun ctx' => .assume fun hbind' => ?_
  obtain rfl := Option.some.inj (hbind.symm.trans hbind')
  -- up to the integration nothing but the controller is saved
  refine .bind (relates_sees hsame .read (.read fun _ _ h => World.unpriced_clock h)) fun clock => ?_
  refine .bind (relates_sees hsame readOnly_permission seesUnpriced_permission) fun p =>
    .bind .rejectIf fun _ => ?_
  refine .bind (relates_sees hsame readOnly_controller seesUnpriced_controller) fun c =>
    .bind .rejectIf fun _ => .bind relates_unlock fun c' => ?_
  refine .bind (relates_sees hsame readOnly_reserve seesUnpriced_reserve) fun rA =>
    .bind .rejectIf fun _ => ?_
  refine .bind (relates_sees hsame readOnly_reserve seesUnpriced_reserve) fun rB =>
    .bind .rejectIf fun _ => ?_
  refine .bind relates_integration fun i => .assume fun hcfg => ?_
  rw [hcfg]
  refine .bind .ofOption fun config => .assume fun hconfig => ?_
  obtain rfl := Option.some.inj hconfig
  refine .bind .ofOption fun lent => .assume fun _ => .bind .rejectIf fun _ => .bind .rejectIf
    fun _ => ?_
  -- the tokens that come back
  have htoken : ∀ k : Pubkey, Relates (Repriced ctx.oracle.pubkey o value)
      (TokenAccount.fromAccountInfo k) fun _ => Repriced ctx.oracle.pubkey o value :=
    fun k => relates_sees (fun _ _ h => h) readOnly_tokenAccount seesUnpriced_tokenAccount
  refine .bind (htoken _) fun tA => .bind (htoken _) fun tB => .bind (htoken _) fun payerA =>
    .bind (htoken _) fun payerB => ?_
  refine .bind .ofOption fun amount => .assume fun _ => .bind .ofOption fun starting =>
    .assume fun _ => .bind .rejectIf fun _ => ?_
  refine .bind relates_repayInput fun result => ?_
  obtain ⟨final, deltaA⟩ := result
  refine .bind relates_repayTokens fun deltaB => relates_price rfl hpasses ?_
  -- what is saved and told
  refine .bind relates_recordInflow fun _ =>
    .bind (relates_save Reserve.dataLen_ne_oracle) fun _ => ?_
  refine .bind relates_recordInflow fun _ =>
    .bind (relates_save Reserve.dataLen_ne_oracle) fun _ => ?_
  refine .bind relates_recordRepaid fun _ =>
    .bind (relates_save Integration.dataLen_ne_oracle) fun _ => ?_
  exact .bind relates_emitEvent fun _ => relates_emitEvent

omit [Chain] in
theorem RepaysAgainst.oracle_eq (hagainst : RepaysAgainst accounts w o cfg)
    (hk : accounts[12]?.map AccountMeta.pubkey = some k) : w.keel k = some (.oracle o) := by
  obtain ⟨⟨ko, hko, ho⟩, -⟩ := hagainst
  rw [Option.some.inj (hk.symm.trans hko)]
  exact ho

omit [Chain] in
/-- The same accounts are named when the oracle says something else. -/
theorem RepaysAgainst.setPrice (hagainst : RepaysAgainst accounts w o cfg)
    (hk : accounts[12]?.map AccountMeta.pubkey = some k) :
    RepaysAgainst accounts (w.setKeel k (.oracle { o with value := value }))
      { o with value := value } cfg := by
  have hoat := hagainst.oracle_eq hk
  obtain ⟨-, ki, i, hki, hi, hcfg⟩ := hagainst
  have hne : ki ≠ k := World.key_ne hi hoat KeelAccount.noConfusion
  refine ⟨⟨k, hk, World.setKeel_keel_self⟩, ki, i, hki, ?_, hcfg⟩
  rw [World.setKeel_keel_of_ne hne]
  exact hi

/-- **A Repay that succeeds, succeeds at every price that passes too**, and leaves the same state
    but for the price. -/
theorem processAtomicSwapRepay_repriced (hagainst : RepaysAgainst accounts w o cfg)
    (hk : accounts[12]?.map AccountMeta.pubkey = some k) (hpasses : PassesToo o value cfg)
    (h : processAtomicSwapRepay accounts w = .ok (u, w')) :
    processAtomicSwapRepay accounts (w.setKeel k (.oracle { o with value := value })) =
      .ok (u, w'.setKeel k (.oracle { o with value := value })) := by
  obtain ⟨ctx, es, hbind, -⟩ := processAtomicSwapRepay_done h
  obtain ⟨⟨ko, hko, ho⟩, ki, i, hki, hi, hcfg⟩ := hagainst
  obtain rfl := Option.some.inj (hk.symm.trans hko)
  obtain ⟨rest, rfl⟩ := AtomicSwapRepay.bind_eq hbind
  obtain rfl := Option.some.inj hko
  obtain rfl := Option.some.inj hki
  obtain ⟨w₁, h', hrepriced⟩ := relates_repay hbind hpasses ⟨⟨ho, rfl⟩, i, hi, hcfg⟩ h
  rw [← hrepriced.eq]
  exact h'

end Repay

end AlmController
