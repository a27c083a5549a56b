import AlmController.Simulator

/-!
# A position at Drift

On the small chain nobody changes a Drift market, and tokens come into an account only from
accounts of its mint. So when all there is at the start is of one mint, the chain keeps what is
assumed of klend and Drift, for that mint (`Simulator.lendingLaws`).

Then a market, at some cumulative interest, and an integration that lends to it. The interest
decides whether a deposit is rounded.
-/

namespace AlmController

open Prog

namespace Simulator

/-! ## Markets -/

/-- The markets found are those that there were. -/
def KeepsMarkets (bank bank' : Bank) : Prop :=
  ∀ k market, (bank' k).data.spotMarket? = some market → (bank k).data.spotMarket? = some market

variable {bank bank' bank'' : Bank} {k : Pubkey}

theorem KeepsMarkets.refl : KeepsMarkets bank bank := fun _ _ h => h

theorem KeepsMarkets.trans (h : KeepsMarkets bank bank') (h' : KeepsMarkets bank' bank'') :
    KeepsMarkets bank bank'' :=
  fun k market hk => h k market (h' k market hk)

/-- An account becomes another, which is no market or was it before. -/
theorem KeepsMarkets.update {account : ExtAccount}
    (h : account.data.spotMarket? = none ∨ account.data = (bank k).data) :
    KeepsMarkets bank (Function.update bank k account) := by
  intro k' market hmarket
  by_cases heq : k' = k
  · subst heq
    rw [Function.update_self] at hmarket
    rcases h with hnone | hsame
    · rw [hnone] at hmarket
      cases hmarket
    · rw [← hsame]
      exact hmarket
  · rw [Function.update_of_ne heq] at hmarket
    exact hmarket

theorem setToken_keepsMarkets {t : TokenAccount} : KeepsMarkets bank (setToken bank k t) :=
  .update (.inl rfl)

theorem moveTokens_keepsMarkets {source destination : Pubkey} {amount : UInt64}
    (h : moveTokens bank source destination amount = some bank') : KeepsMarkets bank bank' := by
  obtain ⟨s, d, -, -, -, hmoved⟩ := moveTokens_some h
  rcases hmoved with ⟨-, rfl⟩ | ⟨-, left, total, -, -, rfl⟩
  · exact .refl
  · exact setToken_keepsMarkets.trans setToken_keepsMarkets

theorem moveLamports_keepsMarkets {source destination : Pubkey} {lamports : UInt64}
    (h : moveLamports bank source destination lamports = some bank') : KeepsMarkets bank bank' := by
  obtain ⟨left, -, h⟩ := Option.bind_eq_some_iff.mp h
  obtain ⟨total, -, h⟩ := Option.bind_eq_some_iff.mp h
  obtain rfl := Option.some.inj h
  have hpaid : KeepsMarkets bank
      (Function.update bank source { bank source with lamports := left }) := .update (.inr rfl)
  exact hpaid.trans (.update (.inr rfl))

theorem createIdempotent_keepsMarkets {ix : CreateIdempotent}
    (h : createIdempotent bank ix = some bank') : KeepsMarkets bank bank' := by
  unfold createIdempotent at h
  split at h
  case isFalse => cases h
  split at h
  · split at h
    · obtain rfl := Option.some.inj h
      exact .refl
    · cases h
  · obtain rfl := Option.some.inj h
    exact .update (.inl rfl)

theorem setOther_keepsMarkets {account : ExtAccount} (h : setOther bank k account = some bank')
    (haccount : account.data.spotMarket? = none ∨ account.data = (bank k).data) :
    KeepsMarkets bank bank' := by
  unfold setOther at h
  split at h
  · obtain rfl := Option.some.inj h
    exact .update haccount
  · cases h

theorem driftDeposit_keepsMarkets {ix : DriftTransfer} (h : driftDeposit bank ix = some bank') :
    KeepsMarkets bank bank' := by
  obtain ⟨user, -, h⟩ := Option.bind_eq_some_iff.mp h
  obtain ⟨market, -, h⟩ := Option.bind_eq_some_iff.mp h
  obtain ⟨slot, -, h⟩ := Option.bind_eq_some_iff.mp h
  obtain ⟨moved, hmoved, h⟩ := Option.bind_eq_some_iff.mp h
  exact (moveTokens_keepsMarkets hmoved).trans (setOther_keepsMarkets h (.inl rfl))

theorem invoke_keepsMarkets {signers : List Pubkey} {call : Cpi}
    (h : invoke bank signers call = some bank') : KeepsMarkets bank bank' := by
  cases call with
  | systemTransfer => exact moveLamports_keepsMarkets h
  | systemCreateAccount => exact moveLamports_keepsMarkets h
  | transferChecked => exact moveTokens_keepsMarkets (transferChecked_some h).2
  | createIdempotent => exact createIdempotent_keepsMarkets h
  | initializeUserStats => exact setOther_keepsMarkets h (.inr rfl)
  | initializeUser => exact setOther_keepsMarkets h (.inl rfl)
  | driftDeposit => exact driftDeposit_keepsMarkets h
  | systemAllocate =>
    obtain rfl := Option.some.inj h
    exact .refl
  | systemAssign =>
    obtain rfl := Option.some.inj h
    exact .refl
  | updateSpotMarketCumulativeInterest =>
    obtain rfl := Option.some.inj h
    exact .refl
  | _ => cases h

/-! ## The laws -/

/-- Drift's addresses are no associated ones. -/
theorem deriveAddress_lt {seeds : List (List UInt8)}
    (h : deriveAddress seeds DRIFT_PROGRAM_ID = .ok k) : k.toNat < derivedFrom + 2 ^ 254 := by
  have hlt := @fingerprint_lt (DRIFT_PROGRAM_ID.bytes :: seeds)
  have hk : deriveAddress seeds DRIFT_PROGRAM_ID =
      .ok (BitVec.ofNat _ (derivedFrom + fingerprint (DRIFT_PROGRAM_ID.bytes :: seeds))) := rfl
  rw [hk] at h
  obtain rfl := Except.ok.inj h
  rw [BitVec.toNat_ofNat, derivedFrom]
  omega

theorem invoke_marketsOf {mint : Pubkey} {signers : List Pubkey} {call : Cpi}
    (h : invoke bank signers call = some bank') (hbank : bank.MarketsOf fun _ => mint) :
    bank'.MarketsOf fun _ => mint where
  market hk hmarket := hbank.market hk (invoke_keepsMarkets h _ _ hmarket)
  vault := by
    intro index k t' hk ht'
    rcases (invoke_keepsMints h).kept k t' ht' with ⟨t, ht, hmint⟩ | ⟨wallet, tokenProgram, hk'⟩
    · rw [← hmint]
      exact hbank.vault hk ht
    · exact absurd (le_associated hk') (not_le.mpr (deriveAddress_lt hk))

/-- A deposit is between accounts of one mint. -/
theorem driftDeposit_mint {ix : DriftTransfer} {t vault : TokenAccount}
    (h : driftDeposit bank ix = some bank') (ht : bank'.token? ix.userTokenAccount = some t)
    (hvault : bank'.token? ix.spotMarketVault = some vault) : t.mint = vault.mint := by
  obtain ⟨moved, hmoved, htokens⟩ := driftDeposit_some h
  rw [htokens] at ht hvault
  obtain ⟨s, d, hs, hd, hmint, hmoved⟩ := moveTokens_some hmoved
  rcases hmoved with ⟨-, rfl⟩ | ⟨hne, left, total, -, -, rfl⟩
  · rw [hs] at ht
    rw [hd] at hvault
    obtain rfl := Option.some.inj ht
    obtain rfl := Option.some.inj hvault
    exact hmint
  · rw [setToken_token?, setToken_token?, if_neg hne, if_pos rfl] at ht
    rw [setToken_token?, if_pos rfl] at hvault
    obtain rfl := Option.some.inj ht
    obtain rfl := Option.some.inj hvault
    exact hmint

/-- **The small chain keeps the laws of lending**, for any mint. -/
theorem lendingLaws {mint : Pubkey} : LendingLaws fun _ => mint where
  markets := invoke_marketsOf
  driftDeposit_mint := driftDeposit_mint
  driftWithdraw_mint h := by cases h
  driftWithdraw_value h := by cases h
  kaminoDeposit_value h := by cases h
  kaminoWithdraw_value h := by cases h

/-- All tokens, and all markets, are of one mint. -/
def OneMint (mint : Pubkey) (accounts : List (Pubkey × ExtAccount)) : Prop :=
  ∀ a ∈ accounts, (∀ t, a.2.data.token? = some t → t.mint = mint) ∧
    ∀ market, a.2.data.spotMarket? = some market → market.mint = mint

theorem bankOf_marketsOf {mint : Pubkey} {accounts : List (Pubkey × ExtAccount)}
    (h : OneMint mint accounts) : (bankOf accounts).MarketsOf fun _ => mint where
  market := by
    intro index k market _ hmarket
    rcases bankOf_mem accounts k with hempty | hmem
    · rw [hempty] at hmarket
      cases hmarket
    · exact (h _ hmem).2 market hmarket
  vault := by
    intro index k t _ ht
    rcases bankOf_mem accounts k with hempty | hmem
    · unfold Bank.token? at ht
      rw [hempty] at ht
      cases ht
    · exact (h _ hmem).1 t ht

/-- Histories keep the markets. -/
theorem marketsOf_run {mint : Pubkey} {instructions : List Instruction} {w w' : World}
    {steps : List (Step World Move)} (h : Trace Moves w steps w')
    (hhistoric : ∀ s ∈ steps, Historic instructions s) (hw : w.bank.MarketsOf fun _ => mint) :
    (∀ s ∈ steps, s.before.bank.MarketsOf fun _ => mint) ∧ w'.bank.MarketsOf fun _ => mint := by
  let I : World → Prop := fun w => w.bank.MarketsOf fun _ => mint
  have hstep : ∀ {w₁ m w₂}, I w₁ → Moves w₁ m w₂ ∧ Historic instructions ⟨w₁, m, w₂⟩ → I w₂ := by
    intro w₁ m w₂ hmarkets hmove
    exact hmove.2.bank.invariant (fun hbank hinvoke => invoke_marketsOf hinvoke hbank) hmarkets
  have htrace := h.restrict hhistoric
  refine ⟨?_, htrace.invariant (I := I) hstep hw⟩
  intro s hs
  exact (htrace.invariant_mem (I := I) hstep hw hs).1

/-! ## An integration that lends at Drift -/

def driftStateKey : Pubkey := derived driftStateSeeds DRIFT_PROGRAM_ID
def driftMarketKey : Pubkey := derived (driftSpotMarketSeeds 0) DRIFT_PROGRAM_ID
def driftVaultKey : Pubkey := derived (driftSpotMarketVaultSeeds 0) DRIFT_PROGRAM_ID
def driftUserKey : Pubkey := derived (driftUserSeeds authorityKey 0) DRIFT_PROGRAM_ID
def driftUserStatsKey : Pubkey := derived (driftUserStatsSeeds authorityKey) DRIFT_PROGRAM_ID

/-- A market of the first token, at this interest. -/
def driftMarket (interest : BitVec 128) : SpotMarket where
  oracle := feed
  mint := mintA
  cumulativeDepositInterest := interest
  cumulativeBorrowInterest := interest
  decimals := 6
  marketIndex := 0
  poolId := 0

/-- A payer, a mint, someone who holds it, and Drift. -/
def driftAccounts (interest : BitVec 128) : List (Pubkey × ExtAccount) :=
  [(payer, ⟨SYSTEM_PROGRAM_ID, 1000, .bytes []⟩), (mintA, mintAccount),
    (marketA, tokenAccount mintA market 10000),
    (driftStateKey, ⟨DRIFT_PROGRAM_ID, 1, .bytes []⟩),
    (driftMarketKey, ⟨DRIFT_PROGRAM_ID, 1, .spotMarket (driftMarket interest)⟩),
    (driftVaultKey, tokenAccount mintA driftStateKey 0)]

def driftConfig : DriftConfig where
  subAccountId := 0
  spotMarketIndex := 0
  poolId := 0
  padding := 0

def driftKey : Pubkey := integrationKey (.Drift driftConfig)

def initializeDrift : Instruction :=
  instruction 6
    [signing payer, plain controllerKey, plain authorityKey, signing operator,
      plain (permissionKey operator), plain driftKey, plain ID, plain SYSTEM_PROGRAM_ID,
      plain mintA, plain driftUserKey, plain driftUserStatsKey, plain driftStateKey,
      plain driftMarketKey, plain RENT_ID, plain DRIFT_PROGRAM_ID]
    (Borsh.write (InitializeIntegrationArgs.mk .Drift .Active 0 100 1000 false (.Drift 0 0)))

def submitOne (ix : Instruction) : Happening := .submit [ix] (by decide : 1 < 2 ^ 16)

/-- A reserve that holds 500 tokens, and the integration. -/
def driftSetup : List Happening :=
  [submitOne initializeController, submitOne authorizeOperator,
    submitOne (initializeReserve mintA 100 1000),
    .transfer (transfer marketA (vaultKey mintA) mintA market 500), submitOne (syncReserve mintA),
    submitOne initializeDrift]

/-- The state in which the examples lend. -/
def driftWorld (interest : BitVec 128) : World :=
  (genesis (driftAccounts interest)).play driftSetup

/-- A deposit of a hundred tokens. -/
def pushDrift : Instruction :=
  instruction 10
    [plain controllerKey, plain authorityKey, signing operator, plain (permissionKey operator),
      plain driftKey, plain (reserveKey mintA), plain ID, plain driftStateKey, plain driftUserKey,
      plain driftUserStatsKey, plain driftVaultKey, plain (vaultKey mintA), plain TOKEN_PROGRAM_ID,
      plain DRIFT_PROGRAM_ID, plain driftMarketKey, plain feed]
    (Borsh.write (PushArgs.Drift 0 100))

def pushContext : TxContext := ⟨[pushDrift], ⟨0, (by decide : 0 < 1)⟩, (by decide : 1 < 2 ^ 16)⟩

/-- The state after it. -/
def lentAt (interest : BitVec 128) : World :=
  ((driftWorld interest).call pushContext pushDrift.accounts pushDrift.data).getD
    (driftWorld interest)

def pushStep (interest : BitVec 128) : Step World Move :=
  ⟨driftWorld interest, .call pushContext pushDrift.accounts pushDrift.data, lentAt interest⟩

theorem driftAccounts_unassociated (interest : BitVec 128) :
    Unassociated (driftAccounts interest) := by
  intro a ha hne
  simp only [driftAccounts, List.mem_cons, List.not_mem_nil, or_false] at ha
  rcases ha with rfl | rfl | rfl | rfl | rfl | rfl
  · exact (by decide : payer.toNat < derivedFrom + 2 ^ 254)
  · exact (by decide : mintA.toNat < derivedFrom + 2 ^ 254)
  · exact (by decide : marketA.toNat < derivedFrom + 2 ^ 254)
  · exact absurd rfl hne
  · exact absurd rfl hne
  · exact (by decide +kernel : driftVaultKey.toNat < derivedFrom + 2 ^ 254)

theorem driftAccounts_oneMint (interest : BitVec 128) : OneMint mintA (driftAccounts interest) := by
  intro a ha
  simp only [driftAccounts, List.mem_cons, List.not_mem_nil, or_false] at ha
  rcases ha with rfl | rfl | rfl | rfl | rfl | rfl
  all_goals
    constructor
    · intro t ht
      cases ht <;> rfl
    · intro market hmarket
      cases hmarket <;> rfl

/-- A run that leads there, on which nothing is pushed or pulled and the markets are of the
    first token. -/
theorem driftWorld_run (interest : BitVec 128) :
    ∃ steps, Trace Moves (genesis (driftAccounts interest)) steps (driftWorld interest) ∧
      (∀ s ∈ steps, s.before.bank.MarketsOf fun _ => mintA) ∧
      (driftWorld interest).bank.MarketsOf (fun _ => mintA) ∧
      ∀ s ∈ steps, ∀ tx accounts data, s.move = .call tx accounts data →
        data.head? ≠ some 10 ∧ data.head? ≠ some 11 := by
  obtain ⟨steps, hrun, hhistoric⟩ :=
    genesis_run (driftAccounts_unassociated interest) driftSetup
  have hmarkets := bankOf_marketsOf (driftAccounts_oneMint interest)
  obtain ⟨hbefore, hend⟩ := marketsOf_run hrun.trace hhistoric hmarkets
  have hno : ∀ ix ∈ driftSetup.flatMap Happening.instructions,
      ix.data.head? ≠ some 10 ∧ ix.data.head? ≠ some 11 := by decide +kernel
  refine ⟨steps, hrun.trace, hbefore, hend, ?_⟩
  intro s hs tx accounts data hmove
  obtain ⟨ix, hix, -, hdata⟩ := (hhistoric s hs).calls _ _ _ hmove
  rw [← hdata]
  exact hno ix hix

/-! ## The deposit -/

/-- It is the only thing pushed or pulled on a run. -/
theorem pushStep_run {interest : BitVec 128}
    (h : ((driftWorld interest).call pushContext pushDrift.accounts pushDrift.data).isSome) :
    ∃ steps, Trace Moves (genesis (driftAccounts interest)) (steps ++ [pushStep interest])
        (lentAt interest) ∧
      (∀ s ∈ steps ++ [pushStep interest], s.before.bank.MarketsOf fun _ => mintA) ∧
      ∀ s ∈ steps, ∀ tx accounts data, s.move = .call tx accounts data →
        data.head? ≠ some 10 ∧ data.head? ≠ some 11 := by
  obtain ⟨steps, htrace, hbefore, hmarkets, hidle⟩ := driftWorld_run interest
  have hpush : Moves (driftWorld interest) (pushStep interest).move (lentAt interest) :=
    World.call_getD_moves h
  refine ⟨steps, htrace.append (.single hpush), ?_, hidle⟩
  intro s hs
  rcases List.mem_append.mp hs with hs | hs
  · exact hbefore s hs
  · rw [List.mem_singleton.mp hs]
    exact hmarkets

/-- What the program reads of the position: the tokens it is worth. -/
def positionValue (w : World) : Option UInt64 :=
  match driftValue driftMarketKey driftUserKey w with
  | .ok (value, _) => some value
  | .error _ => none

theorem positionValue_eq {w w' : World} {value : UInt64}
    (h : driftValue driftMarketKey driftUserKey w = .ok (value, w')) :
    positionValue w = some value := by
  unfold positionValue
  rw [h]

/-- The accounts that the deposit is made with. -/
def pushDriftAccounts : PushDriftAccounts where
  state := plain driftStateKey
  user := plain driftUserKey
  userStats := plain driftUserStatsKey
  spotMarketVault := plain driftVaultKey
  reserveVault := plain (vaultKey mintA)
  tokenProgram := plain TOKEN_PROGRAM_ID
  driftProgram := plain DRIFT_PROGRAM_ID
  remainingAccounts := [plain driftMarketKey, plain feed]

/-- The state after Drift's part of the deposit. -/
def depositedAt (w : World) : World :=
  w.setBank ((driftDeposit w.bank (pushDriftAccounts.deposit authorityKey 0 100)).getD w.bank)

/-- The position's value and the market's vault. -/
def valueAndVault (w : World) : Option UInt64 × Nat :=
  (positionValue w, w.bank.tokenAmount driftVaultKey)

/-- The deposit is exact when it takes the position's value to what is in the vault, where it
    was before. -/
theorem depositsExactly {w : World} {c : Controller} {ctx : PushAccounts} {value value' : UInt64}
    (hbind : PushAccounts.bind pushDrift.accounts = some ctx)
    (hbefore : valueAndVault w = (some value, value.toNat))
    (hafter : valueAndVault (depositedAt w) = (some value', value'.toNat)) :
    DepositsExactly w c ctx (.Drift 0 100) := by
  have hauthority : ctx.controllerAuthority.pubkey = authorityKey := by
    obtain rfl := Option.some.inj hbind
    rfl
  have haccounts : PushDriftAccounts.bind ctx.remainingAccounts = some pushDriftAccounts := by
    obtain rfl := Option.some.inj hbind
    rfl
  obtain ⟨hvalue, hvault⟩ := Prod.mk.inj hbefore
  obtain ⟨hvalue', hvault'⟩ := Prod.mk.inj hafter
  intro innerCtx spotMarketIndex amount signer spotMarket oracle hargs hinner _ hfind
  obtain ⟨rfl, rfl⟩ := PushArgs.Drift.inj hargs
  rw [haccounts] at hinner
  obtain rfl := Option.some.inj hinner
  have hmarket : spotMarket.pubkey = driftMarketKey :=
    (Except.ok.inj (findSpotMarketAndOracle_ok hfind)).symm
  rw [hmarket, hauthority]
  intro bank bank' found found' hupdate hdeposit hfound hfound'
  -- no interest accrues on the small chain
  obtain rfl : w.bank = bank := Option.some.inj hupdate
  have hdrift : driftDeposit w.bank (pushDriftAccounts.deposit authorityKey 0 100) = some bank' :=
    hdeposit
  rw [depositedAt, hdrift, Option.getD_some] at hvalue' hvault'
  rw [positionValue_eq hfound'] at hvalue'
  have hfound₀ := (positionValue_eq hfound).symm.trans hvalue
  obtain rfl := Option.some.inj hfound₀
  obtain rfl := Option.some.inj hvalue'
  have hbank : bank'.tokenAmount driftVaultKey = found'.toNat := hvault'
  show (found'.toNat : Int) - found.toNat =
    bank'.tokenAmount driftVaultKey - w.bank.tokenAmount driftVaultKey
  rw [hbank, hvault]

/-! ## The integration -/

/-- The mint of its position, and the recorded balance. -/
def positionAt (w : World) : Option (Option Pubkey × Option LendingState) :=
  match w.keel driftKey with
  | some (.integration i) => some (i.config.positionMint fun _ => mintA, i.state.lending?)
  | _ => none

theorem positionAt_eq_some {w : World} {mint : Option Pubkey} {state : Option LendingState}
    (h : positionAt w = some (mint, state)) : ∃ i, w.keel driftKey = some (.integration i) ∧
      i.config.positionMint (fun _ => mintA) = mint ∧ i.state.lending? = state := by
  unfold positionAt at h
  split at h
  · rename_i i hi
    obtain ⟨hmint, hstate⟩ := Prod.mk.inj (Option.some.inj h)
    exact ⟨i, hi, hmint, hstate⟩
  · cases h

end Simulator

end AlmController
