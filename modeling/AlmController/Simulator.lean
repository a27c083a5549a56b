import AlmController.Execution

/-!
# A small chain

A `Chain` that computes: addresses are numbers from `2 ^ 255` on, which nobody signs for,
and the system program, the token programs and Drift's deposit do to the accounts what the
real ones do. Other invocations fail. It keeps what the theorems assume of the token
programs (`Simulator.tokenLaws`), so the laws are satisfiable, and the examples of the
theorems run on it.
-/

namespace AlmController

namespace Simulator

/-! ## Addresses -/

/-- Addresses from here on have no private key. -/
def derivedFrom : Nat := 2 ^ 255

def canSign (k : Pubkey) : Bool := decide (k.toNat < derivedFrom)

/-- A number for a list of seeds. -/
def fingerprint (seeds : List (List UInt8)) : Nat :=
  seeds.foldl (fun h seed => seed.foldl (fun h b => (h * 263 + b.toNat + 1) % 2 ^ 200) (h + 1)) 0
    % 2 ^ 200

/-- The address of an associated token account ends in the mint, a small number. -/
def associated (wallet tokenProgram : List UInt8) (mint : Pubkey) : Option Pubkey :=
  if mint.toNat < 2 ^ 16 then
    some (BitVec.ofNat _
      (derivedFrom + 2 ^ 254 + fingerprint [wallet, tokenProgram] * 2 ^ 16 + mint.toNat))
  else none

def addressOf (seeds : List (List UInt8)) (program : Pubkey) : Option Pubkey :=
  if program = ASSOCIATED_TOKEN_PROGRAM_ID then
    match seeds with
    | [wallet, tokenProgram, mint] =>
      (Borsh.tryFromSlice mint).bind (associated wallet tokenProgram)
    | _ => none
  else some (BitVec.ofNat _ (derivedFrom + fingerprint (program.bytes :: seeds)))

/-- Every address is found at the first bump. -/
def findAddress (seeds : List (List UInt8)) (program : Pubkey) : Option (Pubkey × UInt8) :=
  (addressOf seeds program).map fun k => (k, 255)

def createAddress (seeds : List (List UInt8)) (program : Pubkey) : Option Pubkey :=
  if seeds.getLast? = some [255] then addressOf seeds.dropLast program else none

theorem fingerprint_lt {seeds : List (List UInt8)} : fingerprint seeds < 2 ^ 200 :=
  Nat.mod_lt _ (by decide)

theorem canSign_addressOf {seeds : List (List UInt8)} {k : Pubkey}
    (h : addressOf seeds ID = some k) : canSign k = false := by
  have hlt := @fingerprint_lt (ID.bytes :: seeds)
  unfold addressOf at h
  rw [if_neg (by decide)] at h
  obtain rfl := Option.some.inj h
  refine decide_eq_false ?_
  rw [BitVec.toNat_ofNat, derivedFrom]
  omega

theorem associated_mint {wallet tokenProgram : List UInt8} {mint k : Pubkey}
    (h : associated wallet tokenProgram mint = some k) : k.toNat % 2 ^ 16 = mint.toNat := by
  have hlt := @fingerprint_lt [wallet, tokenProgram]
  unfold associated at h
  split at h
  · obtain rfl := Option.some.inj h
    rw [BitVec.toNat_ofNat, derivedFrom]
    omega
  · cases h

/-! ## Invocations -/

/-- Put a token account's data at an address that has one. -/
def setToken (bank : Bank) (k : Pubkey) (t : TokenAccount) : Bank :=
  Function.update bank k { bank k with data := .token t }

/-- Move tokens between two accounts of one mint. -/
def moveTokens (bank : Bank) (source destination : Pubkey) (amount : UInt64) : Option Bank := do
  let from' ← bank.token? source
  let to' ← bank.token? destination
  if from'.mint = to'.mint then
    let left ← from'.amount.checkedSub amount
    if source = destination then return bank
    else
      let total ← to'.amount.checkedAdd amount
      return setToken (setToken bank source { from' with amount := left }) destination
        { to' with amount := total }
  else none

def moveLamports (bank : Bank) (source destination : Pubkey) (lamports : UInt64) :
    Option Bank := do
  let left ← (bank source).lamports.checkedSub lamports
  let paid := Function.update bank source { bank source with lamports := left }
  let total ← (paid destination).lamports.checkedAdd lamports
  return Function.update paid destination { paid destination with lamports := total }

/-- `TransferChecked`, without a fee: the owner signs. -/
def transferChecked (bank : Bank) (signers : List Pubkey) (ix : TransferChecked) : Option Bank := do
  let source ← bank.token? ix.fromAccount
  if source.mint = ix.mint ∧ source.owner = ix.authority ∧
      (ix.authority ∈ signers ∨ canSign ix.authority = true) then
    moveTokens bank ix.fromAccount ix.toAccount ix.amount
  else none

/-- `CreateIdempotent`: an account that is there must be the right one. -/
def createIdempotent (bank : Bank) (ix : CreateIdempotent) : Option Bank :=
  if associated ix.wallet.bytes ix.tokenProgram.bytes ix.mint = some ix.account then
    match bank.token? ix.account with
    | some t => if t.mint = ix.mint ∧ t.owner = ix.wallet then some bank else none
    | none =>
      some (Function.update bank ix.account
        { bank ix.account with
          owner := ix.tokenProgram
          data := .token
            { mint := ix.mint, owner := ix.wallet, amount := 0, dataLen := TokenAccount.BASE_LEN } })
  else none

/-- Replace an account that holds no tokens. -/
def setOther (bank : Bank) (k : Pubkey) (account : ExtAccount) : Option Bank :=
  if bank.token? k = none ∧ account.data.token? = none then some (Function.update bank k account)
  else none

/-- Drift's `deposit`: the vault of the market takes the tokens, and the position grows by
    what they are worth at the market's cumulative interest, rounded down. -/
def driftDeposit (bank : Bank) (ix : DriftTransfer) : Option Bank := do
  let user ← (bank ix.user).data.driftUser?
  let market ← ix.remainingAccounts.findSome? fun k =>
    ((bank k).data.spotMarket?).filter fun m => m.marketIndex = ix.marketIndex
  let slot ← user.spotPositions.toList.findIdx? fun p =>
    p.marketIndex = ix.marketIndex ∧ p.balanceType = 0
  let position := user.spotPositions.toList[slot]?.getD ⟨0, ix.marketIndex, 0⟩
  let scaled := ix.amount.toNat * 10 ^ (19 - market.decimals.toNat) /
    market.cumulativeDepositInterest.toNat
  let grown := { position with scaledBalance := position.scaledBalance + UInt64.ofNat scaled }
  let moved ← moveTokens bank ix.userTokenAccount ix.spotMarketVault ix.amount
  setOther moved ix.user
    { moved ix.user with
      data := .driftUser { user with spotPositions := user.spotPositions.setIfInBounds slot grown } }

/-- What an invocation does. Drift's users start with nothing, in pool 0. -/
def invoke (bank : Bank) (signers : List Pubkey) : Cpi → Option Bank
  | .systemTransfer source destination lamports => moveLamports bank source destination lamports
  | .systemCreateAccount source account lamports _ _ => moveLamports bank source account lamports
  | .systemAllocate _ _ => some bank
  | .systemAssign _ _ => some bank
  | .transferChecked ix => transferChecked bank signers ix
  | .createIdempotent ix => createIdempotent bank ix
  | .initializeUserStats userStats _ _ _ =>
    setOther bank userStats { bank userStats with owner := DRIFT_PROGRAM_ID }
  | .initializeUser user _ _ _ _ _ _ =>
    setOther bank user
      { bank user with
        owner := DRIFT_PROGRAM_ID
        data := .driftUser { spotPositions := .replicate 8 ⟨0, 0, 0⟩, poolId := 0 } }
  | .updateSpotMarketCumulativeInterest _ _ _ _ => some bank
  | .driftDeposit ix => driftDeposit bank ix
  | _ => none

/-- **The chain.** -/
scoped instance chain : Chain where
  tryFindProgramAddress := findAddress
  createProgramAddress := createAddress
  keccak bytes := BitVec.ofNat _ (fingerprint [bytes])
  minimumBalance _ := 1
  canSign := canSign
  invoke _ call signers bank := invoke bank signers call
  find_create := by
    intro seeds program key bump h
    obtain ⟨k, hk, heq⟩ := Option.map_eq_some_iff.mp h
    obtain ⟨rfl, rfl⟩ := Prod.mk.inj heq
    unfold createAddress
    rw [List.getLast?_concat, if_pos rfl, List.dropLast_concat, hk]
  pda_cannot_sign := by
    intro seeds key h
    unfold createAddress at h
    split at h
    · exact canSign_addressOf h
    · cases h

/-! ## The laws -/

theorem tryFindProgramAddress_eq {seeds : List (List UInt8)} {program : Pubkey} :
    (Chain.tryFindProgramAddress seeds program).map Prod.fst = addressOf seeds program := by
  show ((addressOf seeds program).map fun k => (k, (255 : UInt8))).map Prod.fst = _
  rw [Option.map_map]
  exact Option.map_id'

theorem associatedTokenAddress_eq {wallet tokenProgram mint : Pubkey} :
    associatedTokenAddress wallet tokenProgram mint =
      associated wallet.bytes tokenProgram.bytes mint := by
  have hread : Borsh.tryFromSlice mint.bytes = some mint := Borsh.tryFromSlice_eq_some.mpr rfl
  rw [associatedTokenAddress, tryFindProgramAddress_eq, addressOf, if_pos rfl]
  simp only [hread, Option.bind_some]

/-- What an invocation does to the token accounts: it keeps the mint of each, and creates
    them only at associated addresses of their mint. -/
structure KeepsMints (bank bank' : Bank) : Prop where
  kept : ∀ k t', bank'.token? k = some t' → (∃ t, bank.token? k = some t ∧ t.mint = t'.mint) ∨
    ∃ wallet tokenProgram, associated wallet tokenProgram t'.mint = some k

theorem KeepsMints.refl {bank : Bank} : KeepsMints bank bank := ⟨fun _ t h => .inl ⟨t, h, rfl⟩⟩

theorem KeepsMints.wellFormed {bank bank' : Bank} (h : KeepsMints bank bank')
    (hbank : bank.WellFormed) : bank'.WellFormed := by
  intro wallet tokenProgram mint k t' hk ht'
  rcases h.kept k t' ht' with ⟨t, ht, hmint⟩ | ⟨wallet', tokenProgram', hk'⟩
  · exact hmint ▸ hbank wallet tokenProgram mint k t hk ht
  · -- one address, one mint
    rw [associatedTokenAddress_eq] at hk
    refine BitVec.eq_of_toNat_eq ?_
    rw [← associated_mint hk, ← associated_mint hk']

variable {bank bank' : Bank} {k : Pubkey}

theorem setToken_token? {t : TokenAccount} {k' : Pubkey} :
    (setToken bank k t).token? k' = if k' = k then some t else bank.token? k' := by
  unfold Bank.token? setToken
  by_cases h : k' = k
  · rw [if_pos h, h, Function.update_self]
    rfl
  · rw [if_neg h, Function.update_of_ne h]

theorem tokenAmount_congr (h : bank'.token? k = bank.token? k) :
    bank'.tokenAmount k = bank.tokenAmount k := by
  unfold Bank.tokenAmount
  rw [h]

/-- The two ways of moving tokens: not at all, within one account, or exactly the amount. -/
theorem moveTokens_some {source destination : Pubkey} {amount : UInt64}
    (h : moveTokens bank source destination amount = some bank') :
    ∃ s d, bank.token? source = some s ∧ bank.token? destination = some d ∧ s.mint = d.mint ∧
      ((source = destination ∧ bank' = bank) ∨ (source ≠ destination ∧ ∃ left total,
        s.amount.checkedSub amount = some left ∧ d.amount.checkedAdd amount = some total ∧
        bank' = setToken (setToken bank source { s with amount := left }) destination
          { d with amount := total })) := by
  unfold moveTokens at h
  obtain ⟨s, hs, h⟩ := Option.bind_eq_some_iff.mp h
  obtain ⟨d, hd, h⟩ := Option.bind_eq_some_iff.mp h
  refine ⟨s, d, hs, hd, ?_⟩
  split at h
  case isFalse => cases h
  rename_i hmint
  obtain ⟨left, hleft, h⟩ := Option.bind_eq_some_iff.mp h
  refine ⟨hmint, ?_⟩
  split at h
  · rename_i heq
    exact .inl ⟨heq, (Option.some.inj h).symm⟩
  · rename_i hne
    obtain ⟨total, htotal, h⟩ := Option.bind_eq_some_iff.mp h
    exact .inr ⟨hne, left, total, hleft, htotal, (Option.some.inj h).symm⟩

theorem moveTokens_keepsMints {source destination : Pubkey} {amount : UInt64}
    (h : moveTokens bank source destination amount = some bank') : KeepsMints bank bank' := by
  obtain ⟨s, d, hs, hd, -, h⟩ := moveTokens_some h
  rcases h with ⟨-, rfl⟩ | ⟨-, left, total, -, -, rfl⟩
  · exact .refl
  · refine ⟨fun k t' ht' => .inl ?_⟩
    rw [setToken_token?, setToken_token?] at ht'
    split at ht'
    · rename_i heq
      obtain rfl := Option.some.inj ht'
      exact ⟨d, heq ▸ hd, rfl⟩
    split at ht'
    · rename_i heq
      obtain rfl := Option.some.inj ht'
      exact ⟨s, heq ▸ hs, rfl⟩
    · exact ⟨t', ht', rfl⟩

theorem moveLamports_token? {source destination : Pubkey} {lamports : UInt64} {k : Pubkey}
    (h : moveLamports bank source destination lamports = some bank') :
    bank'.token? k = bank.token? k := by
  obtain ⟨left, -, h⟩ := Option.bind_eq_some_iff.mp h
  obtain ⟨total, -, h⟩ := Option.bind_eq_some_iff.mp h
  obtain rfl := Option.some.inj h
  unfold Bank.token?
  by_cases hd : k = destination
  · subst hd
    rw [Function.update_self]
    by_cases hs : k = source
    · rw [hs, Function.update_self]
    · rw [Function.update_of_ne hs]
  · rw [Function.update_of_ne hd]
    by_cases hs : k = source
    · rw [hs, Function.update_self]
    · rw [Function.update_of_ne hs]

theorem setOther_token? {account : ExtAccount} {k' : Pubkey}
    (h : setOther bank k account = some bank') : bank'.token? k' = bank.token? k' := by
  unfold setOther at h
  split at h
  case isFalse => cases h
  rename_i hnone
  obtain rfl := Option.some.inj h
  unfold Bank.token?
  by_cases heq : k' = k
  · rw [heq, Function.update_self, hnone.2]
    exact hnone.1.symm
  · rw [Function.update_of_ne heq]

theorem KeepsMints.of_token? (h : ∀ k, bank'.token? k = bank.token? k) : KeepsMints bank bank' :=
  ⟨fun k t' ht' => .inl ⟨t', h k ▸ ht', rfl⟩⟩

theorem createIdempotent_some {ix : CreateIdempotent}
    (h : createIdempotent bank ix = some bank') :
    associated ix.wallet.bytes ix.tokenProgram.bytes ix.mint = some ix.account ∧
      (bank' = bank ∨ bank.token? ix.account = none ∧ ∀ k, bank'.token? k =
        if k = ix.account then some ⟨ix.mint, ix.wallet, 0, TokenAccount.BASE_LEN⟩
        else bank.token? k) := by
  unfold createIdempotent at h
  split at h
  case isFalse => cases h
  rename_i haddress
  refine ⟨haddress, ?_⟩
  split at h
  · split at h
    · exact .inl (Option.some.inj h).symm
    · cases h
  · rename_i hnone
    obtain rfl := Option.some.inj h
    refine .inr ⟨hnone, fun k => ?_⟩
    unfold Bank.token?
    by_cases hk : k = ix.account
    · rw [if_pos hk, hk, Function.update_self]
      rfl
    · rw [if_neg hk, Function.update_of_ne hk]

theorem transferChecked_some {signers : List Pubkey} {ix : TransferChecked}
    (h : transferChecked bank signers ix = some bank') :
    (∃ s, bank.token? ix.fromAccount = some s ∧ s.mint = ix.mint) ∧
      moveTokens bank ix.fromAccount ix.toAccount ix.amount = some bank' := by
  obtain ⟨s, hs, h⟩ := Option.bind_eq_some_iff.mp h
  split at h
  · rename_i hchecks
    exact ⟨⟨s, hs, hchecks.1⟩, h⟩
  · cases h

/-- The destination is credited with at most the amount. -/
theorem transferChecked_credit {signers : List Pubkey} {ix : TransferChecked}
    (h : transferChecked bank signers ix = some bank') :
    bank'.tokenAmount ix.toAccount ≤ bank.tokenAmount ix.toAccount + ix.amount.toNat := by
  obtain ⟨-, hmoved⟩ := transferChecked_some h
  obtain ⟨s, d, -, hd, -, hmoved⟩ := moveTokens_some hmoved
  rcases hmoved with ⟨-, rfl⟩ | ⟨-, left, total, -, htotal, rfl⟩
  · exact Nat.le_add_right _ _
  · have hto : (setToken (setToken bank ix.fromAccount { s with amount := left }) ix.toAccount
        { d with amount := total }).token? ix.toAccount = some { d with amount := total } := by
      rw [setToken_token?, if_pos rfl]
    rw [Bank.tokenAmount_of_token? hto, Bank.tokenAmount_of_token? hd]
    exact (UInt64.checkedAdd_eq_some.mp htotal).le

theorem driftDeposit_some {ix : DriftTransfer} (h : driftDeposit bank ix = some bank') :
    ∃ moved, moveTokens bank ix.userTokenAccount ix.spotMarketVault ix.amount = some moved ∧
      ∀ k, bank'.token? k = moved.token? k := by
  obtain ⟨user, -, h⟩ := Option.bind_eq_some_iff.mp h
  obtain ⟨market, -, h⟩ := Option.bind_eq_some_iff.mp h
  obtain ⟨slot, -, h⟩ := Option.bind_eq_some_iff.mp h
  obtain ⟨moved, hmoved, h⟩ := Option.bind_eq_some_iff.mp h
  exact ⟨moved, hmoved, fun k => setOther_token? h⟩

/-- A quiet invocation changes no balance: it keeps the token accounts, or creates one. -/
theorem invoke_quiet {signers : List Pubkey} {call : Cpi} (hquiet : call.isQuiet = true)
    (h : invoke bank signers call = some bank') :
    (∀ k, bank'.token? k = bank.token? k) ∨
      ∃ ix, call = .createIdempotent ix ∧ createIdempotent bank ix = some bank' := by
  cases call with
  | transferChecked => cases hquiet
  | depositForBurn => cases hquiet
  | kaminoDeposit => cases hquiet
  | kaminoWithdraw => cases hquiet
  | harvestReward => cases hquiet
  | driftDeposit => cases hquiet
  | driftWithdraw => cases hquiet
  | createIdempotent ix => exact .inr ⟨ix, rfl, h⟩
  | systemTransfer => exact .inl fun _ => moveLamports_token? h
  | systemCreateAccount => exact .inl fun _ => moveLamports_token? h
  | systemAllocate => exact .inl fun _ => by rw [Option.some.inj h]
  | systemAssign => exact .inl fun _ => by rw [Option.some.inj h]
  | initializeUserStats => exact .inl fun _ => setOther_token? h
  | initializeUser => exact .inl fun _ => setOther_token? h
  | updateSpotMarketCumulativeInterest => exact .inl fun _ => by rw [Option.some.inj h]
  | _ => cases h

theorem invoke_keepsMints {signers : List Pubkey} {call : Cpi}
    (h : invoke bank signers call = some bank') : KeepsMints bank bank' := by
  by_cases hquiet : call.isQuiet = true
  · rcases invoke_quiet hquiet h with hsame | ⟨ix, rfl, hcreate⟩
    · exact .of_token? hsame
    · obtain ⟨haddress, hbank⟩ := createIdempotent_some hcreate
      rcases hbank with rfl | ⟨-, htokens⟩
      · exact .refl
      · refine ⟨fun k t' ht' => ?_⟩
        rw [htokens] at ht'
        split at ht'
        · rename_i hk
          obtain rfl := Option.some.inj ht'
          exact .inr ⟨_, _, hk ▸ haddress⟩
        · exact .inl ⟨t', ht', rfl⟩
  · cases call with
    | transferChecked ix => exact moveTokens_keepsMints (transferChecked_some h).2
    | driftDeposit ix =>
      obtain ⟨moved, hmoved, htokens⟩ := driftDeposit_some h
      refine ⟨fun k t' ht' => (moveTokens_keepsMints hmoved).kept k t' ?_⟩
      rw [← htokens]
      exact ht'
    | depositForBurn => cases h
    | kaminoDeposit => cases h
    | kaminoWithdraw => cases h
    | harvestReward => cases h
    | driftWithdraw => cases h
    | _ => exact absurd rfl hquiet

/-- **The small chain keeps the laws.** -/
theorem tokenLaws : TokenLaws where
  wellFormed h hbank := (invoke_keepsMints h).wellFormed hbank
  quiet := by
    intro clock call signers bank bank' hquiet h k
    rcases invoke_quiet hquiet h with hsame | ⟨ix, rfl, hcreate⟩
    · exact tokenAmount_congr (hsame k)
    · rcases (createIdempotent_some hcreate).2 with rfl | ⟨hnone, htokens⟩
      · rfl
      · have hk := htokens k
        unfold Bank.tokenAmount
        split at hk
        · rename_i heq
          rw [hk, heq, hnone]
          rfl
        · rw [hk]
  createIdempotent := by
    intro clock signers bank bank' ix h
    rw [associatedTokenAddress_eq]
    exact (createIdempotent_some h).1
  transfer_mint := by
    intro clock signers bank bank' ix h
    obtain ⟨⟨s, hs, hmint⟩, hmoved⟩ := transferChecked_some h
    obtain ⟨s', d, hs', hd, hsame, -⟩ := moveTokens_some hmoved
    rw [hs] at hs'
    obtain rfl := Option.some.inj hs'
    exact ⟨s, d, hs, hd, hmint, hsame ▸ hmint⟩
  transfer_frame := by
    intro clock signers bank bank' ix h k hfrom hto
    obtain ⟨s, d, -, -, -, hmoved⟩ := moveTokens_some (transferChecked_some h).2
    rcases hmoved with ⟨-, rfl⟩ | ⟨-, left, total, -, -, rfl⟩
    · rfl
    · refine tokenAmount_congr ?_
      rw [setToken_token?, setToken_token?, if_neg hto, if_neg hfrom]
  transfer_debit := by
    intro clock signers bank bank' ix h hne
    obtain ⟨s, d, hs, -, -, hmoved⟩ := moveTokens_some (transferChecked_some h).2
    rcases hmoved with ⟨heq, -⟩ | ⟨-, left, total, hleft, -, rfl⟩
    · exact absurd heq hne
    · have hsource : (setToken (setToken bank ix.fromAccount { s with amount := left })
          ix.toAccount { d with amount := total }).token? ix.fromAccount =
            some { s with amount := left } := by
        rw [setToken_token?, setToken_token?, if_neg hne, if_pos rfl]
      rw [Bank.tokenAmount_of_token? hsource, Bank.tokenAmount_of_token? hs]
      have hsub := UInt64.checkedSub_eq_some.mp hleft
      show left.toNat + ix.amount.toNat = s.amount.toNat
      omega
  kaminoDeposit h := by cases h
  kaminoWithdraw h := by cases h
  harvest_owner h := by cases h
  harvest_mint h := by cases h
  driftWithdraw h := by cases h

/-! ## Where it starts -/

/-- The accounts of a list, the first of a key. -/
def bankOf (accounts : List (Pubkey × ExtAccount)) : Bank :=
  fun k => (accounts.lookup k).getD .empty

/-- Below the associated addresses, any token account may stand. -/
def Unassociated (accounts : List (Pubkey × ExtAccount)) : Prop :=
  ∀ a ∈ accounts, a.2.data.token? ≠ none → a.1.toNat < derivedFrom + 2 ^ 254

instance (accounts : List (Pubkey × ExtAccount)) : Decidable (Unassociated accounts) :=
  inferInstanceAs (Decidable (∀ a ∈ accounts, _ → _))

theorem le_associated {wallet tokenProgram : List UInt8} {mint : Pubkey}
    (h : associated wallet tokenProgram mint = some k) : derivedFrom + 2 ^ 254 ≤ k.toNat := by
  have hlt := @fingerprint_lt [wallet, tokenProgram]
  unfold associated at h
  split at h
  · obtain rfl := Option.some.inj h
    rw [BitVec.toNat_ofNat, derivedFrom]
    omega
  · cases h

/-- What stands at an address is on the list, or nothing is there. -/
theorem bankOf_mem (accounts : List (Pubkey × ExtAccount)) (k : Pubkey) :
    bankOf accounts k = .empty ∨ (k, bankOf accounts k) ∈ accounts := by
  unfold bankOf
  cases hlookup : accounts.lookup k with
  | none => exact .inl rfl
  | some a =>
    obtain ⟨before, after, heq, -⟩ := List.lookup_eq_some_iff.mp hlookup
    refine .inr ?_
    rw [heq]
    exact List.mem_append_right _ List.mem_cons_self

theorem bankOf_wellFormed {accounts : List (Pubkey × ExtAccount)} (h : Unassociated accounts) :
    (bankOf accounts).WellFormed := by
  intro wallet tokenProgram mint k t hk ht
  rw [associatedTokenAddress_eq] at hk
  refine absurd (le_associated hk) (not_le.mpr ?_)
  unfold Bank.token? at ht
  rcases bankOf_mem accounts k with hempty | hmem
  · rw [hempty] at ht
    cases ht
  · refine h _ hmem ?_
    rw [ht]
    exact Option.some_ne_none t

def genesis (accounts : List (Pubkey × ExtAccount)) : World where
  keel := fun _ => none
  bank := bankOf accounts
  clock := ⟨100, 1000⟩
  log := []

theorem genesis_genesis {accounts : List (Pubkey × ExtAccount)} (h : Unassociated accounts) :
    World.Genesis (genesis accounts) :=
  ⟨fun _ => rfl, bankOf_wellFormed h, rfl⟩

theorem genesis_attained {accounts : List (Pubkey × ExtAccount)} (h : Unassociated accounts) :
    Attained (genesis accounts) :=
  .genesis (genesis_genesis h) (by decide : 0 ≤ (1000 : Int64).toInt)

/-- **Histories from these accounts attain their states.** -/
theorem genesis_play {accounts : List (Pubkey × ExtAccount)} (h : Unassociated accounts)
    (hs : List Happening) : Attained ((genesis accounts).play hs) :=
  (genesis_attained h).play tokenLaws hs

theorem genesis_run {accounts : List (Pubkey × ExtAccount)} (h : Unassociated accounts)
    (hs : List Happening) : ∃ steps, Run (genesis accounts) steps ((genesis accounts).play hs) ∧
      ∀ s ∈ steps, Historic (hs.flatMap Happening.instructions) s :=
  World.play_run tokenLaws (genesis_attained h) hs

/-! ## A controller that swaps -/

def payer : Pubkey := 0x10000
def operator : Pubkey := 0x20000
def trader : Pubkey := 0x30000
def market : Pubkey := 0x40000
def feed : Pubkey := 0x50000
def mintA : Pubkey := 0xA
def mintB : Pubkey := 0xB
def traderA : Pubkey := 0x3000A
def traderB : Pubkey := 0x3000B
def marketA : Pubkey := 0x4000A
def marketB : Pubkey := 0x4000B

def derived (seeds : List (List UInt8)) (program : Pubkey) : Pubkey :=
  (addressOf seeds program).getD 0

def controllerKey : Pubkey := derived [CONTROLLER_SEED, u16Bytes 1] ID
def authorityKey : Pubkey := derived [CONTROLLER_AUTHORITY_SEED, controllerKey.bytes] ID
def permissionKey (authority : Pubkey) : Pubkey :=
  derived [PERMISSION_SEED, controllerKey.bytes, authority.bytes] ID
def reserveKey (mint : Pubkey) : Pubkey :=
  derived [RESERVE_SEED, controllerKey.bytes, mint.bytes] ID
def vaultKey (mint : Pubkey) : Pubkey :=
  derived [authorityKey.bytes, TOKEN_PROGRAM_ID.bytes, mint.bytes] ASSOCIATED_TOKEN_PROGRAM_ID
def oracleKey : Pubkey := derived [ORACLE_SEED, (1 : Pubkey).bytes] ID

/-- A mint of 6 decimals. -/
def mintAccount : ExtAccount :=
  ⟨TOKEN_PROGRAM_ID, 1, .bytes (List.replicate 44 0 ++ 6 :: List.replicate 37 0)⟩

def tokenAccount (mint owner : Pubkey) (amount : UInt64) : ExtAccount :=
  ⟨TOKEN_PROGRAM_ID, 1, .token ⟨mint, owner, amount, TokenAccount.BASE_LEN⟩⟩

/-- A payer, two mints, a trader and a market that hold both, and a feed. -/
def accounts (price : PullFeed) : List (Pubkey × ExtAccount) :=
  [(payer, ⟨SYSTEM_PROGRAM_ID, 1000, .bytes []⟩), (mintA, mintAccount), (mintB, mintAccount),
    (traderA, tokenAccount mintA trader 50), (traderB, tokenAccount mintB trader 50),
    (marketA, tokenAccount mintA market 10000), (marketB, tokenAccount mintB market 10000),
    (feed, ⟨SWITCHBOARD_ON_DEMAND_PROGRAM_ID, 1, .pullFeed price⟩)]

theorem accounts_unassociated (price : PullFeed) : Unassociated (accounts price) := by
  intro a ha hne
  simp only [accounts, List.mem_cons, List.not_mem_nil, or_false] at ha
  rcases ha with rfl | rfl | rfl | rfl | rfl | rfl | rfl | rfl
  · exact (by decide : payer.toNat < derivedFrom + 2 ^ 254)
  · exact (by decide : mintA.toNat < derivedFrom + 2 ^ 254)
  · exact (by decide : mintB.toNat < derivedFrom + 2 ^ 254)
  · exact (by decide : traderA.toNat < derivedFrom + 2 ^ 254)
  · exact (by decide : traderB.toNat < derivedFrom + 2 ^ 254)
  · exact (by decide : marketA.toNat < derivedFrom + 2 ^ 254)
  · exact (by decide : marketB.toNat < derivedFrom + 2 ^ 254)
  · exact (by decide : feed.toNat < derivedFrom + 2 ^ 254)

def plain (k : Pubkey) : AccountMeta := ⟨k, false, true⟩
def signing (k : Pubkey) : AccountMeta := ⟨k, true, true⟩

/-- An instruction of this program. -/
def instruction (discriminator : UInt8) (accounts : List AccountMeta) (args : List UInt8) :
    Instruction :=
  ⟨ID, accounts, discriminator :: args⟩

def initializeController : Instruction :=
  instruction 1
    [signing payer, signing KEEL_DEPLOYER_MSIG, plain controllerKey, plain authorityKey,
      plain (permissionKey KEEL_DEPLOYER_MSIG), plain ID, plain SYSTEM_PROGRAM_ID]
    (Borsh.write (InitializeControllerArgs.mk 1 .Active))

/-- Let the operator do everything but manage permissions. -/
def authorizeOperator : Instruction :=
  instruction 3
    [signing payer, plain controllerKey, plain authorityKey, signing KEEL_DEPLOYER_MSIG,
      plain (permissionKey KEEL_DEPLOYER_MSIG), plain operator, plain (permissionKey operator),
      plain ID, plain SYSTEM_PROGRAM_ID]
    (Borsh.write
      (ManagePermissionArgs.mk .Active false true true true true true true true true))

def initializeReserve (mint : Pubkey) (slope maxOutflow : UInt64) : Instruction :=
  instruction 4
    [signing payer, plain controllerKey, plain authorityKey, signing operator,
      plain (permissionKey operator), plain (reserveKey mint), plain mint, plain (vaultKey mint),
      plain TOKEN_PROGRAM_ID, plain ASSOCIATED_TOKEN_PROGRAM_ID, plain ID, plain SYSTEM_PROGRAM_ID]
    (Borsh.write (InitializeReserveArgs.mk .Active slope maxOutflow))

def initializeOracle : Instruction :=
  instruction 12
    [signing payer, plain controllerKey, plain authorityKey, signing operator, plain feed,
      plain oracleKey, plain SYSTEM_PROGRAM_ID]
    (Borsh.write (InitializeOracleArgs.mk 0 1 mintA mintB))

def refreshOracle : Instruction := instruction 14 [plain feed, plain oracleKey] []

def syncReserve (mint : Pubkey) : Instruction :=
  instruction 8
    [plain controllerKey, plain authorityKey, plain (reserveKey mint), plain (vaultKey mint)] []

def transfer (source destination mint owner : Pubkey) (amount : UInt64) : TransferChecked :=
  ⟨source, mint, destination, owner, amount, 6, TOKEN_PROGRAM_ID⟩

/-- Two reserves that hold 500 and 200 tokens, with limits of 1000, and an oracle. -/
def setup : List Happening :=
  [.submit [initializeController, authorizeOperator] (by decide),
    .submit [initializeReserve mintA 100 1000, initializeReserve mintB 100 1000, initializeOracle,
      refreshOracle] (by decide),
    .transfer (transfer marketA (vaultKey mintA) mintA market 500),
    .transfer (transfer marketB (vaultKey mintB) mintB market 200),
    .submit [syncReserve mintA, syncReserve mintB] (by decide)]

/-- At most one percent of slippage, and a price not older than 50 slots. -/
def swapConfig : AtomicSwapConfig where
  inputToken := mintA
  outputToken := mintB
  oracle := oracleKey
  maxStaleness := 50
  expiryTimestamp := 1000000
  maxSlippageBps := 100
  inputMintDecimals := 6
  outputMintDecimals := 6
  oraclePriceInverted := false
  padding := 0

def integrationKey (config : IntegrationConfig) : Pubkey :=
  derived [INTEGRATION_SEED, controllerKey.bytes, config.hash.bytes] ID

def swapKey : Pubkey := integrationKey (.AtomicSwap swapConfig)

def initializeSwap : Instruction :=
  instruction 6
    [signing payer, plain controllerKey, plain authorityKey, signing operator,
      plain (permissionKey operator), plain swapKey, plain ID, plain SYSTEM_PROGRAM_ID,
      plain mintA, plain mintB, plain oracleKey]
    (Borsh.write (InitializeIntegrationArgs.mk .AtomicSwap .Active 0 100 1000 false
      (.AtomicSwap 100 50 1000000 false)))

/-- The state in which the examples swap. -/
def swapWorld (price : PullFeed) : World :=
  (genesis (accounts price)).play (setup ++ [.submit [initializeSwap] (by decide)])

theorem swapWorld_attained {price : PullFeed} : Attained (swapWorld price) :=
  genesis_play (accounts_unassociated price) _

/-- A run that leads to it, and calls no Repay. -/
theorem swapWorld_run {price : PullFeed} :
    ∃ w₀ steps, World.Genesis w₀ ∧ Run w₀ steps (swapWorld price) ∧
      ∀ s ∈ steps, ∀ tx accounts data, s.move ≠ .call tx accounts (16 :: data) := by
  obtain ⟨steps, hrun, hhistoric⟩ := genesis_run (accounts_unassociated price)
    (setup ++ [Happening.submit [initializeSwap] (by decide)])
  have hno : ∀ ix ∈ (setup ++ [Happening.submit [initializeSwap] (by decide)]).flatMap
      Happening.instructions, ix.data.head? ≠ some 16 := by decide +kernel
  refine ⟨_, steps, genesis_genesis (accounts_unassociated price), hrun, ?_⟩
  intro s hs tx accounts data hmove
  obtain ⟨ix, hix, -, hdata⟩ := (hhistoric s hs).calls _ _ _ hmove
  refine hno ix hix ?_
  rw [hdata]
  rfl

def borrow (amount : UInt64) : Instruction :=
  instruction 15
    [plain controllerKey, plain authorityKey, signing operator, plain (permissionKey operator),
      plain swapKey, plain (reserveKey mintA), plain (vaultKey mintA), plain mintA,
      plain (reserveKey mintB), plain (vaultKey mintB), plain traderA, plain traderB,
      plain TOKEN_PROGRAM_ID, plain INSTRUCTIONS_ID, plain ID]
    (Borsh.write (AtomicSwapBorrowArgs.mk amount))

def repay : Instruction :=
  instruction 16
    [signing trader, plain controllerKey, plain authorityKey, signing operator,
      plain (permissionKey operator), plain swapKey, plain (reserveKey mintA),
      plain (vaultKey mintA), plain mintA, plain (reserveKey mintB), plain (vaultKey mintB),
      plain mintB, plain oracleKey, plain traderA, plain traderB, plain TOKEN_PROGRAM_ID,
      plain TOKEN_PROGRAM_ID] []

/-- An instruction of the market. -/
def exchange : Instruction := ⟨market, [], []⟩

/-- What the Borrow of a swap sees of its transaction. -/
def swapContext (amount : UInt64) : TxContext :=
  ⟨[borrow amount, exchange, repay], ⟨0, (by decide : 0 < 3)⟩, (by decide : 3 < 2 ^ 16)⟩

/-- The state after the Borrow of a swap. -/
def lent (w : World) (amount : UInt64) : World :=
  (w.call (swapContext amount) (borrow amount).accounts (borrow amount).data).getD w

def borrowStep (w : World) (amount : UInt64) : Step World Move :=
  ⟨w, .call (swapContext amount) (borrow amount).accounts (borrow amount).data, lent w amount⟩

theorem borrowStep_moves {w : World} {amount : UInt64}
    (h : (w.call (swapContext amount) (borrow amount).accounts (borrow amount).data).isSome) :
    Moves w (borrowStep w amount).move (lent w amount) :=
  World.call_getD_moves h

theorem alone_length : 1 < 2 ^ 16 := by decide

/-- What an instruction sees that is a transaction by itself. -/
def alone (ix : Instruction) : TxContext := ⟨[ix], ⟨0, Nat.one_pos⟩, alone_length⟩

/-- The state after such an instruction. -/
def called (w : World) (ix : Instruction) : World :=
  (w.call (alone ix) ix.accounts ix.data).getD w

theorem called_moves {w : World} {ix : Instruction}
    (h : (w.call (alone ix) ix.accounts ix.data).isSome) :
    Moves w (.call (alone ix) ix.accounts ix.data) (called w ix) :=
  World.call_getD_moves h

/-- The only step of a run that calls once. -/
theorem called_mem {w w' : World} {s : Step World Move} {tx tx' : TxContext}
    {accounts accounts' : List AccountMeta} {data data' : List UInt8}
    (hs : s ∈ [⟨w, .call tx accounts data, w'⟩]) (h : s.move = .call tx' accounts' data') :
    s = ⟨w, .call tx' accounts' data', w'⟩ ∧ accounts' = accounts ∧ data' = data := by
  obtain rfl := List.mem_singleton.mp hs
  obtain ⟨rfl, rfl, rfl⟩ := Move.call.inj h
  exact ⟨rfl, rfl, rfl⟩

/-- The operator changes the limits of a reserve. -/
def manageReserve (mint : Pubkey) (slope maxOutflow : UInt64) : Instruction :=
  instruction 5
    [plain controllerKey, plain authorityKey, signing operator, plain (permissionKey operator),
      plain (reserveKey mint), plain ID]
    (Borsh.write (ManageReserveArgs.mk none (some slope) (some maxOutflow)))

/-- Borrow, let the market make these transfers, and repay. -/
def swap (w : World) (amount : UInt64) (transfers : List TransferChecked) : Transaction where
  topLevel :=
    [⟨borrow amount, []⟩, ⟨exchange, [.env ((lent w amount).transfers transfers)]⟩, ⟨repay, []⟩]
  length_lt := (by decide : 3 < 2 ^ 16)

theorem swap_env {w : World} {amount : UInt64} {transfers : List TransferChecked}
    (h : w.bank.WellFormed) :
    ∀ bank, .env bank ∈ (swap w amount transfers).moves → bank.WellFormed := by
  intro bank hmem
  obtain rfl : bank = (lent w amount).transfers transfers := by
    change _ ∈ [Move.call _ _ _, .env _, .call _ _ _] at hmem
    simpa using hmem
  exact World.transfers_wellFormed tokenLaws (World.call_wellFormed tokenLaws h) transfers

/-- **A swap that runs is a transaction that commits**, and what is computed of its steps and
    of the state they lead to holds of them. -/
theorem swap_commits_steps {price : PullFeed} {amount : UInt64} {transfers : List TransferChecked}
    {α : Type} (f : List (Step World Move) × World → α) {a : α}
    (h : ((swapWorld price).submit (swap (swapWorld price) amount transfers)).map f = some a) :
    ∃ steps w', Commits (swapWorld price) (swap (swapWorld price) amount transfers) steps w' ∧
      f (steps, w') = a := by
  obtain ⟨⟨steps, w'⟩, hrun, hf⟩ := Option.map_eq_some_iff.mp h
  exact ⟨steps, w', World.submit_commits hrun
    (swap_env (swapWorld_attained.reachable.wellFormed tokenLaws)), hf⟩

theorem swap_commits {price : PullFeed} {amount : UInt64} {transfers : List TransferChecked}
    {α : Type} (f : World → α) {a : α}
    (h : ((swapWorld price).submit (swap (swapWorld price) amount transfers)).map (f ·.2) =
      some a) :
    ∃ steps w', Commits (swapWorld price) (swap (swapWorld price) amount transfers) steps w' ∧
      f w' = a :=
  swap_commits_steps (f ·.2) h

/-- Its steps: the Borrow, the transfers, the Repay. -/
theorem swap_steps {w w' : World} {amount : UInt64} {transfers : List TransferChecked}
    {steps : List (Step World Move)} (h : Commits w (swap w amount transfers) steps w') :
    ∃ s between r tx tx', steps = [s, between, r] ∧
      s.move = .call tx (borrow amount).accounts (borrow amount).data ∧
      r.move = .call tx' repay.accounts repay.data := by
  have hmoves : steps.map Step.move = [_, _, _] := h.2
  obtain ⟨s, rest, rfl, hs, hrest⟩ := List.map_eq_cons_iff.mp hmoves
  obtain ⟨between, rest, rfl, -, hrest⟩ := List.map_eq_cons_iff.mp hrest
  obtain ⟨r, rfl, hr⟩ := List.map_eq_singleton_iff.mp hrest
  exact ⟨s, between, r, _, _, rfl, hs, hr⟩

/-- A swap calls its Borrow and its Repay, and nothing else of the program. -/
theorem swap_calls {w w' : World} {amount : UInt64} {transfers : List TransferChecked}
    {steps : List (Step World Move)} (h : Commits w (swap w amount transfers) steps w') :
    ∀ s ∈ steps, CallsOnly [borrow amount, repay] s := by
  intro s hs tx accounts data hmove
  have hmem : s.move ∈ (swap w amount transfers).moves := by
    rw [← h.2]
    exact List.mem_map_of_mem hs
  rw [hmove] at hmem
  change _ ∈ [Move.call _ _ _, .env _, .call _ _ _] at hmem
  simp only [List.mem_cons, List.not_mem_nil, or_false, reduceCtorEq, false_or,
    Move.call.injEq] at hmem
  rcases hmem with ⟨-, rfl, rfl⟩ | ⟨-, rfl, rfl⟩
  · exact ⟨borrow amount, by simp, rfl, rfl⟩
  · exact ⟨repay, by simp, rfl, rfl⟩

/-- The configuration of the integration at `k`. -/
def configAt (w : World) (k : Pubkey) : Option IntegrationConfig :=
  match w.keel k with
  | some (.integration i) => some i.config
  | _ => none

/-- The state of the swap of the examples, and what the trader has of the first token. -/
def swapStateOf (w : World) : Option AtomicSwapState × Nat :=
  (match w.keel swapKey with
    | some (.integration i) => i.state.atomicSwap?
    | _ => none,
    w.bank.tokenAmount traderA)

/-- What the events on a reserve add up to, and its recorded balance. -/
def ledgerAndBalance (k : Pubkey) (w : World) : Option (Int × Nat) :=
  match w.keel k with
  | some (.reserve r) => some (ledger k w.log, r.lastBalance.toNat)
  | _ => none

/-- One token of the second mint for one of the first. -/
def evenPrice : PullFeed := ⟨1000000000000000000, 100⟩

/-- The controller of the examples. -/
def exampleController (status : ControllerStatus) : Controller where
  id := 1
  bump := 255
  status := status
  authority := authorityKey
  authorityBump := 255
  padding := 0

/-- The oracle of the examples, once it is refreshed. -/
def swapOracle (price : PullFeed) : Oracle where
  version := 1
  authority := operator
  nonce := 1
  value := price.value
  precision := 18
  lastUpdateSlot := price.slot
  controller := controllerKey
  baseMint := mintA
  quoteMint := mintB
  reserved := 0
  feed := ⟨feed, 0, 0⟩

/-- The integration of the examples, before it swaps. -/
def swapIntegration : Integration where
  toRateLimit := .init ⟨100, 1000⟩ 100 1000
  controller := controllerKey
  description := 0
  hash := (IntegrationConfig.AtomicSwap swapConfig).hash
  status := .Active
  config := .AtomicSwap swapConfig
  state := .AtomicSwap ⟨0, 0, 0, 0, 0, 0⟩
  permitLiquidation := false
  padding := 0

/-- The reserve of the first mint, with the 500 tokens it was given. -/
def swapReserve : Reserve :=
  { Reserve.init ⟨100, 1000⟩ controllerKey mintA (vaultKey mintA) .Active 100 1000 with
    lastBalance := 500 }

theorem swapWorld_reserve : (swapWorld evenPrice).keel (reserveKey mintA) =
    some (.reserve swapReserve) := by decide +kernel

theorem swapWorld_controller : (swapWorld evenPrice).keel controllerKey =
    some (.controller (exampleController .Active)) := by decide +kernel

/-- The trader sells tokens A to the market for tokens B. -/
def sale (sold bought : UInt64) : List TransferChecked :=
  [transfer traderA marketA mintA trader sold, transfer marketB traderB mintB market bought]

end Simulator

end AlmController
