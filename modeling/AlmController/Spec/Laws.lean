import AlmController.Transaction

/-!
# What the programs invoked promise

The program decides on what other programs did to token accounts, and some properties
need to know what they may do. `TokenLaws` lists it, one field for each kind of
invocation: which balances it may move, and which way. `LendingLaws` is about the
positions at klend and Drift: which way a deposit or a withdrawal may move their value,
and that a market is of one mint. They are documented behaviour of the programs invoked,
and hypotheses wherever they are used.

Nothing is said about fees, interest, rounding or who else's balances move.
-/

namespace AlmController

variable [Chain]

/-- The invocations that move no tokens: those that create, initialize or refresh. -/
def Cpi.isQuiet : Cpi → Bool
  | .transferChecked _ => false
  | .depositForBurn _ => false
  | .kaminoDeposit _ _ => false
  | .kaminoWithdraw _ _ => false
  | .harvestReward _ => false
  | .driftDeposit _ => false
  | .driftWithdraw _ _ => false
  | _ => true

/-- **What the programs invoked promise about token accounts.** -/
structure TokenLaws : Prop where
  /-- Only the associated token program creates accounts at associated addresses. -/
  wellFormed : ∀ {clock call signers} {bank bank' : Bank},
    Chain.invoke clock call signers bank = some bank' → bank.WellFormed → bank'.WellFormed
  /-- Creating, initializing and refreshing moves no tokens. -/
  quiet : ∀ {clock call signers} {bank bank' : Bank}, call.isQuiet = true →
    Chain.invoke clock call signers bank = some bank' →
      ∀ k, bank'.tokenAmount k = bank.tokenAmount k
  /-- `CreateIdempotent` only accepts the associated address. -/
  createIdempotent : ∀ {clock signers} {bank bank' : Bank} {ix : CreateIdempotent},
    Chain.invoke clock (.createIdempotent ix) signers bank = some bank' →
      associatedTokenAddress ix.wallet ix.tokenProgram ix.mint = some ix.account
  /-- A checked transfer is between accounts of the mint it names, and moves nothing
      else. -/
  transfer_mint : ∀ {clock signers} {bank bank' : Bank} {ix : TransferChecked},
    Chain.invoke clock (.transferChecked ix) signers bank = some bank' →
      ∃ source destination, bank.token? ix.fromAccount = some source ∧
        bank.token? ix.toAccount = some destination ∧ source.mint = ix.mint ∧
        destination.mint = ix.mint
  transfer_frame : ∀ {clock signers} {bank bank' : Bank} {ix : TransferChecked},
    Chain.invoke clock (.transferChecked ix) signers bank = some bank' →
      ∀ k, k ≠ ix.fromAccount → k ≠ ix.toAccount → bank'.tokenAmount k = bank.tokenAmount k
  /-- It debits the source by exactly the amount. -/
  transfer_debit : ∀ {clock signers} {bank bank' : Bank} {ix : TransferChecked},
    Chain.invoke clock (.transferChecked ix) signers bank = some bank' →
      ix.fromAccount ≠ ix.toAccount →
        bank'.tokenAmount ix.fromAccount + ix.amount.toNat = bank.tokenAmount ix.fromAccount
  /-- klend moves the depositor's account only down on a deposit, -/
  kaminoDeposit : ∀ {clock signers} {bank bank' : Bank} {accounts amount},
    Chain.invoke clock (.kaminoDeposit accounts amount) signers bank = some bank' →
      bank'.tokenAmount accounts.userLiquidity ≤ bank.tokenAmount accounts.userLiquidity
  /-- and only up on a withdrawal. -/
  kaminoWithdraw : ∀ {clock signers} {bank bank' : Bank} {accounts amount},
    Chain.invoke clock (.kaminoWithdraw accounts amount) signers bank = some bank' →
      bank.tokenAmount accounts.userLiquidity ≤ bank'.tokenAmount accounts.userLiquidity
  /-- A harvest takes nothing from the associated accounts of the owner of the deposit, -/
  harvest_owner : ∀ {clock signers} {bank bank' : Bank} {ix : HarvestReward},
    Chain.invoke clock (.harvestReward ix) signers bank = some bank' →
      ∀ tokenProgram mint k, associatedTokenAddress ix.owner tokenProgram mint = some k →
        bank.tokenAmount k ≤ bank'.tokenAmount k
  /-- and moves the reward mint only, which no associated account of another mint holds. -/
  harvest_mint : ∀ {clock signers} {bank bank' : Bank} {ix : HarvestReward},
    Chain.invoke clock (.harvestReward ix) signers bank = some bank' →
      ∀ wallet tokenProgram mint k, associatedTokenAddress wallet tokenProgram mint = some k →
        mint ≠ ix.rewardMint → bank'.tokenAmount k = bank.tokenAmount k
  /-- Drift moves the user's account only up on a withdrawal. -/
  driftWithdraw : ∀ {clock signers} {bank bank' : Bank} {ix : DriftTransfer} {driftSigner},
    Chain.invoke clock (.driftWithdraw ix driftSigner) signers bank = some bank' →
      bank.tokenAmount ix.userTokenAccount ≤ bank'.tokenAmount ix.userTokenAccount

/-! ## Lending positions -/

/-- What a user has in a Drift market, as the program reads it. -/
def driftValue (spotMarket user : Pubkey) : Ix UInt64 := do
  let spotMarketState ← readData spotMarket ExtData.spotMarket?
  getDriftLendingBalance spotMarketState user

/-- Drift's markets and their vaults are of these mints. -/
structure Bank.MarketsOf (marketMint : UInt16 → Pubkey) (bank : Bank) : Prop where
  market : ∀ {index k market},
    deriveAddress (driftSpotMarketSeeds index) DRIFT_PROGRAM_ID = .ok k →
      (bank k).data.spotMarket? = some market → market.mint = marketMint index
  vault : ∀ {index k t},
    deriveAddress (driftSpotMarketVaultSeeds index) DRIFT_PROGRAM_ID = .ok k →
      bank.token? k = some t → t.mint = marketMint index

/-- **What klend and Drift promise about a position**, with the mints of Drift's markets. -/
structure LendingLaws (marketMint : UInt16 → Pubkey) : Prop where
  /-- A market, and its vault, keep their mint. -/
  markets : ∀ {clock call signers} {bank bank' : Bank},
    Chain.invoke clock call signers bank = some bank' → bank.MarketsOf marketMint →
      bank'.MarketsOf marketMint
  /-- Drift moves tokens between accounts of one mint, on a deposit -/
  driftDeposit_mint : ∀ {clock signers} {bank bank' : Bank} {ix : DriftTransfer} {t vault},
    Chain.invoke clock (.driftDeposit ix) signers bank = some bank' →
      bank'.token? ix.userTokenAccount = some t → bank'.token? ix.spotMarketVault = some vault →
        t.mint = vault.mint
  /-- and on a withdrawal. -/
  driftWithdraw_mint : ∀ {clock signers} {bank bank' : Bank} {ix : DriftTransfer} {driftSigner t vault},
    Chain.invoke clock (.driftWithdraw ix driftSigner) signers bank = some bank' →
      bank'.token? ix.userTokenAccount = some t → bank'.token? ix.spotMarketVault = some vault →
        t.mint = vault.mint
  /-- A withdrawal from Drift does not raise the value of the position. -/
  driftWithdraw_value : ∀ {signers} {w : World} {bank : Bank} {ix : DriftTransfer}
      {driftSigner spotMarket value value'},
    Chain.invoke w.clock (.driftWithdraw ix driftSigner) signers w.bank = some bank →
      deriveAddress (driftSpotMarketSeeds ix.marketIndex) DRIFT_PROGRAM_ID = .ok spotMarket →
      driftValue spotMarket ix.user w = .ok (value, w) →
      driftValue spotMarket ix.user (w.setBank bank) = .ok (value', w.setBank bank) →
        value' ≤ value
  /-- A deposit at klend does not lower the value of the position, -/
  kaminoDeposit_value : ∀ {signers} {w : World} {bank : Bank} {accounts amount value value'},
    Chain.invoke w.clock (.kaminoDeposit accounts amount) signers w.bank = some bank →
      getKaminoLendingBalance accounts.kaminoReserve accounts.obligation w = .ok (value, w) →
      getKaminoLendingBalance accounts.kaminoReserve accounts.obligation (w.setBank bank) =
        .ok (value', w.setBank bank) → value ≤ value'
  /-- and a withdrawal does not raise it. -/
  kaminoWithdraw_value : ∀ {signers} {w : World} {bank : Bank} {accounts amount value value'},
    Chain.invoke w.clock (.kaminoWithdraw accounts amount) signers w.bank = some bank →
      getKaminoLendingBalance accounts.kaminoReserve accounts.obligation w = .ok (value, w) →
      getKaminoLendingBalance accounts.kaminoReserve accounts.obligation (w.setBank bank) =
        .ok (value', w.setBank bank) → value' ≤ value

end AlmController
