import AlmController.Simulator
import AlmController.Spec.Settled
import AlmController.Spec.Underflow

/-!
# The recorded balance and the vault

A vault's amount changes without the program, by donations, by a permanent delegate, by
rewards. So a reserve's recorded balance says what its vault held when an instruction last
looked, and what every instruction that records one ensures is that at its end it has looked:
whatever the vault held on entry, what is saved is what the vault holds.

Seven instructions record a balance, each in its own way: against the balance just synced,
against the vault read again, or from the arguments. One of them, Repay, adds to what it finds
and syncs nothing. It relies on the Borrow of its transaction, which synced; that nobody else
wrote the reserve since, which the lock sees to; and that the vault holds what the Borrow left
in it, which it checks.

`reserve_tracks_vault` is about all seven, at any position of a transaction that begins between
transactions, with any balance in the vault, and under the laws of the token programs alone.
Between two such instructions the record may be off by whatever happened to the vault, and
SyncReserve repairs this (`Resync`).
-/

namespace AlmController

open Prog

/-- Where the accounts of an instruction have the reserves whose balance it records. -/
def reserveIndices : UInt8 → List Nat
  | 4 => [5]
  | 8 => [2]
  | 9 => [4]
  | 10 => [5]
  | 11 => [5]
  | 15 => [5, 8]
  | 16 => [6, 9]
  | _ => []

/-- The integration that a SyncIntegration names is a Kamino position: one of Drift has nothing
    to do with a reserve. -/
def SyncsKamino (w : World) (accounts : List AccountMeta) : Prop :=
  ∃ k i cfg, accounts[3]?.map AccountMeta.pubkey = some k ∧
    w.keel k = some (.integration i) ∧ i.config = .Kamino cfg

/-- An instruction with this discriminator records the balance of the reserve at `k`. -/
structure Records (w : World) (discriminator : UInt8) (accounts : List AccountMeta) (k : Pubkey) :
    Prop where
  account : ∃ n ∈ reserveIndices discriminator, accounts[n]?.map AccountMeta.pubkey = some k
  kamino : discriminator = 9 → SyncsKamino w accounts

/-- The balance recorded at `k` is the amount of the vault. -/
def InSight (w : World) (k : Pubkey) : Prop :=
  ∃ r, w.keel k = some (.reserve r) ∧ w.bank.tokenAmount r.vault = r.lastBalance.toNat

variable [Chain]

variable {tx : TxContext} {accounts : List AccountMeta} {data : List UInt8} {w w' w₁ : World}
  {es : List LogEntry} {k : Pubkey} {r r' : Reserve}

section Saving

omit [Chain]

/-- Saved last. -/
theorem InSight.of_save (h : w₁.bank.tokenAmount r'.vault = r'.lastBalance.toNat) :
    InSight (w₁.setKeel k (.reserve r')) k :=
  ⟨r', World.setKeel_keel_self, h⟩

/-- Saved before the integration, which is at another address. -/
theorem InSight.setKeel {k' : Pubkey} {a : KeelAccount} (hne : k ≠ k') (h : InSight w k) :
    InSight (w.setKeel k' a) k := by
  obtain ⟨r, hkeel, hvault⟩ := h
  refine ⟨r, ?_, hvault⟩
  rw [World.setKeel_keel_of_ne hne]
  exact hkeel

end Saving

/-! ## One reserve -/

/-- A new reserve records what its vault holds, which may not be empty. -/
theorem InitializeReserveDone.inSight {ctx : InitializeReserveAccounts}
    (h : InitializeReserveDone ctx w w' es) : InSight w' ctx.reserve.pubkey := by
  cases h with
  | done hrun =>
    apply InSight.of_save
    rw [hrun.booked.vault_eq]
    exact hrun.tracked

/-- A sync records what it read. -/
theorem SyncReserveDone.inSight {ctx : SyncReserveAccounts} (h : SyncReserveDone ctx w w' es) :
    InSight w' ctx.reserve.pubkey := by
  cases h with
  | done _ _ _ _ hsync hamount =>
    apply InSight.of_save
    rw [hsync.booked.vault_eq, hsync.bank, hamount, hsync.lastBalance]

/-- A Push records what it read before, less what it sent. -/
theorem PushDone.inSight {ctx : PushAccounts} {args : PushArgs} (laws : TokenLaws)
    (h : PushDone tx ctx args w w' es) : InSight w' ctx.reserveA.pubkey := by
  cases h with
  | done _ hrun =>
    apply InSight.of_save
    rw [hrun.flow.reserve.vault_eq]
    exact hrun.tracked laws

/-- A Pull records what it read after the withdrawal. -/
theorem PullDone.inSight {ctx : PushAccounts} {args : PullArgs} (laws : TokenLaws)
    (h : PullDone ctx args w w' es) : InSight w' ctx.reserveA.pubkey := by
  cases h with
  | done _ hrun =>
    apply InSight.of_save
    rw [hrun.flow.reserve.vault_eq]
    exact hrun.tracked laws

/-- A sync of a Kamino position reads the vault before the harvest, and again when the rewards
    are in the reserve's mint; when they are not, they go to another account. -/
theorem SyncIntegrationDone.inSight {ctx : SyncIntegrationAccounts} {i : Integration}
    {cfg : KaminoConfig} (laws : TokenLaws) (hsound : Sound w)
    (hi : w.keel ctx.integration.pubkey = some (.integration i)) (hcfg : i.config = .Kamino cfg)
    (h : SyncIntegrationDone ctx w w' es) : InSight w' ctx.reserve.pubkey := by
  cases h with
  | kamino hparties hr hrun =>
    obtain ⟨-, c, hc, hvault⟩ := hsound.reserve hr.keel
    rw [hr.controller, hparties.controller.keel] at hc
    obtain rfl := KeelAccount.controller.inj (Option.some.inj hc)
    -- the vault is the associated account of the authority, in the mint of the reserve
    have hvault := hvault laws
    rw [hparties.controller.authority] at hvault
    have hne := World.key_ne hr.keel hparties.integration.keel KeelAccount.noConfusion
    apply InSight.setKeel hne
    apply InSight.of_save
    rw [hrun.flow.reserve.vault_eq]
    exact hrun.tracked laws hvault
  | drift hparties hrun =>
    -- the configuration is not Drift's
    have hprotocol := hrun.config
    rw [hparties.integration.keel] at hi
    obtain rfl := KeelAccount.integration.inj (Option.some.inj hi)
    rw [hcfg] at hprotocol
    cases hprotocol

/-! ## Two reserves -/

/-- A Borrow syncs both reserves, and takes what it lends from the first. -/
theorem BorrowDone.inSight {ctx : AtomicSwapBorrow} {amount : UInt64} (laws : TokenLaws)
    (hsound : Sound w) (h : BorrowDone tx ctx amount w w' es) :
    InSight w' ctx.reserveA.pubkey ∧ InSight w' ctx.reserveB.pubkey := by
  obtain ⟨c, p, i, iL, cfg, idle, lent, rA, rAL, rB, rBL, wL, hparties, hrun, -, hafter⟩ := h.parts
  have haccounts := hrun.swapAccounts hparties
  -- the two reserves are of two mints, so neither is saved over the other
  have hmint := haccounts.mint_ne hsound.distinct
  have hsaved : SwapSaved w w' ctx.controller.pubkey ctx.integration.pubkey ctx.reserveA.pubkey
      ctx.reserveB.pubkey { c with status := .AtomicSwapLock } iL rAL rBL := by
    rw [hafter]
    exact haccounts.saved_borrow hrun.grows.keel
  have hbank : w'.bank = wL.bank := by
    rw [hafter]
    rfl
  obtain ⟨_, hbookedA, -⟩ := hrun.reserveA
  obtain ⟨_, hbookedB, -⟩ := hrun.reserveB
  refine ⟨⟨rAL, hsaved.reserveA (haccounts.key_ne hmint), ?_⟩, ⟨rBL, hsaved.reserveB, ?_⟩⟩
  · rw [hbank, hbookedA.vault_eq]
    exact hrun.trackedA laws
  · rw [hbank, hbookedB.vault_eq]
    exact hrun.trackedB laws hmint

namespace SwapPair

variable {s r : Step World Move}

/-- **What a Repay adds to**, the Borrow left tracked; and what it adds is what the vaults
    gained. -/
theorem inSight (x : SwapPair tx s r) (laws : TokenLaws) (hr : Reachable r.before) :
    InSight r.after x.ctx'.reserveA.pubkey ∧ InSight r.after x.ctx'.reserveB.pubkey := by
  have hsaved := x.repaid_saved
  obtain ⟨_, hbookedA, -⟩ := x.repayRun.reserveA
  obtain ⟨_, hbookedB, -⟩ := x.repayRun.reserveB
  rw [x.reserveA_eq, x.reserveB_eq]
  refine ⟨⟨x.rAR, hsaved.reserveA x.key_ne, ?_⟩, ⟨x.rBR, hsaved.reserveB, ?_⟩⟩
  · calc r.after.bank.tokenAmount x.rAR.vault
      _ = r.after.bank.tokenAmount x.rA.vault := by rw [hbookedA.vault_eq, x.vaultA_eq]
      _ = s.after.bank.tokenAmount x.rA.vault + x.deltaA.toNat := by
        rw [x.vaultA_repaid laws hr, x.vaultA_kept laws]
      _ = x.rAL.lastBalance.toNat + x.deltaA.toNat := by
        rw [x.bank_lent, x.borrowRun.trackedA laws]
      _ = x.rAR.lastBalance.toNat := x.repayRun.lastA.symm
  · calc r.after.bank.tokenAmount x.rBR.vault
      _ = r.after.bank.tokenAmount x.rB.vault := by rw [hbookedB.vault_eq, x.vaultB_eq]
      _ = s.after.bank.tokenAmount x.rB.vault + x.deltaB.toNat := by
        rw [x.vaultB_repaid, x.vaultB_kept laws]
      _ = x.rBL.lastBalance.toNat + x.deltaB.toNat := by
        rw [x.bank_lent, x.borrowRun.trackedB laws x.mint_ne]
      _ = x.rBR.lastBalance.toNat := x.repayRun.lastB.symm

end SwapPair

/-! ## Any of the instructions -/

/-- **One instruction**, wherever in its transaction. Only a Repay depends on what came before. -/
theorem Moves.inSight (laws : TokenLaws) {t : Transaction} {steps : List (Step World Move)}
    {d : UInt8} {rest : List Move} {w₀ : World} (hw : Committed w₀) (htrace : Trace Moves w₀ steps w)
    (hmoves : t.moves = steps.map Step.move ++ .call tx accounts (d :: data) :: rest)
    (h : Moves w (.call tx accounts (d :: data)) w') (hk : Records w d accounts k) :
    InSight w' k := by
  -- by the discriminator: six of the seven need no more than the state they start in
  have hreachable := hw.reachable.trace htrace
  have hstep := h
  obtain ⟨n, hn, haccount⟩ := hk.account
  have hkamino := hk.kamino
  cases h with
  | call hsigners hrun =>
  unfold reserveIndices at hn
  split at hn
  case h_1 =>
    have hrun' : processInitializeReserve accounts data w = .ok ((), w') := hrun
    obtain ⟨ctx, es, hbind, hdone⟩ := processInitializeReserve_done hrun'
    obtain ⟨_, rfl⟩ := InitializeReserveAccounts.bind_eq hbind
    obtain rfl := List.mem_singleton.mp hn
    obtain rfl := Option.some.inj haccount
    exact hdone.inSight
  case h_2 =>
    have hrun' : processSyncReserve accounts w = .ok ((), w') := hrun
    obtain ⟨ctx, es, hbind, hdone⟩ := processSyncReserve_done hrun'
    obtain ⟨_, rfl⟩ := SyncReserveAccounts.bind_eq hbind
    obtain rfl := List.mem_singleton.mp hn
    obtain rfl := Option.some.inj haccount
    exact hdone.inSight
  case h_3 =>
    have hrun' : processSyncIntegration accounts w = .ok ((), w') := hrun
    obtain ⟨ctx, es, hbind, hdone⟩ := processSyncIntegration_done hrun'
    obtain ⟨ik, i, cfg, hik, hi, hcfg⟩ := hkamino rfl
    obtain rfl := SyncIntegrationAccounts.bind_eq hbind
    obtain rfl := List.mem_singleton.mp hn
    obtain rfl := Option.some.inj haccount
    obtain rfl := Option.some.inj hik
    exact hdone.inSight laws hreachable.sound hi hcfg
  case h_4 =>
    have hrun' : processPush tx accounts data w = .ok ((), w') := hrun
    obtain ⟨ctx, args, es, hbind, -, hdone⟩ := processPush_done hrun'
    obtain rfl := PushAccounts.bind_eq hbind
    obtain rfl := List.mem_singleton.mp hn
    obtain rfl := Option.some.inj haccount
    exact hdone.inSight laws
  case h_5 =>
    have hrun' : processPull accounts data w = .ok ((), w') := hrun
    obtain ⟨ctx, args, es, hbind, -, hdone⟩ := processPull_done hrun'
    obtain rfl := PushAccounts.bind_eq hbind
    obtain rfl := List.mem_singleton.mp hn
    obtain rfl := Option.some.inj haccount
    exact hdone.inSight laws
  case h_6 =>
    obtain ⟨ctx, amount, es, hbind, -, hdone⟩ := hstep.borrow
    obtain ⟨hA, hB⟩ := hdone.inSight laws hreachable.sound
    obtain ⟨_, rfl⟩ := AtomicSwapBorrow.bind_eq hbind
    simp only [List.mem_cons, List.not_mem_nil, or_false] at hn
    rcases hn with rfl | rfl
    · obtain rfl := Option.some.inj haccount
      exact hA
    · obtain rfl := Option.some.inj haccount
      exact hB
  case h_7 =>
    -- a Repay needs its Borrow, which the lock says is in the same transaction
    obtain ⟨_, s, ⟨x⟩⟩ := Moves.repay_pair hw htrace hmoves hstep
    obtain ⟨_, _, _, hmove, hbind⟩ := x.repayMove
    obtain ⟨-, rfl, -⟩ := Move.call.inj hmove
    obtain ⟨hA, hB⟩ := x.inSight laws hreachable
    obtain ⟨_, haccs⟩ := AtomicSwapRepay.bind_eq hbind
    rw [haccs] at haccount
    simp only [List.mem_cons, List.not_mem_nil, or_false] at hn
    rcases hn with rfl | rfl
    · obtain rfl := Option.some.inj haccount
      exact hA
    · obtain rfl := Option.some.inj haccount
      exact hB
  case h_8 => exact absurd hn List.not_mem_nil

/-- **A reserve never loses sight of its vault.** At the end of every instruction that records
    its balance, whatever the vault held on entry, the balance saved is the amount of the vault;
    and no such instruction stops at the subtraction from it. -/
theorem reserve_tracks_vault (laws : TokenLaws) :
    (∀ {w w' w'' : World} {t : Transaction} {steps : List (Step World Move)} {tx : TxContext}
      {accounts : List AccountMeta} {d : UInt8} {data : List UInt8} {rest : List Move}
      {k : Pubkey}, Committed w → Trace Moves w steps w' →
      t.moves = steps.map Step.move ++ .call tx accounts (d :: data) :: rest →
      Moves w' (.call tx accounts (d :: data)) w'' → Records w' d accounts k →
      ∃ r, w''.keel k = some (.reserve r) ∧ w''.bank.tokenAmount r.vault = r.lastBalance.toNat) ∧
    -- from any state, and whether it succeeds or not
    (∀ {w : World} {tx : TxContext} {accounts : List AccountMeta} {d : UInt8} {data : List UInt8},
      d ∈ ([4, 8, 9, 10, 11, 15, 16] : List UInt8) →
      processInstruction tx accounts (d :: data) w ≠ .error (.panic .lastBalanceSub)) := by
  refine ⟨?_, ?_⟩
  · intro w w' w'' t steps tx accounts d data rest k hw htrace hmoves h hk
    exact h.inSight laws hw htrace hmoves hk
  · intro w tx accounts d data hd
    exact processInstruction_safe laws hd w

end AlmController

namespace AlmController

open Simulator

/-- In the example swap the Repay adds to what it finds, and both balances are the vaults'. -/
theorem reserve_tracks_vault_example :
    ∃ (s between r : Step World Move) (w' : World),
      Commits (swapWorld evenPrice) (swap (swapWorld evenPrice) 100 (sale 60 60)) [s, between, r]
        w' ∧
      (∃ rA, w'.keel (reserveKey mintA) = some (.reserve rA) ∧
        w'.bank.tokenAmount rA.vault = rA.lastBalance.toNat) ∧
      (∃ rB, w'.keel (reserveKey mintB) = some (.reserve rB) ∧
        w'.bank.tokenAmount rB.vault = rB.lastBalance.toNat) ∧
      ∃ tx, processInstruction tx repay.accounts repay.data r.before ≠
        .error (.panic .lastBalanceSub) := by
  obtain ⟨steps, w', hcommits, -⟩ := @swap_commits_steps evenPrice 100 (sale 60 60) _
    (fun _ => true) true (by decide +kernel)
  obtain ⟨s, between, r, tx, tx', rfl, hs, hr⟩ := swap_steps hcommits
  obtain ⟨htracks, hsafe⟩ := @reserve_tracks_vault chain tokenLaws
  have hsplit : Trace Moves (swapWorld evenPrice) ([s, between] ++ r :: []) w' := hcommits.1
  obtain ⟨hbefore, hstep, -⟩ := hsplit.split_cons
  have hafter : r.after = w' := hsplit.eq_last
  rw [hr, hafter] at hstep
  have hmoves : (swap (swapWorld evenPrice) 100 (sale 60 60)).moves =
      [s, between].map Step.move ++ .call tx' repay.accounts repay.data :: [] := by
    rw [← hcommits.2, ← hr]
    rfl
  have hrecords : ∀ n ∈ [6, 9], ∀ k, repay.accounts[n]?.map AccountMeta.pubkey = some k →
      Records r.before 16 repay.accounts k := by
    intro n hn k hk
    exact ⟨⟨n, hn, hk⟩, fun h => absurd h (by decide)⟩
  refine ⟨s, between, r, w', hcommits, ?_, ?_, tx', hsafe (by decide)⟩
  · exact htracks swapWorld_attained.committed hbefore hmoves hstep (hrecords 6 (by decide) _ rfl)
  · exact htracks swapWorld_attained.committed hbefore hmoves hstep (hrecords 9 (by decide) _ rfl)

end AlmController
