import AlmController.Simulator
import AlmController.Spec.Enabled
import AlmController.Spec.Ideal

/-!
# A reserve can always be brought in line

Tokens get into a vault, and out of it, without the program: somebody donates, a delegate of the
mint takes. SyncReserve is how the reserve hears of it. Anybody may call it, and nothing that has
happened to the vault or to the limiter can make it fail: not an amount that left nothing
available, not a time that nobody refreshed for, not a balance at the edge of 64 bits. It fails
while the controller is Frozen, or inside an atomic swap, and that is all.

Once it has succeeded there is nothing left to do: the same call again changes nothing at all.

`resync_enabled_iff` has two halves. The first is exact: there is a state that the call leads to if
and only if the controller is neither Frozen nor locked. The second says what every such state is
like. It supposes that the vault is an account that the program can read, that the controller's
authority account is untouched (`AuthorityFree`), as the event needs its signature, and that the
clock did not go back. It covers the reserves; integrations are synced by SyncIntegration, which
asks other programs, and those may fail.
-/

namespace AlmController

open Prog

variable [Chain]

variable {tx : TxContext} {w w' : World} {k : Pubkey} {r r' : Reserve} {c : Controller}
  {t : TokenAccount} {clock : Clock} {l : RateLimit} {n : UInt64}

/-! ## The bookkeeping cannot fail -/

section Bookkeeping

omit [Chain]

/-- Up to date, a limiter takes every inflow. -/
theorem RateLimit.inflow_of_isRefreshed (h : l.IsRefreshed clock) :
    ∃ l', l.inflow clock n = .ok l' := by
  refine ⟨{ l with
    rateLimitOutflowAmountAvailable :=
      min l.rateLimitMaxOutflow (l.rateLimitOutflowAmountAvailable.saturatingAdd n) }, ?_⟩
  simp only [inflow, except_bind_ok, check_ok, not_not]
  exact ⟨(), h, rfl⟩

/-- And every outflow that may leave less than nothing. -/
theorem RateLimit.outflow_of_isRefreshed (h : l.IsRefreshed clock) :
    ∃ l', l.outflow clock n true = .ok l' := by
  refine ⟨{ l with
    rateLimitOutflowAmountAvailable := l.rateLimitOutflowAmountAvailable.saturatingSub n }, ?_⟩
  simp only [outflow, except_bind_ok, check_ok, not_not, if_true]
  exact ⟨(), h, rfl⟩

/-- What is up to date stays so: flows do not touch the time. -/
theorem RateLimit.Steps.isRefreshed {flows : List Flow} (h : l.IsRefreshed clock) {l' : RateLimit}
    (hsteps : RateLimit.Steps clock l flows l') : l'.IsRefreshed clock := by
  induction hsteps with
  | nil => exact h
  | refresh _ hrefresh => exact refreshRateLimit_isRefreshed hrefresh
  | inflow _ hinflow ih =>
    rw [(inflow_ok hinflow).2]
    exact ih
  | outflow _ houtflow ih =>
    rw [outflow_eq houtflow]
    exact ih

/-- The reserve as a sync leaves it: up to date, with the amount of its vault. -/
def Reserve.SyncedTo (clock : Clock) (amount : UInt64) (r r' : Reserve) : Prop :=
  ∃ l, l.IsRefreshed clock ∧ r' = { r with toRateLimit := l, lastBalance := amount }

/-- The difference to a larger amount can be added. -/
theorem Reserve.inflow_succeeds {amount : UInt64} (h : r.toRateLimit.IsRefreshed clock)
    (hlt : r.lastBalance < amount) :
    ∃ r', r.updateForInflow clock (amount.absDiff r.lastBalance) = .ok r' ∧
      r.SyncedTo clock amount r' := by
  obtain ⟨l, hl⟩ := RateLimit.inflow_of_isRefreshed (n := amount.absDiff r.lastBalance) h
  -- the sum is the amount of the vault, which is a 64-bit number
  have hsum : r.lastBalance.checkedAdd (amount.absDiff r.lastBalance) = some amount := by
    have hlt' := UInt64.lt_iff_toNat_lt.mp hlt
    rw [UInt64.checkedAdd_eq_some, UInt64.toNat_absDiff]
    omega
  refine ⟨{ r with toRateLimit := l, lastBalance := amount }, ?_, l, ?_, rfl⟩
  · rw [updateForInflow, hl, hsum]
    rfl
  · exact RateLimit.Steps.isRefreshed h (.inflow .nil hl)

/-- The difference to a smaller one can be taken away. -/
theorem Reserve.outflow_succeeds {amount : UInt64} (h : r.toRateLimit.IsRefreshed clock)
    (hlt : amount < r.lastBalance) :
    ∃ r', r.updateForOutflow clock (amount.absDiff r.lastBalance) true = .ok r' ∧
      r.SyncedTo clock amount r' := by
  obtain ⟨l, hl⟩ := RateLimit.outflow_of_isRefreshed (n := amount.absDiff r.lastBalance) h
  have hsub : r.lastBalance.checkedSub (amount.absDiff r.lastBalance) = some amount := by
    have hlt' := UInt64.lt_iff_toNat_lt.mp hlt
    rw [UInt64.checkedSub_eq_some, UInt64.toNat_absDiff]
    omega
  refine ⟨{ r with toRateLimit := l, lastBalance := amount }, ?_, l, ?_, rfl⟩
  · rw [updateForOutflow, hl, hsub]
    rfl
  · exact RateLimit.Steps.isRefreshed h (.outflow .nil hl)

end Bookkeeping

/-! ## Syncing -/

/-- The vault is an account of a token program, as long as its accounts are, and holds this. -/
structure VaultHolds (w : World) (vault : Pubkey) (t : TokenAccount) : Prop where
  elsewhere : w.keel vault = none
  token : w.bank.token? vault = some t
  program : w.owner vault = TOKEN_2022_PROGRAM_ID ∨ w.owner vault = TOKEN_PROGRAM_ID
  base : TokenAccount.BASE_LEN ≤ t.dataLen
  length : if w.owner vault = TOKEN_PROGRAM_ID then t.dataLen = TokenAccount.BASE_LEN
    else t.dataLen ≠ MULTISIG_ACCOUNT_LENGTH

omit [Chain] in
/-- It can be read. -/
theorem VaultHolds.read {vault : Pubkey} (h : VaultHolds w vault t) :
    TokenAccount.fromAccountInfo vault w = .ok (t, w) := by
  have hprogram : ¬ (w.owner vault ≠ TOKEN_2022_PROGRAM_ID ∧ w.owner vault ≠ TOKEN_PROGRAM_ID) := by
    intro hnot
    rcases h.program with hprogram | hprogram
    · exact hnot.1 hprogram
    · exact hnot.2 hprogram
  have hlength : ¬ (if w.owner vault = TOKEN_PROGRAM_ID then t.dataLen ≠ TokenAccount.BASE_LEN
      else t.dataLen = MULTISIG_ACCOUNT_LENGTH) := by
    have hlength := h.length
    by_cases howner : w.owner vault = TOKEN_PROGRAM_ID
    · rw [if_pos howner] at hlength ⊢
      exact not_not.mpr hlength
    · rw [if_neg howner] at hlength ⊢
      exact hlength
  simp only [TokenAccount.fromAccountInfo, bind_ok, read_ok, readData_ok, rejectIf_ok, pure_ok, id]
  exact ⟨w, w, ⟨rfl, rfl⟩, (), w, ⟨hprogram, rfl⟩, t, w, ⟨h.elsewhere, h.token, rfl⟩, (), w,
    ⟨not_lt.mpr h.base, rfl⟩, (), w, ⟨hlength, rfl⟩, rfl, rfl⟩

omit [Chain] in
/-- It is in the bank, so what is saved elsewhere does not touch it. -/
theorem VaultHolds.setKeel {vault : Pubkey} {a old : KeelAccount} (h : VaultHolds w vault t)
    (hk : w.keel k = some old) : VaultHolds (w.setKeel k a) vault t := by
  have hne : vault ≠ k := by
    intro heq
    have hnone := h.elsewhere
    rw [heq, hk] at hnone
    cases hnone
  have hkeel : (w.setKeel k a).keel vault = w.keel vault := World.setKeel_keel_of_ne hne
  have howner : (w.setKeel k a).owner vault = w.owner vault := by
    unfold World.owner
    rw [hkeel]
    rfl
  -- the owner of an account in the bank is what the bank says
  refine ⟨hkeel.trans h.elsewhere, h.token, ?_, h.base, ?_⟩
  · rw [howner]
    exact h.program
  · rw [howner]
    exact h.length

/-- The accounts of a SyncReserve, signed by nobody. -/
def syncAccounts (k : Pubkey) (r : Reserve) (c : Controller) : List AccountMeta :=
  [⟨r.controller, false, false⟩, ⟨c.authority, false, false⟩, ⟨k, false, true⟩,
    ⟨r.vault, false, false⟩]

omit [Chain] in
/-- These accounts pass the checks of the source, which asks for no signature. -/
theorem syncAccounts_hold (hr : w.keel k = some (.reserve r))
    (hc : w.keel r.controller = some (.controller c)) (hfree : c.AuthorityFree w) :
    AccountsHold SyncReserveAccounts.specs (syncAccounts k r c) w := by
  apply AccountsHold.of_admits
  refine .cons (.own hc fun _ hattr => absurd hattr List.not_mem_nil) (.cons ?_
    (.cons (.own hr (List.forall_mem_singleton.mpr rfl)) (.cons ?_ .nil)))
  · exact .system hfree.owner (List.forall_mem_singleton.mpr hfree.empty)
  · exact ⟨fun _ hattr => absurd hattr List.not_mem_nil,
      fun _ hkeys => (Option.some_ne_none _ hkeys.symm).elim,
      fun _ howners => (Option.some_ne_none _ howners.symm).elim⟩

/-- So anybody can send them. -/
theorem syncAccounts_signers : SignersPresent (syncAccounts k r c) := by
  intro a ha hsigner
  simp only [syncAccounts, List.mem_cons, List.not_mem_nil, or_false] at ha
  rcases ha with rfl | rfl | rfl | rfl
  all_goals cases hsigner

/-- Only the log grew. -/
def OnlyLogged (w w' : World) : Prop :=
  ∃ es, w' = { w with log := w.log ++ es }

omit [Chain] in
/-- Nothing at all is also only that. -/
theorem OnlyLogged.refl : OnlyLogged w w :=
  ⟨[], by rw [List.append_nil]⟩

omit [Chain] in
/-- And one more entry is. -/
theorem OnlyLogged.addLog {e : LogEntry} (h : OnlyLogged w w') : OnlyLogged w (w'.addLog e) := by
  obtain ⟨es, rfl⟩ := h
  refine ⟨es ++ [e], ?_⟩
  rw [← List.append_assoc]
  rfl

/-- **`sync_balance` succeeds**, whatever the vault holds. -/
theorem Reserve.syncBalance_succeeds (hlimiter : r.toRateLimit.Refreshable w.clock)
    (hplaced : pdaOf r.seeds = some k) (hcontroller : pdaOf c.seeds = some r.controller)
    (hderived : Controller.deriveAuthority r.controller = .ok (c.authority, c.authorityBump))
    (hfree : c.AuthorityFree w) (hvault : VaultHolds w r.vault t) {vault : AccountMeta}
    (hkey : vault.pubkey = r.vault) :
    ∃ r' w', r.syncBalance vault c.authority r.controller c w = .ok (r', w') ∧
      r.SyncedTo w.clock t.amount r' ∧ OnlyLogged w w' := by
  obtain ⟨l, hl, -, -⟩ := RateLimit.refresh_valid hlimiter.1 hlimiter.2
  have hrefreshed : l.IsRefreshed w.clock := RateLimit.refreshRateLimit_isRefreshed hl
  -- the accounts are the right ones, the limiter is refreshed, and the vault is read
  have hnamed : rejectIf (vault.pubkey ≠ r.vault) (.program .InvalidAccountData : Error) w =
      .ok ((), w) := rejectIf_of_not (not_not.mpr hkey)
  have hown : rejectIf (r.controller ≠ r.controller)
      (SvmAlmControllerErrors.ControllerDoesNotMatchAccountData : Error) w = .ok ((), w) :=
    rejectIf_of_not (not_not.mpr rfl)
  have hclock : (read World.clock : Ix Clock) w = .ok (w.clock, w) := rfl
  have hrefresh : (ofExcept (r.refreshRateLimit w.clock) : Ix Reserve) w =
      .ok ({ r with toRateLimit := l }, w) := by
    rw [Reserve.refreshRateLimit, hl]
    rfl
  have hread : TokenAccount.fromAccountInfo vault.pubkey w = .ok (t, w) := by
    rw [hkey]
    exact hvault.read
  -- the reserve's own address can be found, and the controller can emit an event
  obtain ⟨⟨k', bump⟩, hfind, -⟩ := Option.map_eq_some_iff.mp hplaced
  have hfound : (ofExcept (findAddress r.seeds ID) : Ix (Pubkey × UInt8)) w =
      .ok ((k', bump), w) := ofExcept_of_ok (okOr_ok.mpr hfind)
  have hemit : ∀ id d m e, emitEvent c c.authority r.controller e (w.addLog (.flow id d m)) =
      .ok ((), (w.addLog (.flow id d m)).addLog (.event e)) := by
    intro id d m e
    exact emitEvent_of_anchored hcontroller hderived ⟨hfree.empty, hfree.owner⟩
  rw [syncBalance, bind_of_ok hnamed, bind_of_ok hown, bind_of_ok hclock, bind_of_ok hrefresh,
    bind_of_ok hread]
  by_cases heq : r.lastBalance = t.amount
  · -- there is nothing to book
    rw [if_pos heq]
    refine ⟨{ r with toRateLimit := l }, w, rfl, ⟨l, hrefreshed, ?_⟩, .refl⟩
    rw [← heq]
  rw [if_neg heq, bind_of_ok hfound]
  dsimp only
  by_cases hlt : r.lastBalance < t.amount
  -- an inflow
  · obtain ⟨r', hflow, hsynced⟩ :=
      Reserve.inflow_succeeds (r := { r with toRateLimit := l }) hrefreshed hlt
    rw [if_pos hlt, bind_of_ok (recordInflow_ok.mpr ⟨hflow, rfl⟩), bind_of_ok (hemit _ _ _ _)]
    exact ⟨r', _, rfl, hsynced, OnlyLogged.refl.addLog.addLog⟩
  -- an outflow that somebody else made, which may leave nothing available
  · have hgt : t.amount < r.lastBalance := UInt64.lt_of_le_of_ne (UInt64.not_lt.mp hlt) (Ne.symm heq)
    obtain ⟨r', hflow, hsynced⟩ :=
      Reserve.outflow_succeeds (r := { r with toRateLimit := l }) hrefreshed hgt
    rw [if_neg hlt, bind_of_ok (recordOutflow_ok.mpr ⟨hflow, rfl⟩), bind_of_ok (hemit _ _ _ _)]
    exact ⟨r', _, rfl, hsynced, OnlyLogged.refl.addLog.addLog⟩

/-- A reserve that is up to date with its vault stays as it is, and nothing is logged. -/
theorem Reserve.syncBalance_settled (hrefreshed : r.toRateLimit.IsRefreshed w.clock)
    (hbalance : r.lastBalance = t.amount) (hvault : VaultHolds w r.vault t) {vault : AccountMeta}
    (hkey : vault.pubkey = r.vault) :
    r.syncBalance vault c.authority r.controller c w = .ok (r, w) := by
  have hrefresh : r.refreshRateLimit w.clock = .ok r := by
    rw [Reserve.refreshRateLimit, RateLimit.refresh_of_isRefreshed hrefreshed]
    rfl
  have hclock : (read World.clock : Ix Clock) w = .ok (w.clock, w) := rfl
  have hread : TokenAccount.fromAccountInfo vault.pubkey w = .ok (t, w) := by
    rw [hkey]
    exact hvault.read
  rw [syncBalance, bind_of_ok (rejectIf_of_not (not_not.mpr hkey)),
    bind_of_ok (rejectIf_of_not (not_not.mpr rfl)), bind_of_ok hclock,
    bind_of_ok (ofExcept_of_ok hrefresh), bind_of_ok hread, if_pos hbalance]
  rfl

/-- SyncReserve succeeds when its sync does. -/
theorem processSyncReserve_of_sync (hr : w.keel k = some (.reserve r))
    (hc : w.keel r.controller = some (.controller c)) (hplaced : pdaOf r.seeds = some k)
    (hcontroller : pdaOf c.seeds = some r.controller) (hfree : c.AuthorityFree w)
    (hfrozen : ¬ c.isFrozen) (hlocked : ¬ c.isAtomicSwapLocked)
    (hsync : r.syncBalance ⟨r.vault, false, false⟩ c.authority r.controller c w = .ok (r', w'))
    (hkeel : w'.keel = w.keel) :
    processSyncReserve (syncAccounts k r c) w = .ok ((), w'.setKeel k (.reserve r')) := by
  have hbind : fromAccounts SyncReserveAccounts.specs SyncReserveAccounts.bind
      (syncAccounts k r c) w = .ok (⟨⟨r.controller, false, false⟩, ⟨c.authority, false, false⟩,
        ⟨k, false, true⟩, ⟨r.vault, false, false⟩⟩, w) :=
    fromAccounts_ok.mpr ⟨syncAccounts_hold hr hc hfree, rfl, rfl⟩
  have hload : Controller.loadAndCheck ⟨r.controller, false, false⟩ c.authority w = .ok (c, w) :=
    Controller.loadAndCheck_ok.mpr ⟨hc, hcontroller, rfl, rfl⟩
  have hhalted : c.rejectHalted w = .ok ((), w) :=
    Controller.rejectHalted_ok.mpr ⟨hfrozen, hlocked, rfl⟩
  have hreserve : Reserve.loadAndCheck ⟨k, false, true⟩ r.controller w = .ok (r, w) :=
    Reserve.loadAndCheck_ok.mpr ⟨hr, rfl, hplaced, rfl⟩
  -- the sync changes no account, so the reserve is saved over what was loaded
  have hold : w'.keel k = some (.reserve r) := by
    rw [hkeel]
    exact hr
  rw [processSyncReserve, bind_of_ok hbind, bind_of_ok hload, bind_of_ok hhalted,
    bind_of_ok hreserve, bind_of_ok hsync]
  exact save_ok.mpr ⟨⟨_, hold, rfl⟩, rfl, rfl⟩

/-- Where there is nothing to do, it does nothing. -/
theorem processSyncReserve_settled (hr : w.keel k = some (.reserve r))
    (hc : w.keel r.controller = some (.controller c)) (hplaced : pdaOf r.seeds = some k)
    (hcontroller : pdaOf c.seeds = some r.controller) (hfree : c.AuthorityFree w)
    (hfrozen : ¬ c.isFrozen) (hlocked : ¬ c.isAtomicSwapLocked) (hvault : VaultHolds w r.vault t)
    (hrefreshed : r.toRateLimit.IsRefreshed w.clock) (hbalance : r.lastBalance = t.amount) :
    processSyncReserve (syncAccounts k r c) w = .ok ((), w) := by
  have hsync : r.syncBalance ⟨r.vault, false, false⟩ c.authority r.controller c w = .ok (r, w) :=
    Reserve.syncBalance_settled hrefreshed hbalance hvault rfl
  have hrun := processSyncReserve_of_sync hr hc hplaced hcontroller hfree hfrozen hlocked hsync rfl
  rw [World.setKeel_eq_self hr] at hrun
  exact hrun

/-- SyncReserve succeeds on a running controller, and once more with no effect. -/
theorem processSyncReserve_succeeds (hw : ReachableForward w) (hr : w.keel k = some (.reserve r))
    (hc : w.keel r.controller = some (.controller c)) (hfree : c.AuthorityFree w)
    (hvault : VaultHolds w r.vault t) (hfrozen : ¬ c.isFrozen) (hlocked : ¬ c.isAtomicSwapLocked) :
    ∃ r' w', processSyncReserve (syncAccounts k r c) w = .ok ((), w') ∧
      processSyncReserve (syncAccounts k r c) w' = .ok ((), w') ∧
      r.SyncedTo w.clock t.amount r' ∧ w'.bank = w.bank ∧
      w'.keel = Function.update w.keel k (some (.reserve r')) := by
  have hplaced : pdaOf r.seeds = some k := hw.reachable.accounted.placed k _ hr
  have hcontroller : pdaOf c.seeds = some r.controller := hw.reachable.accounted.placed _ _ hc
  have hlimiter := hw.limited.fit k _ (limiterOf_reserve hr)
  -- in a state that was reached, accounts are in their places and limiters can be refreshed
  obtain ⟨r', w₁, hsync, hsynced, es, rfl⟩ := Reserve.syncBalance_succeeds hlimiter hplaced
    hcontroller (hw.reachable.anchored hc) hfree hvault
    (show (⟨r.vault, false, false⟩ : AccountMeta).pubkey = r.vault from rfl)
  refine ⟨r', _, processSyncReserve_of_sync hr hc hplaced hcontroller hfree hfrozen hlocked hsync rfl,
    ?_, hsynced, rfl, rfl⟩
  obtain ⟨l, hrefreshed, rfl⟩ := hsynced
  -- the second time everything is where the first one left it
  have hne : r.controller ≠ k := World.key_ne hc hr KeelAccount.noConfusion
  have hfree' : c.AuthorityFree (World.setKeel { w with log := w.log ++ es } k
      (.reserve { r with toRateLimit := l, lastBalance := t.amount })) :=
    Controller.AuthorityFree.setKeel (w := { w with log := w.log ++ es })
      ⟨hfree.empty, hfree.owner⟩ hr
  have hvault' : VaultHolds (World.setKeel { w with log := w.log ++ es } k
      (.reserve { r with toRateLimit := l, lastBalance := t.amount })) r.vault t :=
    VaultHolds.setKeel (w := { w with log := w.log ++ es })
      ⟨hvault.elsewhere, hvault.token, hvault.program, hvault.base, hvault.length⟩ hr
  exact processSyncReserve_settled (r := { r with toRateLimit := l, lastBalance := t.amount })
    World.setKeel_keel_self ((World.setKeel_keel_of_ne hne).trans hc) hplaced hcontroller hfree'
    hfrozen hlocked hvault' hrefreshed rfl

/-- A SyncReserve that succeeded was one of a running controller. -/
theorem processSyncReserve_running (hc : w.keel r.controller = some (.controller c))
    (h : processSyncReserve (syncAccounts k r c) w = .ok ((), w')) :
    ¬ c.isFrozen ∧ ¬ c.isAtomicSwapLocked := by
  simp only [processSyncReserve, bind_ok, fromAccounts_ok, Controller.loadAndCheck_ok,
    Controller.rejectHalted_ok] at h
  -- the frozen and the locked are turned away before anything is synced
  obtain ⟨ctx, _, ⟨-, hbind, rfl⟩, c', _, ⟨hc', -, -, rfl⟩, _, _, ⟨hfrozen, hlocked, -⟩, -⟩ := h
  obtain rfl := Option.some.inj hbind
  -- the controller that was checked is the one at this address
  rw [hc] at hc'
  obtain rfl := KeelAccount.controller.inj (Option.some.inj hc')
  exact ⟨hfrozen, hlocked⟩

/-- **Anybody can bring a reserve in line, at any time.** In every state that a run under a clock
    that does not go back leads to, SyncReserve succeeds if and only if the controller is neither
    Frozen nor inside an atomic swap. And whenever it does, it leaves the reserve up to date and
    with the amount of its vault, changes no other account and moves nothing; and the same call
    again changes nothing. -/
theorem resync_enabled_iff (hw : ReachableForward w) (hr : w.keel k = some (.reserve r))
    (hc : w.keel r.controller = some (.controller c)) (hfree : c.AuthorityFree w)
    (hvault : VaultHolds w r.vault t) :
    ((∃ w', Moves w (.call tx (syncAccounts k r c) [8]) w') ↔
      ¬ c.isFrozen ∧ ¬ c.isAtomicSwapLocked) ∧
    ∀ w', Moves w (.call tx (syncAccounts k r c) [8]) w' →
      (∃ r', r.SyncedTo w.clock t.amount r' ∧
        w'.keel = Function.update w.keel k (some (.reserve r'))) ∧
      w'.bank = w.bank ∧ Moves w' (.call tx (syncAccounts k r c) [8]) w' := by
  have hran : ∀ {w'}, Moves w (.call tx (syncAccounts k r c) [8]) w' →
      processSyncReserve (syncAccounts k r c) w = .ok ((), w') := by
    intro w' hmove
    cases hmove with
    | call _ hrun => exact hrun
  refine ⟨⟨?_, ?_⟩, ?_⟩
  · intro hmoves
    obtain ⟨w', hmove⟩ := hmoves
    exact processSyncReserve_running hc (hran hmove)
  · intro hrunning
    obtain ⟨r', w', hrun, -⟩ :=
      processSyncReserve_succeeds hw hr hc hfree hvault hrunning.1 hrunning.2
    exact ⟨w', .call syncAccounts_signers hrun⟩
  · intro w' hmove
    have hrunning := processSyncReserve_running hc (hran hmove)
    obtain ⟨r', w₁, hrun, hagain, hsynced, hbank, hkeel⟩ :=
      processSyncReserve_succeeds hw hr hc hfree hvault hrunning.1 hrunning.2
    -- there is one state that the call leads to
    rw [hran hmove] at hrun
    obtain rfl : w' = w₁ := (Prod.mk.inj (Except.ok.inj hrun)).2
    exact ⟨⟨r', hsynced, hkeel⟩, hbank, .call syncAccounts_signers hagain⟩

end AlmController

namespace AlmController

open Simulator

/-- The state of the example, after somebody gave the first reserve seven tokens. -/
def donatedWorld : World :=
  (genesis (accounts evenPrice)).play
    (setup ++ [.transfer (transfer traderA (vaultKey mintA) mintA trader 7)])

theorem donatedWorld_attained : Attained donatedWorld :=
  genesis_play (accounts_unassociated evenPrice) _

theorem donatedWorld_vault : VaultHolds donatedWorld swapReserve.vault
    ⟨mintA, (exampleController .Active).authority, 507, 165⟩ :=
  ⟨by decide +kernel, by decide +kernel, by decide +kernel, le_rfl, by decide +kernel⟩

/-- Nobody in particular syncs the reserve, whose 500 tokens are 507 by now. -/
theorem resync_enabled_iff_example :
    ∃ w' r', Moves donatedWorld (.call (alone (syncReserve mintA))
        (syncAccounts (reserveKey mintA) swapReserve (exampleController .Active)) [8]) w' ∧
      donatedWorld.keel (reserveKey mintA) = some (.reserve swapReserve) ∧
      w'.keel = Function.update donatedWorld.keel (reserveKey mintA) (some (.reserve r')) ∧
      (swapReserve.lastBalance, r'.lastBalance) = (500, 507) := by
  have hfree : (exampleController .Active).AuthorityFree donatedWorld :=
    ⟨by decide +kernel, by decide +kernel⟩
  have hrunning : ¬ (exampleController .Active).isFrozen ∧
      ¬ (exampleController .Active).isAtomicSwapLocked := by decide
  have hr : donatedWorld.keel (reserveKey mintA) = some (.reserve swapReserve) := by
    decide +kernel
  have hc : donatedWorld.keel swapReserve.controller =
      some (.controller (exampleController .Active)) := by decide +kernel
  obtain ⟨henabled, heffect⟩ := @resync_enabled_iff chain (alone (syncReserve mintA)) _ _ _ _ _
    donatedWorld_attained.reachableForward hr hc hfree donatedWorld_vault
  obtain ⟨w', hmove⟩ := henabled.mpr hrunning
  obtain ⟨⟨r', ⟨l, -, rfl⟩, hkeel⟩, -, -⟩ := heffect w' hmove
  exact ⟨w', _, hmove, hr, hkeel, rfl⟩

end AlmController
