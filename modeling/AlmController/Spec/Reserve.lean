import AlmController.Processor.Reserve
import AlmController.Spec.Change
import AlmController.Spec.Parts

/-!
# Effects: reserves

InitializeReserve and SyncReserve leave a reserve that knows its vault; ManageReserve
changes its limits and its status, and books nothing.
-/

namespace AlmController

open Prog

variable [Chain]

variable {tx : TxContext} {accounts : List AccountMeta} {data : List UInt8} {w w' : World}
  {u : Unit}

/-! ## InitializeReserve -/

omit [Chain] in
theorem InitializeReserveAccounts.bind_eq {ctx : InitializeReserveAccounts}
    (h : InitializeReserveAccounts.bind accounts = some ctx) : ∃ rest,
      accounts = ctx.payer :: ctx.controller :: ctx.controllerAuthority :: ctx.authority ::
        ctx.permission :: ctx.reserve :: ctx.mint :: ctx.vault :: ctx.tokenProgram ::
          ctx.associatedTokenProgram :: ctx.programId :: ctx.systemProgram :: rest := by
  unfold bind at h
  split at h
  · rename_i rest
    obtain rfl := Option.some.inj h
    exact ⟨rest, rfl⟩
  · cases h

/-- **What InitializeReserve established.** -/
structure InitializeReserveRun (ctx : InitializeReserveAccounts) (w w₁ : World) (c : Controller)
    (p : Permission) (r r' : Reserve) (es : List LogEntry) : Prop where
  signer : ctx.authority.isSigner = true
  controller : c.At w ctx.controller.pubkey ctx.controllerAuthority.pubkey
  notFrozen : ¬ c.isFrozen
  notLocked : ¬ c.isAtomicSwapLocked
  permission : p.At w ctx.controller.pubkey ctx.permission.pubkey ctx.authority.pubkey
  mayManage : p.mayManageReservesAndIntegrations
  fresh : w.keel ctx.reserve.pubkey = none
  seeds : pdaOf r.seeds = some ctx.reserve.pubkey
  own : r.controller = ctx.controller.pubkey
  empty : r.lastBalance = 0
  full : ∃ slope maxOutflow, r.toRateLimit = .init w.clock slope maxOutflow
  grows : Grows w w₁ es
  frame : ∀ k, k ≠ ctx.reserve.pubkey → w₁.keel k = w.keel k
  within : Within { limiters := [r.limiterId], reserves := [ctx.reserve.pubkey] } es
  booked : Reserve.Booked w.clock (flowsOf r.limiterId es) r r'
  ledger : ledger ctx.reserve.pubkey es = net (flowsOf r.limiterId es)
  /-- The recorded balance is the vault's. -/
  tracked : w₁.bank.tokenAmount r.vault = r'.lastBalance.toNat
  vault : TokenLaws → IsVaultOf r.vault c.authority r.mint

/-- InitializeReserve ran to its last save. -/
inductive InitializeReserveDone (ctx : InitializeReserveAccounts) (w : World) :
    World → List LogEntry → Prop
  | done {w₁ : World} {c : Controller} {p : Permission} {r r' : Reserve} {es : List LogEntry} :
      InitializeReserveRun ctx w w₁ c p r r' es →
        InitializeReserveDone ctx w (w₁.setKeel ctx.reserve.pubkey (.reserve r')) es

theorem processInitializeReserve_done
    (h : processInitializeReserve accounts data w = .ok (u, w')) :
    ∃ ctx es, InitializeReserveAccounts.bind accounts = some ctx ∧
      InitializeReserveDone ctx w w' es := by
  simp only [processInitializeReserve, Reserve.initAccount, bind_ok, fromAccounts_ok, rejectIf_ok,
    parseArgs_ok, read_ok, pure_ok, invoke_ok, Controller.rejectHalted_ok, save_ok, not_not,
    and_assoc, exists_and_left, exists_eq_left', exists_const] at h
  obtain ⟨haccounts, ctx, hbind, args, -, c, _, hcl, hfrozen, hlocked, p, _, hpl, hmay, h⟩ := h
  obtain ⟨rfl, hc⟩ := Controller.loadAndCheck_at hcl
  obtain ⟨rfl, hp⟩ := Permission.loadAndCheck_at hpl
  obtain ⟨_, _, hmint, _, _, hextensions, _, ⟨bank, hinvoke, rfl⟩, h⟩ := h
  obtain ⟨_, _, ⟨_, _, hinit, rfl, rfl⟩, _, w₃, hevent, r', w₄, hsync, -, -, rfl⟩ := h
  obtain rfl := readOnly_mint hmint
  obtain rfl := readOnly_validateMintExtensions hextensions
  obtain ⟨hfresh, hseeds, calls, w₁, hcalls, rfl⟩ := initAccount_ok hinit
  have hgrows := Extends.refl.invoke hinvoke |>.trans hcalls.extends
  -- before the sync the log tells nothing about any account
  obtain ⟨pre, hpre, hgrew, hkeel, hclock⟩ : ∃ pre, Within {} pre ∧ Grows w w₃ pre ∧
      (∀ k, k ≠ ctx.reserve.pubkey → w₃.keel k = w.keel k) ∧ w₃.clock = w.clock := by
    obtain ⟨-, rfl⟩ := emitEvent_ok hevent
    refine ⟨_, ?_, hgrows.grew.setKeel.addLog, ?_, hgrows.clock⟩
    · exact .append (.append (.singleton within_unsigned) .of_unsigned) (.singleton trivial)
    · intro k hk
      rw [World.addLog_keel, World.setKeel_keel_of_ne hk, hgrows.keel]
  obtain ⟨-, -, t, ht, -, hsynced⟩ := Reserve.syncBalance_ok hseeds hsync
  obtain ⟨es, hsyncRun⟩ := hsynced.run
  obtain ⟨rest, haccs⟩ := InitializeReserveAccounts.bind_eq hbind
  have hget : accounts[3]? = some ctx.authority := by
    rw [haccs]
    rfl
  refine ⟨ctx, pre ++ es, hbind, .done (c := c) (p := p) ⟨haccounts.isSigner rfl hget (.head _), hc,
    hfrozen, hlocked, hp, hmay, hfresh, hseeds, rfl, rfl, ⟨_, _, rfl⟩, ?_, ?_, ?_, ?_, ?_, ?_, ?_⟩⟩
  · exact hgrew.trans hsyncRun.grows.grew
  · intro k hk
    rw [hsyncRun.grows.keel, hkeel k hk]
  · exact .append (hpre.mono (List.nil_subset _) (List.nil_subset _) (List.nil_subset _)
      (List.nil_subset _)) hsyncRun.within
  · rw [flowsOf_append, hpre.flowsOf_eq_nil List.not_mem_nil, List.nil_append, ← hclock]
    exact hsyncRun.booked
  · rw [ledger_append, hpre.ledger_eq_zero List.not_mem_nil, zero_add, flowsOf_append,
      hpre.flowsOf_eq_nil List.not_mem_nil, List.nil_append]
    exact hsyncRun.ledger
  · rw [hsyncRun.bank, hsyncRun.lastBalance]
    exact Bank.tokenAmount_of_token? ht
  · intro laws
    rw [hc.authority]
    exact ⟨_, laws.createIdempotent hinvoke⟩

/-- The reserve exists from here on. -/
theorem InitializeReserveDone.effect {ctx : InitializeReserveAccounts} {es : List LogEntry}
    (hbind : InitializeReserveAccounts.bind accounts = some ctx)
    (h : InitializeReserveDone ctx w w' es) : Effect tx accounts (4 :: data) w w' es := by
  cases h with
  | @done w₁ c p r r' es h =>
  obtain ⟨rest, haccs⟩ := InitializeReserveAccounts.bind_eq hbind
  have hmem : ctx.authority ∈ accounts := by
    rw [haccs]
    simp
  have hcontroller : r'.controller = ctx.controller.pubkey :=
    h.booked.controller_eq.trans h.own
  refine .of_footprint [ctx.reserve.pubkey] h.grows.setKeel h.within ?_ (List.Subset.refl _)
    (List.nil_subset _) ?_ (.inl (h.within.movesNone (.inl rfl))) ?_ ?_
  · intro id hid'
    refine ⟨_, List.mem_singleton_self _, ?_⟩
    rw [List.mem_singleton.mp hid']
    exact h.seeds
  · exact fun _ hmem => absurd hmem List.not_mem_nil
  · intro k hk
    have hne := fun heq => hk (List.mem_singleton.mpr heq)
    rw [World.setKeel_keel_of_ne hne, h.frame k hne]
  · refine List.forall_mem_singleton.mpr ?_
    rw [h.fresh, World.setKeel_keel_self]
    refine Change.newReserve (c := c) ?_ ?_ ?_ ?_ ?_ h.empty h.full ?_ ?_
    · rw [h.booked.seeds_eq]
      exact h.seeds
    · rw [hcontroller]
      exact h.controller.keel
    · rw [hcontroller]
      exact h.controller.running h.notFrozen h.notLocked
    · rw [hcontroller]
      exact h.permission.authorized hmem h.signer h.mayManage
    · intro laws
      rw [h.booked.vault_eq, h.booked.mint_eq]
      exact h.vault laws
    · rw [h.booked.limiterId_eq]
      exact h.booked
    · rw [h.ledger]
      have hbalance := h.booked.balance
      rw [h.empty] at hbalance
      rw [hbalance]
      simp

/-! ## ManageReserve -/

omit [Chain] in
theorem ManageReserveAccounts.bind_eq {ctx : ManageReserveAccounts}
    (h : ManageReserveAccounts.bind accounts = some ctx) : ∃ rest,
      accounts = ctx.controller :: ctx.controllerAuthority :: ctx.authority :: ctx.permission ::
        ctx.reserve :: ctx.programId :: rest := by
  unfold bind at h
  split at h
  · rename_i rest
    obtain rfl := Option.some.inj h
    exact ⟨rest, rfl⟩
  · cases h

theorem processManageReserve_effect (h : processManageReserve accounts data w = .ok (u, w')) :
    ∃ es, Effect tx accounts (5 :: data) w w' es := by
  simp only [processManageReserve, bind_ok, fromAccounts_ok, rejectIf_ok, parseArgs_ok, read_ok,
    ofExcept_ok, Controller.rejectHalted_ok, save_ok, not_not, and_assoc, exists_and_left,
    exists_eq_left', exists_const] at h
  obtain ⟨haccounts, ctx, hbind, args, hargs, c, _, hcl, hfrozen, hlocked, p, _, hpl, hmay, r, _,
    hrl, r', hupdate, _, w₁, hevent, -, -, rfl⟩ := h
  obtain ⟨rfl, hc⟩ := Controller.loadAndCheck_at hcl
  obtain ⟨rfl, hp⟩ := Permission.loadAndCheck_at hpl
  obtain ⟨rfl, hr⟩ := Reserve.loadAndCheck_at hrl
  obtain ⟨-, rfl⟩ := emitEvent_ok hevent
  obtain ⟨rest, haccs⟩ := ManageReserveAccounts.bind_eq hbind
  have hget : accounts[2]? = some ctx.authority := by
    rw [haccs]
    rfl
  refine ⟨_, .of_report hr.keel trivial ?_⟩
  intro hsilent
  refine .manageReserve hsilent (congrArg (5 :: ·) hargs) ?_ ?_ ?_ hupdate
  · rw [haccs]
    rfl
  · rw [hr.controller]
    exact hc.running hfrozen hlocked
  · rw [hr.controller]
    exact hp.authorized (List.mem_of_getElem? hget) (haccounts.isSigner rfl hget (.head _)) hmay

/-! ## SyncReserve -/

omit [Chain] in
theorem SyncReserveAccounts.bind_eq {ctx : SyncReserveAccounts}
    (h : SyncReserveAccounts.bind accounts = some ctx) : ∃ rest,
      accounts = ctx.controller :: ctx.controllerAuthority :: ctx.reserve :: ctx.vault :: rest := by
  unfold bind at h
  split at h
  · rename_i rest
    obtain rfl := Option.some.inj h
    exact ⟨rest, rfl⟩
  · cases h

/-- **What SyncReserve established.** -/
inductive SyncReserveDone (ctx : SyncReserveAccounts) (w : World) : World → List LogEntry → Prop
  | done {w₁ : World} {c : Controller} {r r' : Reserve} {amount : UInt64} {es : List LogEntry} :
      c.At w ctx.controller.pubkey ctx.controllerAuthority.pubkey → ¬ c.isFrozen →
      ¬ c.isAtomicSwapLocked → r.At w ctx.controller.pubkey ctx.reserve.pubkey →
      Reserve.SyncRun ctx.reserve.pubkey amount w w₁ r r' es →
      w.bank.tokenAmount r.vault = amount.toNat →
      SyncReserveDone ctx w (w₁.setKeel ctx.reserve.pubkey (.reserve r')) es

theorem processSyncReserve_done (h : processSyncReserve accounts w = .ok (u, w')) :
    ∃ ctx es, SyncReserveAccounts.bind accounts = some ctx ∧ SyncReserveDone ctx w w' es := by
  simp only [processSyncReserve, bind_ok, fromAccounts_ok, Controller.rejectHalted_ok, save_ok,
    and_assoc, exists_and_left, exists_eq_left', exists_const] at h
  obtain ⟨-, ctx, hbind, c, _, hcl, hfrozen, hlocked, r, _, hrl, r', w₁, hsync, -, -, rfl⟩ := h
  obtain ⟨rfl, hc⟩ := Controller.loadAndCheck_at hcl
  obtain ⟨rfl, hr⟩ := Reserve.loadAndCheck_at hrl
  obtain ⟨-, -, t, ht, -, hsynced⟩ := Reserve.syncBalance_ok hr.seeds hsync
  obtain ⟨es, hsyncRun⟩ := hsynced.run
  exact ⟨ctx, es, hbind, .done hc hfrozen hlocked hr hsyncRun (Bank.tokenAmount_of_token? ht)⟩

theorem SyncReserveDone.effect {ctx : SyncReserveAccounts} {es : List LogEntry}
    (h : SyncReserveDone ctx w w' es) : Effect tx accounts data w w' es := by
  cases h with
  | @done w₁ c r r' amount es hc hfrozen hlocked hr hsync hamount =>
  refine .of_footprint [ctx.reserve.pubkey] hsync.grows.grew.setKeel hsync.within ?_
    (List.Subset.refl _) (List.nil_subset _) ?_ (.inl (hsync.within.movesNone (.inl rfl))) ?_ ?_
  · intro id hid
    refine ⟨_, List.mem_singleton_self _, ?_⟩
    rw [List.mem_singleton.mp hid]
    exact hr.seeds
  · exact fun _ hmem => absurd hmem List.not_mem_nil
  · intro k hk
    rw [World.setKeel_keel_of_ne fun heq => hk (List.mem_singleton.mpr heq), hsync.grows.keel]
  · refine List.forall_mem_singleton.mpr ?_
    rw [hr.keel, World.setKeel_keel_self]
    refine .bookReserve hr.seeds ?_ hsync.booked hsync.ledger
    rw [hr.controller]
    exact hc.running hfrozen hlocked

end AlmController
