import AlmController.Spec.Change
import AlmController.Spec.Parts

/-!
# Effects: integrations

InitializeIntegration leaves an integration that has done nothing, whose state is of
its configuration's protocol; no instruction changes either afterwards. Push, Pull and
SyncIntegration book on one integration and one reserve.

The lemmas on Push and Pull start from what `processPush_done` and `processPull_done` established,
so no protocol is looked into here: `FlowRun` is all that the effect of a flow depends on. Only
SyncIntegration is taken apart, because two protocols have a sync and they save different accounts.
-/

namespace AlmController

open Prog

variable [Chain]

variable {tx : TxContext} {accounts : List AccountMeta} {data : List UInt8} {w w' : World}
  {u : Unit}

/-! ## InitializeIntegration -/

/-- A configuration and a state that an integration of this type may start with. -/
structure Starts (t : IntegrationType) (parts : IntegrationConfig × IntegrationState) : Prop where
  protocol : parts.2.protocol = parts.1.protocol
  configured : parts.1.protocol = some t
  distinct : ∀ cfg, parts.1 = .AtomicSwap cfg → cfg.inputToken ≠ cfg.outputToken
  idle : parts.2.Idle

namespace Starts

omit [Chain]

theorem splTokenExternal {config : SplTokenExternalConfig} {state : SplTokenExternalState} :
    Starts .SplTokenExternal (.SplTokenExternal config, .SplTokenExternal state) :=
  ⟨rfl, rfl, fun _ hcfg => IntegrationConfig.noConfusion hcfg, trivial⟩

theorem cctpBridge {config : CctpBridgeConfig} {state : CctpBridgeState} :
    Starts .CctpBridge (.CctpBridge config, .CctpBridge state) :=
  ⟨rfl, rfl, fun _ hcfg => IntegrationConfig.noConfusion hcfg, trivial⟩

theorem lzBridge {config : LzBridgeConfig} {state : LzBridgeState}
    (h : state.pushInFlight = false) : Starts .LzBridge (.LzBridge config, .LzBridge state) :=
  ⟨rfl, rfl, fun _ hcfg => IntegrationConfig.noConfusion hcfg, h⟩

theorem atomicSwap {config : AtomicSwapConfig} {state : AtomicSwapState}
    (hne : config.inputToken ≠ config.outputToken) (h : state = .closed) :
    Starts .AtomicSwap (.AtomicSwap config, .AtomicSwap state) := by
  refine ⟨rfl, rfl, ?_, h⟩
  intro cfg hcfg
  obtain rfl := IntegrationConfig.AtomicSwap.inj hcfg
  exact hne

theorem drift {config : DriftConfig} {state : LendingState} (h : state.balance = 0) :
    Starts .Drift (.Drift config, .Drift state) :=
  ⟨rfl, rfl, fun _ hcfg => IntegrationConfig.noConfusion hcfg, h⟩

theorem kamino {config : KaminoConfig} {state : LendingState} (h : state.balance = 0) :
    Starts .Kamino (.Kamino config, .Kamino state) :=
  ⟨rfl, rfl, fun _ hcfg => IntegrationConfig.noConfusion hcfg, h⟩

end Starts

/-- Whichever protocol is initialized, configuration and state are of it, and nothing is in
    flight. -/
theorem yields_initializeProtocol {ctx : InitializeIntegrationAccounts}
    {args : InitializeIntegrationArgs} {c : Controller} :
    Yields (Starts args.integrationType) (processInitializeProtocol ctx args c) := by
  unfold processInitializeProtocol
  cases args.integrationType with
  | SplTokenExternal =>
    exact .bind fun _ => .bind fun _ => .bind fun _ => .bind fun _ => .pure .splTokenExternal
  | CctpBridge =>
    exact .bind fun _ => .bind fun _ => .bind fun _ => .bind fun _ => .bind fun _ => .bind fun _ =>
      .pure .cctpBridge
  | LzBridge =>
    exact .bind fun _ => .bind fun _ => .bind fun _ => .bind fun _ => .bind fun _ => .bind fun _ =>
      .bind fun _ => .bind fun _ => .pure (.lzBridge rfl)
  | AtomicSwap =>
    exact .bind fun _ => .rejectIf fun hne => .bind fun _ => .bind fun _ => .bind fun _ =>
      .bind fun _ => .bind fun _ => .bind fun _ => .bind fun _ => .bind fun _ => .bind fun _ =>
        .bind fun _ => .pure (.atomicSwap hne rfl)
  | Drift =>
    exact .bind fun _ => .bind fun _ => .bind fun _ => .bind fun _ => .bind fun _ => .bind fun _ =>
      .bind fun _ => .bind fun _ => .pure (.drift rfl)
  | Kamino =>
    exact .bind fun _ => .bind fun _ => .bind fun _ => .bind fun _ => .bind fun _ => .bind fun _ =>
      .bind fun _ => .bind fun _ => .bind fun _ => .pure (.kamino rfl)

/-- A swap starts with a staleness below the slot of its creation. -/
theorem initializeProtocol_staleness {ctx : InitializeIntegrationAccounts}
    {args : InitializeIntegrationArgs} {c : Controller} {config : IntegrationConfig}
    {state : IntegrationState}
    (h : processInitializeProtocol ctx args c w = .ok ((config, state), w')) :
    ∀ cfg, config = .AtomicSwap cfg → cfg.maxStaleness < w.clock.slot := by
  intro cfg hconfig
  subst hconfig
  have htype := (yields_initializeProtocol h).configured
  rw [processInitializeProtocol, ← Option.some.inj htype] at h
  simp only [processInitializeAtomicSwap, bind_ok, fromAccounts_ok, rejectIf_ok, read_ok,
    ofOption_ok, pure_ok, not_or, Prod.mk.injEq, IntegrationConfig.AtomicSwap.injEq,
    and_assoc, exists_and_left, exists_eq_left', exists_const] at h
  obtain ⟨-, innerCtx, -, -, o, w₁, hol, ⟨slippage, staleness, expiry, inverted⟩, h⟩ := h
  obtain rfl := readOnly_oracle hol
  obtain ⟨-, hslot, -, inputMint, _, -, -, _, -, outputMint, _, -, -, _, -, -, -, rfl, -⟩ := h
  exact UInt64.not_le.mp hslot

omit [Chain] in
theorem InitializeIntegrationAccounts.bind_authority {ctx : InitializeIntegrationAccounts}
    (h : InitializeIntegrationAccounts.bind accounts = some ctx) :
    accounts[3]? = some ctx.authority := by
  unfold bind at h
  split at h
  · obtain rfl := Option.some.inj h
    rfl
  · cases h

/-- InitializeIntegration makes an integration, for somebody who may manage them. -/
theorem processInitializeIntegration_effect
    (h : processInitializeIntegration accounts data w = .ok (u, w')) :
    ∃ es, Effect tx accounts (6 :: data) w w' es := by
  simp only [processInitializeIntegration, Integration.initAccount, bind_ok, fromAccounts_ok,
    rejectIf_ok, parseArgs_ok, pure_ok, read_ok, Controller.rejectHalted_ok, not_not, and_assoc,
    exists_and_left, exists_eq_left', exists_const, Prod.exists] at h
  obtain ⟨haccounts, ctx, hbind, args, -, c, _, hcl, hfrozen, hlocked, p, _, hpl, hmay, h⟩ := h
  obtain ⟨rfl, hc⟩ := Controller.loadAndCheck_at hcl
  obtain ⟨rfl, hp⟩ := Permission.loadAndCheck_at hpl
  obtain ⟨config, state, w₁, hprotocol, i, w₂, ⟨_, _, hinit, rfl, rfl⟩, hevent⟩ := h
  obtain ⟨es, hprepares⟩ := setsUp_initializeProtocol hprotocol
  have hstarts := yields_initializeProtocol hprotocol
  obtain ⟨hfresh, hseeds, calls, w₂, hcalls, rfl⟩ := initAccount_ok hinit
  obtain ⟨-, rfl⟩ := emitEvent_ok hevent
  have hget := InitializeIntegrationAccounts.bind_authority hbind
  refine ⟨_, .of_save (s := { controllers := [ctx.controller.pubkey] })
    (hprepares.grows.trans hcalls.extends).addLog ?_ rfl rfl (List.nil_subset _) ?_ (.inr ?_)
    rfl ?_⟩
  · exact .append (.append (hprepares.within (List.mem_singleton_self _)) .of_unsigned)
      (.singleton trivial)
  · intro ck hck
    rw [List.mem_singleton.mp hck]
    exact hc.running hfrozen hlocked
  · refine .append (.append (.of_prepares hprepares) ?_) (.of_unsigned rfl)
    exact Within.movesNone (s := {}) .of_unsigned (.inl rfl)
  · intro hsilent
    rw [hprepares.grows.keel] at hfresh
    rw [hfresh]
    exact .newIntegration (hsilent List.not_mem_nil) hseeds (hc.running hfrozen hlocked)
      (hp.authorized (List.mem_of_getElem? hget) (haccounts.isSigner rfl hget (.head _)) hmay)
      ⟨hstarts.protocol, hstarts.configured ▸ Option.some_ne_none _, hstarts.distinct, hstarts.idle,
        rfl⟩
      ⟨_, _, congrArg (RateLimit.init · _ _) hprepares.grows.clock⟩
      (initializeProtocol_staleness hprotocol)

/-! ## ManageIntegration -/

omit [Chain] in
theorem ManageIntegrationAccounts.bind_eq {ctx : ManageIntegrationAccounts}
    (h : ManageIntegrationAccounts.bind accounts = some ctx) :
    accounts[2]? = some ctx.authority ∧ accounts[4]? = some ctx.integration := by
  unfold bind at h
  split at h
  · obtain rfl := Option.some.inj h
    exact ⟨rfl, rfl⟩
  · cases h

/-- ManageIntegration changes what `Integration.update` changes, and for the same people. -/
theorem processManageIntegration_effect
    (h : processManageIntegration accounts data w = .ok (u, w')) :
    ∃ es, Effect tx accounts (7 :: data) w w' es := by
  simp only [processManageIntegration, bind_ok, fromAccounts_ok, rejectIf_ok, parseArgs_ok,
    read_ok, ofExcept_ok, Controller.rejectHalted_ok, save_ok, not_not, and_assoc,
    exists_and_left, exists_eq_left', exists_const] at h
  obtain ⟨haccounts, ctx, hbind, args, hargs, c, _, hcl, hfrozen, hlocked, p, _, hpl, hmay, i, _,
    hil, i', hupdate, -, -, hevent⟩ := h
  obtain ⟨rfl, hc⟩ := Controller.loadAndCheck_at hcl
  obtain ⟨rfl, hp⟩ := Permission.loadAndCheck_at hpl
  obtain ⟨rfl, hi⟩ := Integration.loadAndCheck_at hil
  obtain ⟨-, rfl⟩ := emitEvent_ok hevent
  obtain ⟨hget, hnamed⟩ := ManageIntegrationAccounts.bind_eq hbind
  refine ⟨_, .of_report hi.keel trivial ?_⟩
  intro hsilent
  refine .manageIntegration hsilent (congrArg (7 :: ·) hargs) ?_ ?_ ?_ hupdate
  · rw [hnamed]
    rfl
  · rw [hi.controller]
    exact hc.running hfrozen hlocked
  · rw [hi.controller]
    exact hp.authorized (List.mem_of_getElem? hget) (haccounts.isSigner rfl hget (.head _)) hmay

/-! ## A flow between an integration and a reserve -/

section FlowEffect

variable {ck ik rk : Pubkey} {w₁ : World} {i i' : Integration} {r r' : Reserve}
  {es : List LogEntry}

/-- **A processor's run, and the saving of its two accounts.** -/
theorem FlowRun.effect (h : FlowRun ck ik rk w w₁ i i' r r' es) (hbook : MayBook data)
    (hfunds : MovesNone es ∨ MayMove data) (hrunning : Running w ck) (hi : i.At w ck ik)
    (hr : r.At w ck rk) (hstate : StateStep tx ik i i'.state) :
    Effect tx accounts data w
      ((w₁.setKeel ik (.integration i')).setKeel rk (.reserve r')) es := by
  have hne : ik ≠ rk := World.key_ne hi.keel hr.keel nofun
  refine .of_footprint [ik, rk] h.grows.grew.setKeel.setKeel h.within ?_ ?_ ?_ ?_ hfunds ?_ ?_
  · refine List.forall_mem_cons.mpr ⟨⟨ik, .head _, hi.seeds⟩, List.forall_mem_singleton.mpr ?_⟩
    exact ⟨rk, .tail _ (.head _), hr.seeds⟩
  · exact List.cons_subset.mpr ⟨.tail _ (.head _), List.nil_subset _⟩
  · exact List.cons_subset.mpr ⟨.head _, List.nil_subset _⟩
  · intro ck' hck
    rw [List.mem_singleton.mp hck]
    exact hrunning
  · intro k hk
    rw [List.mem_cons, List.mem_singleton, not_or] at hk
    rw [World.setKeel_keel_of_ne hk.2, World.setKeel_keel_of_ne hk.1, h.grows.keel]
  · refine List.forall_mem_cons.mpr ⟨?_, List.forall_mem_singleton.mpr ?_⟩
    · rw [World.setKeel_keel_of_ne hne, World.setKeel_keel_self, hi.keel]
      refine .bookIntegration hbook hi.seeds ?_ h.integration hstate
      rw [hi.controller]
      exact hrunning
    · rw [World.setKeel_keel_self, hr.keel]
      refine .bookReserve hr.seeds ?_ h.reserve h.ledger
      rw [hr.controller]
      exact hrunning

end FlowEffect

/-- A Push books on its integration and its reserve, and may move funds. -/
theorem PushDone.effect {ctx : PushAccounts} {args : PushArgs} {es : List LogEntry}
    (h : PushDone tx ctx args w w' es) : Effect tx accounts (10 :: data) w w' es := by
  cases h with
  | done hparties hrun =>
    exact hrun.flow.effect (.inr (.inl rfl)) (.inr (.inl rfl))
      (hparties.controller.running_of_active hparties.controllerActive)
      hparties.integration hparties.reserve hrun.state.stateStep

/-- So may a Pull, by the same rules. -/
theorem PullDone.effect {ctx : PushAccounts} {args : PullArgs} {es : List LogEntry}
    (h : PullDone ctx args w w' es) : Effect tx accounts (11 :: data) w w' es := by
  cases h with
  | done hparties hrun =>
    exact hrun.flow.effect (.inr (.inr rfl)) (.inr (.inr (.inl rfl)))
      (hparties.controller.running_of_active hparties.controllerActive)
      hparties.integration hparties.reserve hrun.state.stateStep

/-! ## SyncIntegration -/

section Refreshed

variable {ctx : SyncIntegrationAccounts} {w₁ : World} {i refreshed i' : Integration}
  {r r' : Reserve} {es : List LogEntry}

omit [Chain] in
/-- A refresh of the limiter comes before a sync, and does not touch the state. -/
theorem Revalued.of_refresh {clock : Clock} {state : IntegrationState}
    (hrefresh : i.refreshRateLimit clock = .ok refreshed) (h : Revalued refreshed state) :
    Revalued i state := by
  simp only [Integration.refreshRateLimit, except_bind_ok, except_pure_ok] at hrefresh
  obtain ⟨_, -, rfl⟩ := hrefresh
  cases h with
  | drift hstate => exact .drift hstate
  | kamino hstate => exact .kamino hstate

omit [Chain] in
theorem Integration.refreshRateLimit_config {clock : Clock}
    (hrefresh : i.refreshRateLimit clock = .ok refreshed) : refreshed.config = i.config := by
  simp only [refreshRateLimit, except_bind_ok, except_pure_ok] at hrefresh
  obtain ⟨_, -, rfl⟩ := hrefresh
  rfl

theorem SyncKaminoRun.of_refresh (hrefresh : i.refreshRateLimit w.clock = .ok refreshed)
    (h : SyncKaminoRun ctx w w₁ refreshed i' r r' es) : SyncKaminoRun ctx w w₁ i i' r r' es :=
  ⟨(FlowRun.of_refresh hrefresh).trans h.flow, h.state.of_refresh hrefresh,
    Integration.refreshRateLimit_config hrefresh ▸ h.config, h.movesNone, h.tracked⟩

theorem SyncDriftRun.of_refresh (hrefresh : i.refreshRateLimit w.clock = .ok refreshed)
    (h : SyncDriftRun ctx w w₁ refreshed i' es) : SyncDriftRun ctx w w₁ i i' es :=
  ⟨h.grows, h.within, h.unsigned, (Integration.Booked.of_refresh hrefresh).trans h.integration,
    h.state.of_refresh hrefresh, Integration.refreshRateLimit_config hrefresh ▸ h.config⟩

end Refreshed

omit [Chain] in
theorem SyncIntegrationAccounts.bind_eq {ctx : SyncIntegrationAccounts}
    (h : SyncIntegrationAccounts.bind accounts = some ctx) :
    accounts = ctx.controller :: ctx.controllerAuthority :: ctx.payer :: ctx.integration ::
      ctx.reserve :: ctx.remainingAccounts := by
  unfold bind at h
  split at h
  · obtain rfl := Option.some.inj h
    rfl
  · cases h

/-- Everyone involved in a sync. -/
structure SyncParties (ctx : SyncIntegrationAccounts) (w : World) (c : Controller)
    (i : Integration) : Prop where
  controller : c.At w ctx.controller.pubkey ctx.controllerAuthority.pubkey
  notFrozen : ¬ c.isFrozen
  notLocked : ¬ c.isAtomicSwapLocked
  integration : i.At w ctx.controller.pubkey ctx.integration.pubkey

/-- **What SyncIntegration established**, up to its saving. -/
inductive SyncIntegrationDone (ctx : SyncIntegrationAccounts) (w : World) :
    World → List LogEntry → Prop
  | kamino {c : Controller} {i i' : Integration} {r r' : Reserve} {w₁ : World}
      {es : List LogEntry} :
      SyncParties ctx w c i → r.At w ctx.controller.pubkey ctx.reserve.pubkey →
      SyncKaminoRun ctx w w₁ i i' r r' es →
        SyncIntegrationDone ctx w ((w₁.setKeel ctx.reserve.pubkey (.reserve r')).setKeel
          ctx.integration.pubkey (.integration i')) es
  | drift {c : Controller} {i i' : Integration} {w₁ : World} {es : List LogEntry} :
      SyncParties ctx w c i → SyncDriftRun ctx w w₁ i i' es →
        SyncIntegrationDone ctx w (w₁.setKeel ctx.integration.pubkey (.integration i')) es

/-- SyncIntegration, with what its entries tell. The reserve is loaded for Kamino alone, whose
    rewards may be of its mint; the rest of the protocols have no sync. -/
theorem processSyncIntegration_told (h : processSyncIntegration accounts w = .ok (u, w')) :
    ∃ ctx es, SyncIntegrationAccounts.bind accounts = some ctx ∧
      SyncIntegrationDone ctx w w' es ∧
      FlowTold (fun _ => True) ctx.controller.pubkey ctx.integration.pubkey w w' es := by
  simp only [processSyncIntegration, bind_ok, fromAccounts_ok, read_ok, ofExcept_ok,
    Controller.rejectHalted_ok, save_ok, and_assoc, exists_and_left, exists_eq_left',
    exists_const] at h
  obtain ⟨-, ctx, hbind, c, _, hcl, hfrozen, hlocked, i, _, hil, refreshed, hrefresh, i', w₁, hsync,
    -, -, rfl⟩ := h
  obtain ⟨rfl, hc⟩ := Controller.loadAndCheck_at hcl
  obtain ⟨rfl, hi⟩ := Integration.loadAndCheck_at hil
  have hparties : SyncParties ctx w c i := ⟨hc, hfrozen, hlocked, hi⟩
  unfold processSyncProtocol at hsync
  cases hconfig : refreshed.config with
  | Kamino =>
    simp only [hconfig, bind_ok, save_ok, pure_ok, Prod.exists, and_assoc, exists_and_left,
      exists_eq_left', exists_const] at hsync
    obtain ⟨r, _, hrl, _, r', w₂, hrun, -, -, rfl, rfl⟩ := hsync
    obtain ⟨rfl, hr⟩ := Reserve.loadAndCheck_at hrl
    obtain ⟨es, hrun, htells⟩ := processSyncKamino_run hr.seeds hrun
    have hrun := hrun.of_refresh hrefresh
    refine ⟨ctx, es, hbind, .kamino hparties hr hrun, ?_⟩
    rw [World.setKeel_comm (World.key_ne hr.keel hi.keel KeelAccount.noConfusion)]
    exact hrun.flow.told hc hi hr (htells.of_refresh hrefresh)
  | Drift =>
    simp only [hconfig] at hsync
    obtain ⟨es, hrun, htells⟩ := processSyncDrift_run hsync
    have hrun := hrun.of_refresh hrefresh
    refine ⟨ctx, es, hbind, .drift hparties hrun, hrun.grows.log, ⟨c, i, i', hc.keel, hi.keel,
      World.setKeel_keel_self, ?_, htells.of_refresh hrefresh⟩, ?_⟩
    · rw [hrun.integration.frame]
    · intro k hk
      refine ⟨fun m => hrun.within.position_eq_zero fun hmem => hk (List.mem_singleton.mp hmem), ?_⟩
      rw [World.setKeel_keel_of_ne hk, hrun.grows.keel]
      exact .inl rfl
  | _ =>
    simp only [hconfig, fail_ok] at hsync

theorem processSyncIntegration_done (h : processSyncIntegration accounts w = .ok (u, w')) :
    ∃ ctx es, SyncIntegrationAccounts.bind accounts = some ctx ∧
      SyncIntegrationDone ctx w w' es := by
  obtain ⟨ctx, es, hbind, hdone, -⟩ := processSyncIntegration_told h
  exact ⟨ctx, es, hbind, hdone⟩

/-- A sync signs for nothing that moves funds of the controller. -/
theorem SyncIntegrationDone.effect {ctx : SyncIntegrationAccounts} {es : List LogEntry}
    (h : SyncIntegrationDone ctx w w' es) : Effect tx accounts (9 :: data) w w' es := by
  cases h with
  | @kamino c i i' r r' w₁ es hparties hr hrun =>
    rw [World.setKeel_comm (World.key_ne hr.keel hparties.integration.keel nofun)]
    exact hrun.flow.effect (.inl rfl) (.inl hrun.movesNone)
      (hparties.controller.running hparties.notFrozen hparties.notLocked)
      hparties.integration hr (.revalued hrun.state)
  | @drift c i i' w₁ es hparties hrun =>
    refine .of_save hrun.grows hrun.within rfl rfl (List.Subset.refl _) ?_ (.inl rfl) rfl ?_
    · exact fun _ hmem => absurd hmem List.not_mem_nil
    · intro _
      rw [hparties.integration.keel]
      refine .bookIntegration (.inl rfl) hparties.integration.seeds ?_ ?_ (.revalued hrun.state)
      · rw [hparties.integration.controller]
        exact hparties.controller.running hparties.notFrozen hparties.notLocked
      · rw [hrun.within.flowsOf_eq_nil List.not_mem_nil]
        exact hrun.integration

end AlmController
