import AlmController.Spec.Deed

/-!
# Every instruction is a deed

One lemma for each instruction. Those that operate accounts save them with their settings as they
were, and what they write is an `Entry` of their books; those that set something save one account
and tell the change in one event.

A deed is about a controller. Which one it is has to be found among the accounts of the instruction
(`Names`), since the isolation of controllers is about the accounts that an instruction names. The
lemmas on Borrow and Repay, and those on instructions that set something, are in the two modules
after this one.
-/

namespace AlmController

open Prog

variable [Chain]

variable {tx : TxContext} {accounts : List AccountMeta} {data : List UInt8} {w w₁ w' : World}
  {u : Unit} {ck k : Pubkey} {es : List LogEntry}

/-! ## Books and entries -/

/-- The books are kept for accounts of their controller. -/
structure Books.In (b : Books) (w : World) : Prop where
  controller : ∃ c, w.keel b.controller = some (.controller c)
  integrations : ∀ s ∈ b.integrations, ∃ i, w.keel s.1 = some (.integration i) ∧
    i.controller = b.controller ∧ i.limiterId = s.2.limiterId
  reserves : ∀ s ∈ b.reserves, ∃ r, w.keel s.1 = some (.reserve r) ∧
    r.controller = b.controller ∧ r.limiterId = s.2.limiterId

/-- An entry of such books is authentic, and tells no update. -/
theorem Entry.authentic {b : Books} {pays : Cpi → Prop} {e : LogEntry} (h : Entry b pays e)
    (hb : b.In w)
    (hpays : ∀ call : Cpi, pays call → call.isQuiet = false → call.Configured w b.controller) :
    e.Authentic w b.controller ∧ e.update? = none := by
  cases h with
  | unsigned => exact ⟨.unsigned, rfl⟩
  | signed hcall =>
    obtain ⟨c, hc⟩ := hb.controller
    exact ⟨.signed hc (hpays _ hcall), rfl⟩
  | integrationFlow hmem hid =>
    obtain ⟨i, hi, hck, hsame⟩ := hb.integrations _ hmem
    refine ⟨.flow hi hck (l := i.toRateLimit) ?_, rfl⟩
    rw [hid, ← hsame]
    rfl
  | reserveFlow hmem hid =>
    obtain ⟨r, hr, hck, hsame⟩ := hb.reserves _ hmem
    refine ⟨.flow hr hck (l := r.toRateLimit) ?_, rfl⟩
    rw [hid, ← hsame]
    rfl
  | integrationEvent hmem =>
    obtain ⟨i, hi, hck, -⟩ := hb.integrations _ hmem
    exact ⟨.integration hi hck, rfl⟩
  | reserveEvent hmem hmint =>
    obtain ⟨r, hr, hck, hsame⟩ := hb.reserves _ hmem
    refine ⟨.reserve hr hck fun laws => ?_, rfl⟩
    rw [hmint laws]
    exact (LimiterId.reserve.inj hsame).2.symm

/-! ## Saves -/

/-- The world after these saves, in order. -/
def World.saves (w : World) (ss : List (Pubkey × KeelAccount)) : World :=
  ss.foldl (fun w s => w.setKeel s.1 s.2) w

omit [Chain] in
theorem World.saves_log {ss : List (Pubkey × KeelAccount)} : (w.saves ss).log = w.log := by
  induction ss generalizing w with
  | nil => rfl
  | cons s ss ih => exact ih (w := w.setKeel s.1 s.2)

omit [Chain] in
/-- An account is as before, or as one of the saves left it. -/
theorem World.saves_keel {ss : List (Pubkey × KeelAccount)} :
    (w.saves ss).keel k = w.keel k ∨ ∃ a, (k, a) ∈ ss ∧ (w.saves ss).keel k = some a := by
  induction ss generalizing w with
  | nil => exact .inl rfl
  | cons s ss ih =>
    rcases ih (w := w.setKeel s.1 s.2) with hkept | hsaved
    · by_cases hk : k = s.1
      · rw [hk] at hkept ⊢
        exact .inr ⟨s.2, List.mem_cons_self, hkept.trans World.setKeel_keel_self⟩
      · exact .inl (hkept.trans (World.setKeel_keel_of_ne hk))
    · obtain ⟨a, hmem, ha⟩ := hsaved
      exact .inr ⟨a, List.mem_cons_of_mem s hmem, ha⟩

/-! ## What keeps the settings -/

section Settings

variable {clock : Clock} {flows : List Flow} {r r' : Reserve} {i i' : Integration} {c : Controller}

omit [Chain] in
theorem RateLimit.Steps.settings_eq {l l' : RateLimit} (h : l.Steps clock flows l') :
    l'.settings = l.settings := by
  obtain ⟨hslope, hmax⟩ := h.frame
  unfold RateLimit.settings
  rw [hslope, hmax]

omit [Chain] in
theorem Reserve.Booked.settings_eq (h : Reserve.Booked clock flows r r') :
    (KeelAccount.reserve r').settings = (KeelAccount.reserve r).settings := by
  have hsettings := h.steps.settings_eq
  have hframe := h.frame
  generalize r'.toRateLimit = l at hsettings hframe
  generalize r'.lastBalance = n at hframe
  rw [hframe]
  simp only [KeelAccount.settings, hsettings]

omit [Chain] in
theorem Integration.Booked.settings_eq (h : Integration.Booked clock flows i i') :
    (KeelAccount.integration i').settings = (KeelAccount.integration i).settings := by
  have hsettings := h.steps.settings_eq
  have hframe := h.frame
  generalize i'.toRateLimit = l at hsettings hframe
  generalize i'.state = state at hframe
  rw [hframe]
  simp only [KeelAccount.settings, hsettings]

omit [Chain] in
/-- A lock does not show in the settings, -/
theorem Controller.settings_lock (h : c.isActive) :
    (KeelAccount.controller { c with status := .AtomicSwapLock }).settings =
      (KeelAccount.controller c).settings := by
  obtain ⟨id, bump, status, authority, authorityBump, padding⟩ := c
  obtain rfl : status = .Active := h
  rfl

omit [Chain] in
/-- nor does the unlocking. -/
theorem Controller.settings_unlock (h : c.isAtomicSwapLocked) :
    (KeelAccount.controller { c with status := .Active }).settings =
      (KeelAccount.controller c).settings := by
  obtain ⟨id, bump, status, authority, authorityBump, padding⟩ := c
  obtain rfl : status = .AtomicSwapLock := h
  rfl

end Settings

/-- The save operates an account of the controller at `ck`: its settings stay. -/
def Operates (w : World) (ck : Pubkey) (s : Pubkey × KeelAccount) : Prop :=
  ∃ a, w.keel s.1 = some a ∧ a.Same s.2 ∧ s.2.settings = a.settings ∧ a.controllerAt s.1 = ck

section Operates

variable {clock : Clock} {flows : List Flow} {r r' : Reserve} {i i' : Integration} {c : Controller}
  {authority : Pubkey}

theorem Operates.reserve (hr : r.At w ck k) (h : Reserve.Booked clock flows r r') :
    Operates w ck (k, .reserve r') :=
  ⟨.reserve r, hr.keel, .reserve h.controller_eq h.mint_eq h.vault_eq, h.settings_eq, hr.controller⟩

theorem Operates.integration (hi : i.At w ck k) (h : Integration.Booked clock flows i i')
    (hprotocol : i'.state.protocol = i.state.protocol) : Operates w ck (k, .integration i') :=
  ⟨.integration i, hi.keel, .integration ⟨h.controller_eq, h.hash_eq, h.config_eq, hprotocol⟩,
    h.settings_eq, hi.controller⟩

theorem Operates.lock (hc : c.At w ck authority) (hactive : c.isActive) :
    Operates w ck (ck, .controller { c with status := .AtomicSwapLock }) :=
  ⟨.controller c, hc.keel, .controller rfl rfl, Controller.settings_lock hactive, rfl⟩

theorem Operates.unlock (hc : c.At w ck authority) (hlocked : c.isAtomicSwapLocked) :
    Operates w ck (ck, .controller { c with status := .Active }) :=
  ⟨.controller c, hc.keel, .controller rfl rfl, Controller.settings_unlock hlocked, rfl⟩

end Operates

/-! ## Kinds of deeds -/

/-- **Operating accounts** is a deed: every account saved kept its settings, and nothing that was
    written tells an update. -/
theorem Deed.of_operates (hlog : w'.log = w.log ++ es)
    (hkeel : ∀ k, w'.keel k = w.keel k ∨ ∃ a, w'.keel k = some a ∧ Operates w ck (k, a))
    (hes : ∀ e ∈ es, e.Authentic w ck ∧ e.update? = none) : Deed ck w w' es := by
  have hretains : Retains w w' := by
    intro k a hk
    rcases hkeel k with hkept | ⟨a', ha', a₀, ha, hsame, -⟩
    · exact ⟨a, hkept.trans hk, .refl⟩
    · rw [hk] at ha
      obtain rfl := Option.some.inj ha
      exact ⟨a', ha', hsame⟩
  refine ⟨hlog, ?_, fun e he => (hes e he).1.mono hretains, ?_, ?_⟩
  · intro k
    rcases hkeel k with hkept | ⟨a', ha', a, ha, hsame, -, hck⟩
    · rw [hkept]
      exact .same
    · rw [ha', ha]
      exact .changed hsame hck
  · rw [journal_eq_nil fun e he => (hes e he).2]
    apply Covers.of_eq
    funext k
    unfold World.settings
    rcases hkeel k with hkept | ⟨a', ha', a, ha, -, hsettings, -⟩
    · rw [hkept]
    · rw [ha', ha]
      exact congrArg some hsettings
  · intro k i hnone hk
    rcases hkeel k with hkept | ⟨_, -, a, ha, -⟩
    · rw [hkept, hnone] at hk
      cases hk
    · rw [hnone] at ha
      cases ha

/-- The same, where accounts are saved after all is written. -/
theorem Deed.of_logs {s : List (Pubkey × KeelAccount)} (hkeel : w₁.keel = w.keel)
    (hlogs : Logs (fun e => e.Authentic w ck ∧ e.update? = none) w (w₁.saves s))
    (hsaves : ∀ t ∈ s, Operates w ck t) : ∃ es, Deed ck w (w₁.saves s) es := by
  obtain ⟨es, hlog, hes⟩ := hlogs
  refine ⟨es, .of_operates hlog ?_ hes⟩
  intro k
  rcases @World.saves_keel w₁ k s with hkept | ⟨a, hmem, ha⟩
  · exact .inl (hkept.trans (congrFun hkeel k))
  · exact .inr ⟨a, ha, hsaves _ hmem⟩

/-- What was written is in the books. -/
theorem Deed.of_saves {b : Books} {pays : Cpi → Prop} {ss : List (Pubkey × KeelAccount)}
    (hkeel : w₁.keel = w.keel) (hlogs : Logs (Entry b pays) w w₁) (hb : b.In w)
    (hpays : ∀ call : Cpi, pays call → call.isQuiet = false → call.Configured w b.controller)
    (hsaves : ∀ s ∈ ss, Operates w b.controller s) :
    ∃ es, Deed b.controller w (w₁.saves ss) es := by
  apply Deed.of_logs hkeel _ hsaves
  obtain ⟨es, hlog, hes⟩ := hlogs
  exact ⟨es, World.saves_log.trans hlog, fun e he => (hes e he).authentic hb hpays⟩

/-- Invoking other programs is a deed, when nothing that moves tokens is signed for. -/
theorem Deed.of_prepares {c : Controller} (hc : w.keel ck = some (.controller c))
    (h : Prepares ck w w' es) : Deed ck w w' es := by
  refine .of_operates h.grows.log (fun k => .inl (congrFun h.grows.keel k)) ?_
  intro e he
  obtain ⟨call, signedFor, rfl, hquiet, hsigned⟩ := h.calls e he
  cases signedFor with
  | none => exact ⟨.unsigned, rfl⟩
  | some k =>
    rw [hsigned k rfl]
    refine ⟨.signed hc fun hloud => ?_, rfl⟩
    rw [hquiet] at hloud
    cases hloud

/-- So are invocations that nobody signs, -/
theorem Deed.of_unsigned {calls : List Cpi}
    (hlog : w'.log = w.log ++ calls.map fun call => .cpi call none) (hkeel : w'.keel = w.keel) :
    Deed ck w w' (calls.map fun call => .cpi call none) := by
  refine .of_operates hlog (fun k => .inl (congrFun hkeel k)) ?_
  intro e he
  obtain ⟨call, -, rfl⟩ := List.mem_map.mp he
  exact ⟨.unsigned, rfl⟩

/-- such as those of the system program before an account can be saved. -/
theorem Deed.of_systemSteps {calls : List Cpi} (h : SystemSteps calls w w') :
    Deed ck w w' (calls.map fun call => .cpi call none) := .of_unsigned h.log_eq h.keel_eq

omit [Chain] in
/-- An event that tells an update is one line of the journal. -/
theorem journal_singleton {e : SvmAlmControllerEvent} {up : Update Pubkey KeelAccount}
    (he : e.update? = some up) : journal [.event e] = [up.map KeelAccount.settings] := by
  refine List.filterMap_cons_some ?_
  show e.update?.map _ = _
  rw [he]
  rfl

/-- **Saving an account and telling it in one event** is a deed. -/
theorem Deed.of_event {e : SvmAlmControllerEvent} {old : Option KeelAccount} {a : KeelAccount}
    (hk : w.keel k = old) (htouched : Touched ck k old (some a)) (hck : a.controllerAt k = ck)
    (he : e.update? = some ⟨k, old, some a⟩) (hevent : e.controller = ck)
    (hfounds : ∀ i, old = none → a = .integration i →
      i.WellConfigured ((w.setKeel k a).addLog (.event e))) :
    Deed ck w ((w.setKeel k a).addLog (.event e)) [.event e] := by
  have hframe : ∀ k', k' ≠ k → ((w.setKeel k a).addLog (.event e)).keel k' = w.keel k' :=
    fun k' hk' => World.setKeel_keel_of_ne hk'
  have hself : ((w.setKeel k a).addLog (.event e)).keel k = some a := World.setKeel_keel_self
  refine ⟨rfl, ?_, List.forall_mem_singleton.mpr (.update he hevent rfl .refl hself hck), ?_, ?_⟩
  · intro k'
    by_cases hkey : k' = k
    · rw [hkey, hk, hself]
      exact htouched
    · rw [hframe k' hkey]
      exact .same
  · rw [journal_singleton he]
    apply Covers.single
    · exact congrArg (Option.map KeelAccount.settings) hk
    · exact congrArg (Option.map KeelAccount.settings) hself
    · intro k' hkey
      exact congrArg (Option.map KeelAccount.settings) (hframe k' hkey)
  · intro k' i hnone hk'
    by_cases hkey : k' = k
    · rw [hkey] at hnone hk'
      rw [hself] at hk'
      exact hfounds i (hk.symm.trans hnone) (Option.some.inj hk')
    · rw [hframe k' hkey, hnone] at hk'
      cases hk'

/-! ## The controllers that are named -/

section Names

omit [Chain]

theorem PushAccounts.names {ctx : PushAccounts} (h : PushAccounts.bind accounts = some ctx) :
    Names accounts ctx.controller.pubkey := by
  rw [PushAccounts.bind_eq h]
  exact .of_mem (.head _)

theorem SyncIntegrationAccounts.names {ctx : SyncIntegrationAccounts}
    (h : SyncIntegrationAccounts.bind accounts = some ctx) :
    Names accounts ctx.controller.pubkey := by
  rw [SyncIntegrationAccounts.bind_eq h]
  exact .of_mem (.head _)

theorem SyncReserveAccounts.names {ctx : SyncReserveAccounts}
    (h : SyncReserveAccounts.bind accounts = some ctx) :
    Names accounts ctx.controller.pubkey := by
  obtain ⟨rest, rfl⟩ := SyncReserveAccounts.bind_eq h
  exact .of_mem (.head _)

end Names

/-! ## Push, Pull and SyncIntegration -/

omit [Chain] in
theorem Integration.refreshRateLimit_limiterId {i refreshed : Integration} {clock : Clock}
    (h : i.refreshRateLimit clock = .ok refreshed) : refreshed.limiterId = i.limiterId := by
  simp only [refreshRateLimit, except_bind_ok, except_pure_ok] at h
  obtain ⟨_, -, rfl⟩ := h
  rfl

omit [Chain] in
theorem Revalued.protocol_eq {i : Integration} {state : IntegrationState} (h : Revalued i state) :
    state.protocol = i.state.protocol := by
  cases h with
  | drift hstate =>
    rw [hstate]
    rfl
  | kamino hstate =>
    rw [hstate]
    rfl

theorem Sound.vault {r : Reserve} (hs : Sound w) (hr : w.keel k = some (.reserve r)) :
    TokenLaws → ∃ owner, IsVaultOf r.vault owner r.mint := by
  intro laws
  obtain ⟨-, c, -, hvault⟩ := hs.reserve hr
  exact ⟨c.authority, hvault laws⟩

section Flow

variable {ctx : PushAccounts} {c : Controller} {p : Permission} {i refreshed i' : Integration}
  {r r' : Reserve}

theorem FlowParties.books_in (h : FlowParties ctx w c p i r)
    (hrefresh : i.refreshRateLimit w.clock = .ok refreshed) : (ctx.books refreshed r).In w := by
  refine ⟨⟨c, h.controller.keel⟩, List.forall_mem_singleton.mpr ?_,
    List.forall_mem_singleton.mpr ⟨r, h.reserve.keel, h.reserve.controller, rfl⟩⟩
  exact ⟨i, h.integration.keel, h.integration.controller,
    (Integration.refreshRateLimit_limiterId hrefresh).symm⟩

theorem FlowParties.configured {call : Cpi} (h : FlowParties ctx w c p i r)
    (hobeys : call.Obeys i.config ctx.controllerAuthority.pubkey ctx.authority.pubkey r) :
    call.Configured w ctx.controller.pubkey := by
  rw [← h.controller.authority] at hobeys
  exact .intro h.controller.keel h.integration.keel h.integration.controller h.reserve.keel
    h.reserve.controller
    (fun _ => ⟨_, p, h.permission.keel, h.permission.controller, h.permission.authority⟩) hobeys

/-- **A push or a pull is a deed.** -/
theorem FlowParties.deed (h : FlowParties ctx w c p i r)
    (hrefresh : i.refreshRateLimit w.clock = .ok refreshed)
    (hlogs : Logs (FlowEntry ctx refreshed r) w w₁)
    (hflow : FlowRun ctx.controller.pubkey ctx.integration.pubkey ctx.reserveA.pubkey w w₁ i i' r r'
      es)
    (hstate : i'.state.protocol = i.state.protocol) :
    ∃ es, Deed ctx.controller.pubkey w
      ((w₁.setKeel ctx.integration.pubkey (.integration i')).setKeel ctx.reserveA.pubkey
        (.reserve r')) es := by
  show ∃ es, Deed ctx.controller.pubkey w
    (w₁.saves [(ctx.integration.pubkey, .integration i'), (ctx.reserveA.pubkey, .reserve r')]) es
  refine Deed.of_saves hflow.grows.keel hlogs (h.books_in hrefresh) ?_ ?_
  · intro call hcall _
    rw [Integration.refreshRateLimit_config hrefresh] at hcall
    exact h.configured hcall
  · refine List.forall_mem_cons.mpr ⟨?_, List.forall_mem_singleton.mpr ?_⟩
    · exact .integration h.integration hflow.integration hstate
    · exact .reserve h.reserve hflow.reserve

end Flow

/-- Push. The vault of the reserve is what the books need of the invariant. -/
theorem processPush_deed (hs : Sound w) (hbank : TokenLaws → w.bank.WellFormed)
    (h : processPush tx accounts data w = .ok (u, w')) : Acted accounts w w' := by
  simp only [processPush, bind_ok, fromAccounts_ok, parseArgs_ok, save_ok, Prod.exists, and_assoc,
    exists_and_left, exists_eq_left', exists_const] at h
  obtain ⟨haccounts, ctx, hbind, args, -, c, p, refreshed, r, _, hload, i', r', w₁, hrun, -, -, -, -,
    rfl⟩ := h
  obtain ⟨rfl, i, hparties, hrefresh⟩ := loadForFlow_ok haccounts hbind hload
  have hlogs := (writes_pushProtocol hparties.reserve.seeds (hs.vault hparties.reserve.keel)
    hbank hrun).2
  obtain ⟨es, hrun, -⟩ := processPushProtocol_run hparties.reserve.seeds hrun
  have hrun := hrun.of_refresh hrefresh
  exact ⟨_, PushAccounts.names hbind,
    hparties.deed hrefresh hlogs hrun.flow hrun.state.stateStep.protocol_eq⟩

omit [Chain] in
theorem PulledState.protocol_eq {i : Integration} {args : PullArgs} {state : IntegrationState}
    (h : PulledState i args state) : state.protocol = i.state.protocol := by
  cases h with
  | drift hstate => exact Revalued.protocol_eq (.drift hstate)
  | kamino hstate => exact Revalued.protocol_eq (.kamino hstate)

/-- Pull, likewise. -/
theorem processPull_deed (hs : Sound w) (hbank : TokenLaws → w.bank.WellFormed)
    (h : processPull accounts data w = .ok (u, w')) : Acted accounts w w' := by
  simp only [processPull, bind_ok, fromAccounts_ok, parseArgs_ok, save_ok, Prod.exists, and_assoc,
    exists_and_left, exists_eq_left', exists_const] at h
  obtain ⟨haccounts, ctx, hbind, args, -, c, p, refreshed, r, _, hload, i', r', w₁, hrun, -, -, -, -,
    rfl⟩ := h
  obtain ⟨rfl, i, hparties, hrefresh⟩ := loadForFlow_ok haccounts hbind hload
  have hlogs := (writes_pullProtocol hparties.reserve.seeds (hs.vault hparties.reserve.keel)
    hbank hrun).2
  obtain ⟨es, hrun, -⟩ := processPullProtocol_run hparties.reserve.seeds hrun
  have hrun := hrun.of_refresh hrefresh
  exact ⟨_, PushAccounts.names hbind, hparties.deed hrefresh hlogs hrun.flow hrun.state.protocol_eq⟩

section Sync

variable {ctx : SyncIntegrationAccounts} {c : Controller} {i refreshed i' : Integration}

theorem SyncParties.books_in {rs : List (Pubkey × Reserve)} (h : SyncParties ctx w c i)
    (hrefresh : i.refreshRateLimit w.clock = .ok refreshed)
    (hrs : ∀ s ∈ rs, s.2.At w ctx.controller.pubkey s.1) : (ctx.books refreshed rs).In w := by
  refine ⟨⟨c, h.controller.keel⟩, List.forall_mem_singleton.mpr ?_, ?_⟩
  · exact ⟨i, h.integration.keel, h.integration.controller,
      (Integration.refreshRateLimit_limiterId hrefresh).symm⟩
  · intro s hs
    exact ⟨s.2, (hrs s hs).keel, (hrs s hs).controller, rfl⟩

end Sync

/-- What a sync signs for claims rewards, so nobody has to be allowed to. -/
theorem processSyncIntegration_deed (hbank : TokenLaws → w.bank.WellFormed)
    (h : processSyncIntegration accounts w = .ok (u, w')) : Acted accounts w w' := by
  simp only [processSyncIntegration, bind_ok, fromAccounts_ok, read_ok, ofExcept_ok,
    Controller.rejectHalted_ok, save_ok, and_assoc, exists_and_left, exists_eq_left',
    exists_const] at h
  obtain ⟨-, ctx, hbind, c, _, hcl, hfrozen, hlocked, i, _, hil, refreshed, hrefresh, i', w₁, hsync, -,
    -, rfl⟩ := h
  obtain ⟨rfl, hc⟩ := Controller.loadAndCheck_at hcl
  obtain ⟨rfl, hi⟩ := Integration.loadAndCheck_at hil
  have hparties : SyncParties ctx w c i := ⟨hc, hfrozen, hlocked, hi⟩
  unfold processSyncProtocol at hsync
  cases hconfig : refreshed.config with
  | Kamino =>
    simp only [hconfig, bind_ok, save_ok, pure_ok, Prod.exists, and_assoc, exists_and_left,
      exists_eq_left', exists_const] at hsync
    obtain ⟨r, _, hrl, _, r', w₂, hrun, -, -, rfl, rfl⟩ := hsync
    obtain ⟨rfl, hr⟩ := Reserve.loadAndCheck_at hrl
    have hlogs := (writes_syncKamino hr.seeds hbank hrun).2
    obtain ⟨es, hrun, -⟩ := processSyncKamino_run hr.seeds hrun
    have hrun := hrun.of_refresh hrefresh
    refine ⟨ctx.controller.pubkey, SyncIntegrationAccounts.names hbind, ?_⟩
    show ∃ es, Deed ctx.controller.pubkey w
      (w₂.saves [(ctx.reserve.pubkey, .reserve r'), (ctx.integration.pubkey, .integration _)]) es
    refine Deed.of_saves hrun.flow.grows.keel hlogs
      (hparties.books_in hrefresh (List.forall_mem_singleton.mpr hr)) ?_ ?_
    · intro call hcall _
      obtain ⟨hmoves, hobeys⟩ := hcall
      rw [Integration.refreshRateLimit_config hrefresh, ← hc.authority] at hobeys
      refine .intro hc.keel hi.keel hi.controller hr.keel hr.controller (fun hloud => ?_) hobeys
      rw [hmoves] at hloud
      cases hloud
    · refine List.forall_mem_cons.mpr ⟨.reserve hr hrun.flow.reserve,
        List.forall_mem_singleton.mpr (.integration hi hrun.flow.integration hrun.state.protocol_eq)⟩
  | Drift =>
    simp only [hconfig] at hsync
    have hlogs : Logs (Entry (ctx.books refreshed []) fun _ => False) w w₁ :=
      (writes_syncDrift rfl SyncIntegrationAccounts.mem_integrations hbank hsync).2
    obtain ⟨es, hrun, -⟩ := processSyncDrift_run hsync
    have hrun := hrun.of_refresh hrefresh
    refine ⟨ctx.controller.pubkey, SyncIntegrationAccounts.names hbind, ?_⟩
    show ∃ es, Deed ctx.controller.pubkey w
      (w₁.saves [(ctx.integration.pubkey, .integration i')]) es
    refine Deed.of_saves hrun.grows.keel hlogs
      (hparties.books_in hrefresh fun _ hmem => absurd hmem List.not_mem_nil)
      (fun _ hfalse => hfalse.elim) (List.forall_mem_singleton.mpr ?_)
    exact .integration hi hrun.integration hrun.state.protocol_eq
  | _ =>
    simp only [hconfig, fail_ok] at hsync

/-- A sync of a reserve that is saved afterwards. -/
theorem Reserve.syncBalance_deed {c c' : Controller} {r r' : Reserve} {vault : AccountMeta}
    {authority : Pubkey} (hbank : TokenLaws → w.bank.WellFormed)
    (hc : w.keel ck = some (.controller c)) (hr : r.At w ck k)
    (hsync : r.syncBalance vault authority ck c' w = .ok (r', w₁)) :
    ∃ es, Deed ck w (w₁.setKeel k (.reserve r')) es := by
  have hlogs : Logs (Entry ⟨ck, [], [(k, r)]⟩ fun _ => False) w w₁ :=
    (writes_syncBalance hr.seeds (List.mem_singleton_self _) hbank hsync).2
  obtain ⟨-, -, t, -, -, hsynced⟩ := Reserve.syncBalance_ok hr.seeds hsync
  obtain ⟨es, hsynced⟩ := hsynced.run
  show ∃ es, Deed ck w (w₁.saves [(k, .reserve r')]) es
  refine Deed.of_saves hsynced.grows.keel hlogs ⟨⟨c, hc⟩, ?_, ?_⟩ (fun _ hfalse => hfalse.elim)
    (List.forall_mem_singleton.mpr (.reserve hr hsynced.booked))
  · exact fun _ hmem => absurd hmem List.not_mem_nil
  · exact List.forall_mem_singleton.mpr ⟨r, hr.keel, hr.controller, rfl⟩

/-- SyncReserve, which anybody may call and which signs for nothing but its event. -/
theorem processSyncReserve_deed (hbank : TokenLaws → w.bank.WellFormed)
    (h : processSyncReserve accounts w = .ok (u, w')) : Acted accounts w w' := by
  simp only [processSyncReserve, bind_ok, fromAccounts_ok, Controller.rejectHalted_ok, save_ok,
    and_assoc, exists_and_left, exists_eq_left', exists_const] at h
  obtain ⟨-, ctx, hbind, c, _, hcl, -, -, r, _, hrl, r', w₁, hsync, -, -, rfl⟩ := h
  obtain ⟨rfl, hc⟩ := Controller.loadAndCheck_at hcl
  obtain ⟨rfl, hr⟩ := Reserve.loadAndCheck_at hrl
  exact ⟨_, SyncReserveAccounts.names hbind, Reserve.syncBalance_deed hbank hc.keel hr hsync⟩

end AlmController
