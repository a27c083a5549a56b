import AlmController.Lib.Replay
import AlmController.Spec.Coherent
import AlmController.Spec.Destination
import AlmController.Spec.Metered

/-!
# Deeds

What an instruction did, told from the side of its controller. A `Deed` of the controller at `ck`
touched no account of another controller, left every account what it was, wrote only entries that
are `Authentic` of that controller, journaled every change of a setting, and founded integrations
only with configurations that fit their controllers.

`Effect` is about one account at a time, and forgets what the entries say; this is about the
entries. Both are proved of every instruction, and deeds compose, so what holds of a deed holds of
a run.
-/

namespace AlmController

open Prog

/-! ## What an account is -/

/-- The controller that an account at `k` belongs to. -/
def KeelAccount.controllerAt (k : Pubkey) : KeelAccount → Pubkey
  | .controller _ => k
  | .permission p => p.controller
  | .reserve r => r.controller
  | .integration i => i.controller
  | .oracle o => o.controller
  | .allocated _ => k

/-- Two values of one account: of a kind, and alike in all that makes it the account it is. -/
inductive KeelAccount.Same : KeelAccount → KeelAccount → Prop
  | controller {c c' : Controller} : c'.id = c.id → c'.authority = c.authority →
      Same (.controller c) (.controller c')
  | permission {p p' : Permission} : p'.controller = p.controller → p'.authority = p.authority →
      Same (.permission p) (.permission p')
  | reserve {r r' : Reserve} : r'.controller = r.controller → r'.mint = r.mint →
      r'.vault = r.vault → Same (.reserve r) (.reserve r')
  | integration {i i' : Integration} : i.SameIdentity i' → Same (.integration i) (.integration i')
  | oracle {o o' : Oracle} : o'.controller = o.controller → o'.nonce = o.nonce →
      o'.baseMint = o.baseMint → o'.quoteMint = o.quoteMint → Same (.oracle o) (.oracle o')
  | allocated {n : Nat} : Same (.allocated n) (.allocated n)

namespace KeelAccount.Same

variable {a a' a'' : KeelAccount} {k : Pubkey}

theorem refl : a.Same a := by
  cases a with
  | controller => exact .controller rfl rfl
  | permission => exact .permission rfl rfl
  | reserve => exact .reserve rfl rfl rfl
  | integration => exact .integration .refl
  | oracle => exact .oracle rfl rfl rfl rfl
  | allocated => exact .allocated

theorem trans (h : a.Same a') (h' : a'.Same a'') : a.Same a'' := by
  cases h with
  | controller hid hauthority =>
    cases h' with
    | controller hid' hauthority' => exact .controller (hid'.trans hid) (hauthority'.trans hauthority)
  | permission hck hauthority =>
    cases h' with
    | permission hck' hauthority' => exact .permission (hck'.trans hck) (hauthority'.trans hauthority)
  | reserve hck hmint hvault =>
    cases h' with
    | reserve hck' hmint' hvault' =>
      exact .reserve (hck'.trans hck) (hmint'.trans hmint) (hvault'.trans hvault)
  | integration hsame =>
    cases h' with
    | integration hsame' => exact .integration (hsame.trans hsame')
  | oracle hck hnonce hbase hquote =>
    cases h' with
    | oracle hck' hnonce' hbase' hquote' =>
      exact .oracle (hck'.trans hck) (hnonce'.trans hnonce) (hbase'.trans hbase)
        (hquote'.trans hquote)
  | allocated => exact h'

theorem controllerAt_eq (h : a.Same a') : a'.controllerAt k = a.controllerAt k := by
  cases h with
  | controller => rfl
  | permission hck => exact hck
  | reserve hck => exact hck
  | integration hsame => exact hsame.controller
  | oracle hck => exact hck
  | allocated => rfl

theorem limiterId_eq {id : LimiterId} {l : RateLimit} (h : a.Same a')
    (hl : a.limiter? = some (id, l)) : ∃ l', a'.limiter? = some (id, l') := by
  cases h with
  | controller => cases hl
  | permission => cases hl
  | @reserve r r' hck hmint =>
    obtain ⟨rfl, rfl⟩ := Prod.mk.inj (Option.some.inj hl)
    refine ⟨r'.toRateLimit, ?_⟩
    show some (r'.limiterId, r'.toRateLimit) = _
    rw [Reserve.limiterId, hck, hmint]
    rfl
  | @integration i i' hsame =>
    obtain ⟨rfl, rfl⟩ := Prod.mk.inj (Option.some.inj hl)
    refine ⟨i'.toRateLimit, ?_⟩
    show some (i'.limiterId, i'.toRateLimit) = _
    rw [Integration.limiterId, hsame.controller, hsame.hash]
    rfl
  | oracle => cases hl
  | allocated => cases hl

end KeelAccount.Same

/-! ## Settings -/

/-- The settings of a limiter, without how much of it is used. -/
def RateLimit.settings (l : RateLimit) : RateLimit where
  rateLimitSlope := l.rateLimitSlope
  rateLimitMaxOutflow := l.rateLimitMaxOutflow
  rateLimitOutflowAmountAvailable := 0
  rateLimitRemainder := 0
  lastRefreshTimestamp := 0
  lastRefreshSlot := 0

/-- **The settings of an account**: what is left when everything that operating it changes is
    wiped. A controller in the middle of a swap counts as Active, which it was and will be. -/
def KeelAccount.settings : KeelAccount → KeelAccount
  | .controller c =>
    .controller (if c.status = .AtomicSwapLock then { c with status := .Active } else c)
  | .permission p => .permission p
  | .reserve r => .reserve { r with toRateLimit := r.toRateLimit.settings, lastBalance := 0 }
  | .integration i =>
    .integration { i with toRateLimit := i.toRateLimit.settings, state := .Undefined 0 }
  | .oracle o => .oracle { o with value := 0, lastUpdateSlot := 0 }
  | .allocated n => .allocated n

/-- The settings of all accounts. -/
def World.settings (w : World) : KeelTable := fun k => (w.keel k).map KeelAccount.settings

theorem World.settings_congr {w w' : World} (h : w'.keel = w.keel) : w'.settings = w.settings := by
  unfold World.settings
  rw [h]

/-! ## The journal -/

/-- The update that an event tells, if it tells one. -/
def SvmAlmControllerEvent.update? : SvmAlmControllerEvent → Option (Update Pubkey KeelAccount)
  | .ControllerUpdate e =>
    some ⟨e.account, e.oldState.map .controller, e.newState.map .controller⟩
  | .PermissionUpdate e =>
    some ⟨e.account, e.oldState.map .permission, e.newState.map .permission⟩
  | .ReserveUpdate e => some ⟨e.account, e.oldState.map .reserve, e.newState.map .reserve⟩
  | .IntegrationUpdate e =>
    some ⟨e.account, e.oldState.map .integration, e.newState.map .integration⟩
  | .OracleUpdate e => some ⟨e.account, e.oldState.map .oracle, e.newState.map .oracle⟩
  | .AccountingEvent _ => none

/-- The controller that an event names. -/
def SvmAlmControllerEvent.controller : SvmAlmControllerEvent → Pubkey
  | .ControllerUpdate e => e.controller
  | .PermissionUpdate e => e.controller
  | .ReserveUpdate e => e.controller
  | .IntegrationUpdate e => e.controller
  | .OracleUpdate e => e.controller
  | .AccountingEvent e => e.controller

def LogEntry.update? : LogEntry → Option (Update Pubkey KeelAccount)
  | .event e => e.update?
  | _ => none

/-- The updates that entries tell, as they show in the settings. -/
def journal (es : List LogEntry) : List (Update Pubkey KeelAccount) :=
  es.filterMap fun e => e.update?.map (Update.map KeelAccount.settings)

theorem journal_append {es es' : List LogEntry} : journal (es ++ es') = journal es ++ journal es' :=
  List.filterMap_append

theorem journal_eq_nil {es : List LogEntry} (h : ∀ e ∈ es, e.update? = none) : journal es = [] := by
  refine List.filterMap_eq_nil_iff.mpr ?_
  intro e he
  rw [h e he]
  rfl

variable [Chain]

/-! ## Where an invocation goes -/

section Obeys

variable {r r' : Reserve} {authority : Pubkey}

omit [Chain] in
theorem KaminoLiquidityAccounts.Obeys.congr {accounts : KaminoLiquidityAccounts} {cfg : KaminoConfig}
    (hvault : r'.vault = r.vault) (h : accounts.Obeys cfg authority r) :
    accounts.Obeys cfg authority r' :=
  ⟨h.owner, h.obligation, h.market, h.reserve, h.mint, h.vault.trans hvault.symm⟩

theorem DriftTransfer.Obeys.congr {ix : DriftTransfer} {cfg : DriftConfig}
    (hvault : r'.vault = r.vault) (h : ix.Obeys cfg authority r) : ix.Obeys cfg authority r' :=
  ⟨h.signer, h.user, h.market, h.marketVault, h.vault.trans hvault.symm⟩

omit [Chain] in
theorem TransferChecked.Obeys.congr {ix : TransferChecked} {mint : Pubkey}
    (hvault : r'.vault = r.vault) (hmint : r'.mint = r.mint) (h : ix.Obeys mint authority r) :
    ix.Obeys mint authority r' :=
  ⟨h.vault.trans hvault.symm, h.named, hmint.trans h.own, h.signer⟩

/-- Of a reserve, only its vault and its mint matter. -/
theorem Cpi.Obeys.congr {config : IntegrationConfig} {caller : Pubkey} {call : Cpi}
    (hvault : r'.vault = r.vault) (hmint : r'.mint = r.mint)
    (h : call.Obeys config authority caller r) : call.Obeys config authority caller r' := by
  revert h
  unfold Cpi.Obeys
  split
  all_goals intro h
  · exact ⟨h.1.congr hvault hmint, h.2⟩
  · exact ⟨h.1.congr hvault hmint, h.2⟩
  · exact h.congr hvault hmint
  · exact ⟨h.1.trans hvault.symm, h.2.1, hmint.trans h.2.2.1, h.2.2.2⟩
  · exact h.congr hvault
  · exact h.congr hvault
  · exact h
  · exact h.congr hvault
  · exact ⟨h.1.congr hvault, h.2⟩
  · exact h

end Obeys

/-- Somebody with a permission of the controller at `ck`. -/
def Permitted (w : World) (ck authority : Pubkey) : Prop :=
  ∃ k p, w.keel k = some (.permission p) ∧ p.controller = ck ∧ p.authority = authority

/-- **The invocation goes where an integration of the controller says**, from or to the vault of
    one of its reserves. The caller matters to a push over LayerZero alone, which pays out to him,
    and then he is somebody with a permission of the controller. -/
inductive Cpi.Configured (w : World) (ck : Pubkey) (call : Cpi) : Prop
  | intro {c : Controller} {ik rk caller : Pubkey} {i : Integration} {r : Reserve} :
      w.keel ck = some (.controller c) → w.keel ik = some (.integration i) → i.controller = ck →
      w.keel rk = some (.reserve r) → r.controller = ck →
      (call.movesFunds = true → Permitted w ck caller) →
      call.Obeys i.config c.authority caller r → Configured w ck call

/-! ## Authentic entries -/

/-- **What entries of the controller at `ck` may say**: they tell of accounts that exist and are
    its own. -/
inductive LogEntry.Authentic (w : World) (ck : Pubkey) : LogEntry → Prop
  | unsigned {call : Cpi} : Authentic w ck (.cpi call none)
  | signed {call : Cpi} {c : Controller} : w.keel ck = some (.controller c) →
      (call.isQuiet = false → call.Configured w ck) → Authentic w ck (.cpi call (some ck))
  | flow {k : Pubkey} {a : KeelAccount} {id : LimiterId} {l : RateLimit} {d : FlowDirection}
      {n : UInt64} : w.keel k = some a → a.controllerAt k = ck → a.limiter? = some (id, l) →
      Authentic w ck (.flow id d n)
  | integration {k m : Pubkey} {i : Integration} {action : AccountingAction} {n : UInt64}
      {d : AccountingDirection} : w.keel k = some (.integration i) → i.controller = ck →
      Authentic w ck (.event (integrationEvent ck k m action n d))
  | reserve {k m : Pubkey} {r : Reserve} {action : AccountingAction} {n : UInt64}
      {d : AccountingDirection} : w.keel k = some (.reserve r) → r.controller = ck →
      (TokenLaws → m = r.mint) → Authentic w ck (.event (reserveEvent ck k m action n d))
  | update {e : SvmAlmControllerEvent} {u : Update Pubkey KeelAccount} {a new : KeelAccount} :
      e.update? = some u → e.controller = ck → u.new = some new → new.Same a →
      w.keel u.key = some a → a.controllerAt u.key = ck → Authentic w ck (.event e)

/-- Every account is still there, and still what it was. -/
def Retains (w w' : World) : Prop :=
  ∀ ⦃k a⦄, w.keel k = some a → ∃ a', w'.keel k = some a' ∧ a.Same a'

section Retains

variable {w w' w'' : World} {ck k : Pubkey} {c : Controller} {p : Permission} {i : Integration}
  {r : Reserve}

omit [Chain]

theorem Retains.of_eq (h : w'.keel = w.keel) : Retains w w' := by
  intro k a hk
  exact ⟨a, (congrFun h k).trans hk, .refl⟩

/-- Creating an account takes none away. -/
theorem Retains.of_fresh {a : KeelAccount} {e : LogEntry} (hfresh : w.keel k = none)
    (hkeel : w'.keel = w.keel) : Retains w ((w'.setKeel k a).addLog e) := by
  intro k' a' hk'
  have hne : k' ≠ k := by
    intro heq
    rw [heq, hfresh] at hk'
    cases hk'
  refine ⟨a', ?_, .refl⟩
  rw [← hk', ← hkeel]
  exact World.setKeel_keel_of_ne hne

theorem Retains.trans (h : Retains w w') (h' : Retains w' w'') : Retains w w'' := by
  intro k a hk
  obtain ⟨a', hk', hsame⟩ := h hk
  obtain ⟨a'', hk'', hsame'⟩ := h' hk'
  exact ⟨a'', hk'', hsame.trans hsame'⟩

theorem Retains.controller (h : Retains w w') (hk : w.keel k = some (.controller c)) :
    ∃ c', w'.keel k = some (.controller c') ∧ c'.authority = c.authority := by
  obtain ⟨a', hk', hsame⟩ := h hk
  cases hsame with
  | controller _ hauthority => exact ⟨_, hk', hauthority⟩

theorem Retains.integration (h : Retains w w') (hk : w.keel k = some (.integration i)) :
    ∃ i', w'.keel k = some (.integration i') ∧ i.SameIdentity i' := by
  obtain ⟨a', hk', hsame⟩ := h hk
  cases hsame with
  | integration hsame => exact ⟨_, hk', hsame⟩

theorem Retains.reserve (h : Retains w w') (hk : w.keel k = some (.reserve r)) :
    ∃ r', w'.keel k = some (.reserve r') ∧ r'.controller = r.controller ∧ r'.mint = r.mint ∧
      r'.vault = r.vault := by
  obtain ⟨a', hk', hsame⟩ := h hk
  cases hsame with
  | reserve hck hmint hvault => exact ⟨_, hk', hck, hmint, hvault⟩

theorem Retains.oracle {o : Oracle} (h : Retains w w') (hk : w.keel k = some (.oracle o)) :
    ∃ o', w'.keel k = some (.oracle o') ∧ o'.controller = o.controller ∧ o'.baseMint = o.baseMint ∧
      o'.quoteMint = o.quoteMint := by
  obtain ⟨a', hk', hsame⟩ := h hk
  cases hsame with
  | oracle hck _ hbase hquote => exact ⟨_, hk', hck, hbase, hquote⟩

theorem Retains.permitted {authority : Pubkey} (h : Retains w w') (hp : Permitted w ck authority) :
    Permitted w' ck authority := by
  obtain ⟨k, p, hk, hck, hauthority⟩ := hp
  obtain ⟨a', hk', hsame⟩ := h hk
  cases hsame with
  | permission hck' hauthority' => exact ⟨k, _, hk', hck'.trans hck, hauthority'.trans hauthority⟩

end Retains

variable {w w' w'' : World} {ck k : Pubkey} {es es' : List LogEntry}

theorem Cpi.Configured.mono {call : Cpi} (h : call.Configured w ck) (hw : Retains w w') :
    call.Configured w' ck := by
  cases h with
  | intro hc hi hick hr hrck hcaller hobeys =>
    obtain ⟨c', hc', hauthority⟩ := hw.controller hc
    obtain ⟨i', hi', hsame⟩ := hw.integration hi
    obtain ⟨r', hr', hrck', hmint, hvault⟩ := hw.reserve hr
    refine .intro hc' hi' (hsame.controller.trans hick) hr' (hrck'.trans hrck)
      (fun hmoves => hw.permitted (hcaller hmoves)) ?_
    rw [hsame.config, hauthority]
    exact hobeys.congr hvault hmint

/-- **The configuration of an integration fits the controller it belongs to.** -/
def Integration.WellConfigured (w : World) (i : Integration) : Prop :=
  ∃ c, w.keel i.controller = some (.controller c) ∧ i.config.Coherent w i.controller c.authority

theorem Integration.WellConfigured.mono {i i' : Integration} (h : i.WellConfigured w)
    (hsame : i.SameIdentity i') (hw : Retains w w') : i'.WellConfigured w' := by
  obtain ⟨c, hc, hcoherent⟩ := h
  obtain ⟨c', hc', hauthority⟩ := hw.controller hc
  refine ⟨c', ?_, ?_⟩
  · rw [hsame.controller]
    exact hc'
  · rw [hsame.controller, hsame.config, hauthority]
    exact hcoherent.mono fun _ _ ho => hw.oracle ho

/-- **What is authentic stays so**, as long as no account goes away. -/
theorem LogEntry.Authentic.mono {e : LogEntry} (h : e.Authentic w ck) (hw : Retains w w') :
    e.Authentic w' ck := by
  cases h with
  | unsigned => exact .unsigned
  | signed hc hconfigured =>
    obtain ⟨c', hc', -⟩ := hw.controller hc
    exact .signed hc' fun hquiet => (hconfigured hquiet).mono hw
  | flow hk hck hl =>
    obtain ⟨a', hk', hsame⟩ := hw hk
    obtain ⟨l', hl'⟩ := hsame.limiterId_eq hl
    exact .flow hk' (hsame.controllerAt_eq.trans hck) hl'
  | integration hk hck =>
    obtain ⟨i', hk', hsame⟩ := hw.integration hk
    exact .integration hk' (hsame.controller.trans hck)
  | reserve hk hck hmint =>
    obtain ⟨r', hk', hck', hmint', -⟩ := hw.reserve hk
    exact .reserve hk' (hck'.trans hck) fun laws => (hmint laws).trans hmint'.symm
  | update he hck hnew hsame hk hown =>
    obtain ⟨a', hk', hsame'⟩ := hw hk
    exact .update he hck hnew (hsame.trans hsame') hk' (hsame'.controllerAt_eq.trans hown)

/-! ## Deeds -/

/-- The address that an account is created at. -/
def KeelAccount.address : KeelAccount → Option Pubkey
  | .controller c => pdaOf c.seeds
  | .permission p => pdaOf p.seeds
  | .reserve r => pdaOf r.seeds
  | .integration i => pdaOf i.seeds
  | .oracle o => pdaOf o.seeds
  | .allocated _ => none

theorem KeelAccount.Same.address_eq {a a' : KeelAccount} (h : a.Same a') :
    a'.address = a.address := by
  cases h with
  | @controller c c' hid =>
    show pdaOf c'.seeds = pdaOf c.seeds
    rw [Controller.seeds, hid]
    rfl
  | @permission p p' hck hauthority =>
    show pdaOf p'.seeds = pdaOf p.seeds
    rw [Permission.seeds, hck, hauthority]
    rfl
  | @reserve r r' hck hmint =>
    show pdaOf r'.seeds = pdaOf r.seeds
    rw [Reserve.seeds, hck, hmint]
    rfl
  | @integration i i' hsame =>
    show pdaOf i'.seeds = pdaOf i.seeds
    rw [Integration.seeds, hsame.controller, hsame.hash]
    rfl
  | @oracle o o' _ hnonce =>
    show pdaOf o'.seeds = pdaOf o.seeds
    rw [Oracle.seeds, hnonce]
    rfl
  | allocated => rfl

/-- What a deed of the controller at `ck` made of the account at `k`: it left it alone, created it
    where it belongs, or changed it without making it another one. -/
inductive Touched (ck k : Pubkey) : Option KeelAccount → Option KeelAccount → Prop
  | same {a : Option KeelAccount} : Touched ck k a a
  | created {a : KeelAccount} : a.address = some k → a.controllerAt k = ck →
      Touched ck k none (some a)
  | changed {a a' : KeelAccount} : a.Same a' → a.controllerAt k = ck →
      Touched ck k (some a) (some a')

theorem Touched.trans {a a' a'' : Option KeelAccount} (h : Touched ck k a a')
    (h' : Touched ck k a' a'') : Touched ck k a a'' := by
  cases h with
  | same => exact h'
  | created haddress hck =>
    cases h' with
    | same => exact .created haddress hck
    | changed hsame =>
      exact .created (hsame.address_eq.trans haddress) (hsame.controllerAt_eq.trans hck)
  | changed hsame hck =>
    cases h' with
    | same => exact .changed hsame hck
    | changed hsame' => exact .changed (hsame.trans hsame') hck

/-- **What the controller at `ck` did**, and what it told of it. -/
structure Deed (ck : Pubkey) (w w' : World) (es : List LogEntry) : Prop where
  log : w'.log = w.log ++ es
  accounts : ∀ k, Touched ck k (w.keel k) (w'.keel k)
  entries : ∀ e ∈ es, e.Authentic w' ck
  covers : Covers w.settings (journal es) w'.settings
  founds : ∀ ⦃k i⦄, w.keel k = none → w'.keel k = some (.integration i) → i.WellConfigured w'

namespace Deed

theorem retains (h : Deed ck w w' es) : Retains w w' := by
  intro k a hk
  have htouched := h.accounts k
  rw [hk] at htouched
  generalize hk' : w'.keel k = a' at htouched
  cases htouched with
  | same => exact ⟨a, rfl, .refl⟩
  | changed hsame => exact ⟨_, rfl, hsame⟩

/-- Deeds compose. -/
theorem trans (h : Deed ck w w' es) (h' : Deed ck w' w'' es') : Deed ck w w'' (es ++ es') := by
  refine ⟨?_, fun k => (h.accounts k).trans (h'.accounts k), ?_, ?_, ?_⟩
  · rw [h'.log, h.log, List.append_assoc]
  · refine List.forall_mem_append.mpr ⟨?_, h'.entries⟩
    intro e he
    exact (h.entries e he).mono h'.retains
  · rw [journal_append]
    exact h.covers.trans h'.covers
  · intro k i hnone hk
    cases hk' : w'.keel k with
    | none => exact h'.founds hk' hk
    | some a =>
      obtain ⟨a', ha', hsame⟩ := h'.retains hk'
      rw [hk] at ha'
      obtain rfl := Option.some.inj ha'
      cases hsame with
      | integration hsame => exact (h.founds hnone hk').mono hsame h'.retains

end Deed

/-- The accounts name this key. -/
def Names (accounts : List AccountMeta) (k : Pubkey) : Prop := k ∈ accounts.map AccountMeta.pubkey

omit [Chain] in
theorem Names.of_mem {accounts : List AccountMeta} {account : AccountMeta} (h : account ∈ accounts) :
    Names accounts account.pubkey := List.mem_map_of_mem h

/-- **What was done is a deed of a controller that is named.** -/
def Acted (accounts : List AccountMeta) (w w' : World) : Prop :=
  ∃ ck, Names accounts ck ∧ ∃ es, Deed ck w w' es

/-- An update told is the whole change of its account, from one state to the other. -/
def TellsChanges (w w' : World) (es : List LogEntry) : Prop :=
  ∀ e ∈ es, ∀ u, e.update? = some u → u = ⟨u.key, w.keel u.key, w'.keel u.key⟩

/-- **What a managing instruction does** is such a deed, and tells its changes in full. -/
def ActedOpenly (accounts : List AccountMeta) (w w' : World) : Prop :=
  ∃ ck, Names accounts ck ∧ ∃ es, Deed ck w w' es ∧ TellsChanges w w' es

theorem ActedOpenly.acted {accounts : List AccountMeta} (h : ActedOpenly accounts w w') :
    Acted accounts w w' := by
  obtain ⟨ck, hnames, es, hdeed, -⟩ := h
  exact ⟨ck, hnames, es, hdeed⟩

end AlmController
