import AlmController.Spec.Effect

/-!
# What always holds of the program's accounts

`Sound` relates the accounts of one state to each other: every reserve and integration
has a controller, a reserve's vault is the associated account of that controller's
authority, and an integration's state is of its configuration's protocol. Every state
that moves lead to is sound.

Identities never change (`Reserve.update_frame`, `Change.integration_frame`): an account stays
of its kind, and keeps whatever its address is derived from.
-/

namespace AlmController

open Prog

variable [Chain]

variable {tx : TxContext} {accounts : List AccountMeta} {data : List UInt8} {w w' : World}
  {es : List LogEntry} {k : Pubkey} {old new : Option KeelAccount}

/-! ## Identities -/

theorem Change.controller_frame {c : Controller}
    (h : Change tx accounts data w w' es k (some (.controller c)) new) :
    ∃ status, new = some (.controller { c with status := status }) := by
  cases h with
  | same => exact ⟨c.status, rfl⟩
  | setStatus => exact ⟨_, rfl⟩
  | lock => exact ⟨_, rfl⟩
  | unlock => exact ⟨_, rfl⟩

omit [Chain] in
/-- What ManageReserve leaves alone. -/
theorem Reserve.update_frame {r r' : Reserve} {clock : Clock} {status : Option ReserveStatus}
    {slope maxOutflow : Option UInt64} (h : r.update clock status slope maxOutflow = .ok r') :
    r'.controller = r.controller ∧ r'.mint = r.mint ∧ r'.vault = r.vault ∧
      r'.lastBalance = r.lastBalance := by
  simp only [update, except_bind_ok, except_pure_ok] at h
  obtain ⟨_, -, rfl⟩ := h
  exact ⟨rfl, rfl, rfl, rfl⟩

omit [Chain] in
/-- What ManageIntegration leaves alone. -/
theorem Integration.update_frame {i i' : Integration} {clock : Clock}
    {status : Option IntegrationStatus} {description : Option (ByteArr 32)}
    {slope maxOutflow : Option UInt64}
    (h : i.update clock status description slope maxOutflow = .ok i') :
    i'.controller = i.controller ∧ i'.hash = i.hash ∧ i'.config = i.config ∧
      i'.state = i.state := by
  simp only [update, except_bind_ok, except_pure_ok] at h
  obtain ⟨_, -, rfl⟩ := h
  exact ⟨rfl, rfl, rfl, rfl⟩

omit [Chain] in
theorem StateStep.protocol_eq {i : Integration} {state : IntegrationState}
    (h : StateStep tx k i state) : state.protocol = i.state.protocol := by
  cases h with
  | kept => rfl
  | revalued hstate =>
    cases hstate with
    | drift h =>
      rw [h]
      rfl
    | kamino h =>
      rw [h]
      rfl
  | inFlight hstate =>
    rw [hstate]
    rfl

/-- What of an integration no instruction changes. -/
structure Integration.SameIdentity (i i' : Integration) : Prop where
  controller : i'.controller = i.controller
  hash : i'.hash = i.hash
  config : i'.config = i.config
  protocol : i'.state.protocol = i.state.protocol

theorem Change.integration_frame {i : Integration}
    (h : Change tx accounts data w w' es k (some (.integration i)) new) :
    ∃ i', new = some (.integration i') ∧ i.SameIdentity i' := by
  cases h with
  | same => exact ⟨i, rfl, rfl, rfl, rfl, rfl⟩
  | manageIntegration _ _ _ _ _ hupdate =>
    obtain ⟨hcontroller, hhash, hconfig, hstate⟩ := Integration.update_frame hupdate
    exact ⟨_, rfl, hcontroller, hhash, hconfig, congrArg _ hstate⟩
  | bookIntegration _ _ _ hbooked hstate =>
    exact ⟨_, rfl, hbooked.controller_eq, hbooked.hash_eq, hbooked.config_eq, hstate.protocol_eq⟩
  | lendIntegration _ _ hbooked hidle _ hlent =>
    refine ⟨_, rfl, hbooked.controller_eq, hbooked.hash_eq, hbooked.config_eq, ?_⟩
    rw [hidle, hlent]
    rfl
  | repayIntegration _ _ _ hbooked hlent hreset =>
    refine ⟨_, rfl, hbooked.controller_eq, hbooked.hash_eq, hbooked.config_eq, ?_⟩
    rw [hlent, hreset]
    rfl
  | resetIntegration _ _ _ hstate =>
    refine ⟨_, rfl, rfl, rfl, rfl, ?_⟩
    rw [hstate]
    rfl

/-! ## Soundness -/

/-- **The accounts of the program fit together.** -/
structure Sound (w : World) : Prop where
  reserve : ∀ ⦃k r⦄, w.keel k = some (.reserve r) → pdaOf r.seeds = some k ∧
    ∃ c, w.keel r.controller = some (.controller c) ∧
      (TokenLaws → IsVaultOf r.vault c.authority r.mint)
  integration : ∀ ⦃k i⦄, w.keel k = some (.integration i) → pdaOf i.seeds = some k ∧
    i.hash = i.config.hash ∧ i.config.protocol ≠ none ∧ i.state.protocol = i.config.protocol ∧
      ∃ c, w.keel i.controller = some (.controller c)
  distinct : SwapsDistinct w

/-- A controller stays, with its authority. -/
theorem Effect.controller_mono (h : Effect tx accounts data w w' es) {c : Controller}
    (hk : w.keel k = some (.controller c)) :
    ∃ c', w'.keel k = some (.controller c') ∧ c'.authority = c.authority := by
  have hchange := h.changes k
  rw [hk] at hchange
  obtain ⟨status, hnew⟩ := hchange.controller_frame
  exact ⟨_, hnew, rfl⟩

omit [Chain] in
theorem Running.controller {ck : Pubkey} (h : Running w ck) :
    ∃ c, w.keel ck = some (.controller c) := by
  obtain ⟨c, hc, -⟩ := h
  exact ⟨c, hc⟩

/-- Where a reserve comes from. -/
theorem Change.reserve_origin {r' : Reserve}
    (h : Change tx accounts data w w' es k old (some (.reserve r'))) :
    (∃ r, old = some (.reserve r) ∧ r'.controller = r.controller ∧ r'.mint = r.mint ∧
      r'.vault = r.vault) ∨
    (old = none ∧ pdaOf r'.seeds = some k ∧ ∃ c, w.keel r'.controller = some (.controller c) ∧
      (TokenLaws → IsVaultOf r'.vault c.authority r'.mint)) := by
  cases h with
  | same => exact .inl ⟨r', rfl, rfl, rfl, rfl⟩
  | newReserve hseeds hkeel _ _ hvault => exact .inr ⟨rfl, hseeds, _, hkeel, hvault⟩
  | manageReserve _ _ _ _ _ hupdate =>
    obtain ⟨hcontroller, hmint, hvault, -⟩ := Reserve.update_frame hupdate
    exact .inl ⟨_, rfl, hcontroller, hmint, hvault⟩
  | bookReserve _ _ hbooked =>
    exact .inl ⟨_, rfl, hbooked.controller_eq, hbooked.mint_eq, hbooked.vault_eq⟩
  | swapReserve _ _ _ hbooked =>
    exact .inl ⟨_, rfl, hbooked.controller_eq, hbooked.mint_eq, hbooked.vault_eq⟩

/-- Where an integration comes from. -/
theorem Change.integration_origin {i' : Integration}
    (h : Change tx accounts data w w' es k old (some (.integration i'))) :
    (∃ i, old = some (.integration i) ∧ i.SameIdentity i') ∨
    (old = none ∧ pdaOf i'.seeds = some k ∧ Running w i'.controller ∧ i'.Fresh) := by
  have hframe : ∀ {i}, old = some (.integration i) →
      ∃ i, old = some (.integration i) ∧ i.SameIdentity i' := by
    intro i hold
    rw [hold] at h
    obtain ⟨_, hnew, hsame⟩ := h.integration_frame
    obtain rfl := KeelAccount.integration.inj (Option.some.inj hnew)
    exact ⟨i, hold, hsame⟩
  cases h with
  | newIntegration _ hseeds hrunning _ hfresh => exact .inr ⟨rfl, hseeds, hrunning, hfresh⟩
  | same => exact .inl (hframe rfl)
  | manageIntegration => exact .inl (hframe rfl)
  | bookIntegration => exact .inl (hframe rfl)
  | lendIntegration => exact .inl (hframe rfl)
  | repayIntegration => exact .inl (hframe rfl)
  | resetIntegration => exact .inl (hframe rfl)

/-- **One instruction keeps the accounts fitting together.** -/
theorem Sound.step (hs : Sound w) (h : Effect tx accounts data w w' es) : Sound w' := by
  refine ⟨?_, ?_, ?_⟩
  · intro k r' hk'
    have hchange := h.changes k
    rw [hk'] at hchange
    rcases hchange.reserve_origin with ⟨r, hk, hcontroller, hmint, hvault⟩ | ⟨-, hseeds, c, hc, hv⟩
    · obtain ⟨hseeds, c, hc, hv⟩ := hs.reserve hk
      obtain ⟨c', hc', hauthority⟩ := h.controller_mono hc
      rw [Reserve.seeds, hcontroller, hmint, hvault]
      refine ⟨hseeds, c', hc', ?_⟩
      rw [hauthority]
      exact hv
    · obtain ⟨c', hc', hauthority⟩ := h.controller_mono hc
      refine ⟨hseeds, c', hc', ?_⟩
      rw [hauthority]
      exact hv
  · intro k i' hk'
    have hchange := h.changes k
    rw [hk'] at hchange
    rcases hchange.integration_origin with ⟨i, hk, hsame⟩ | ⟨-, hseeds, hrunning, hfresh⟩
    · obtain ⟨hseeds, hhash, hconfigured, hprotocol, c, hc⟩ := hs.integration hk
      obtain ⟨c', hc', -⟩ := h.controller_mono hc
      rw [Integration.seeds, hsame.controller, hsame.hash, hsame.config, hsame.protocol]
      exact ⟨hseeds, hhash, hconfigured, hprotocol, c', hc'⟩
    · obtain ⟨c, hc⟩ := hrunning.controller
      obtain ⟨c', hc', -⟩ := h.controller_mono hc
      exact ⟨hseeds, hfresh.hash, hfresh.configured, hfresh.protocol, c', hc'⟩
  · intro k i' cfg hk' hcfg
    have hchange := h.changes k
    rw [hk'] at hchange
    rcases hchange.integration_origin with ⟨i, hk, hsame⟩ | ⟨-, -, -, hfresh⟩
    · exact hs.distinct hk (hsame.config.symm.trans hcfg)
    · exact hfresh.distinct cfg hcfg

/-! ## Moves -/

variable {m : Move}

/-- **A call that is a move has an effect.** -/
theorem Moves.effect (h : Moves w (.call tx accounts data) w') :
    ∃ es, Effect tx accounts data w w' es := by
  cases h with
  | call hsigners hrun => exact processInstruction_effect hsigners hrun

/-- What the other moves leave alone. -/
structure SameAccounts (w w' : World) : Prop where
  keel : w'.keel = w.keel
  log : w'.log = w.log

/-- A move is a call with its effect, or leaves the program's accounts alone. -/
theorem Moves.cases (h : Moves w m w') :
    (∃ tx accounts data es, m = .call tx accounts data ∧ Effect tx accounts data w w' es) ∨
      ((∀ tx accounts data, m ≠ .call tx accounts data) ∧ SameAccounts w w') := by
  cases h with
  | env => exact .inr ⟨nofun, rfl, rfl⟩
  | tick => exact .inr ⟨nofun, rfl, rfl⟩
  | call hsigners hrun =>
    obtain ⟨es, heffect⟩ := processInstruction_effect hsigners hrun
    exact .inl ⟨_, _, _, es, rfl, heffect⟩

theorem Sound.move (hs : Sound w) (h : Moves w m w') : Sound w' := by
  rcases h.cases with ⟨tx, accounts, data, es, -, heffect⟩ | ⟨-, hsame⟩
  · exact hs.step heffect
  · obtain ⟨hr, hi, hd⟩ := hs
    unfold SwapsDistinct at hd
    simp only [← hsame.keel] at hr hi hd
    exact ⟨hr, hi, hd⟩

theorem Sound.genesis (h : World.Genesis w) : Sound w := by
  refine ⟨?_, ?_, ?_⟩
  · intro k r hk
    rw [h.keel k] at hk
    cases hk
  · intro k i hk
    rw [h.keel k] at hk
    cases hk
  · intro k i cfg hk
    rw [h.keel k] at hk
    cases hk

/-- **Every state that moves lead to is sound.** -/
theorem Reachable.sound (h : Reachable w) : Sound w := by
  obtain ⟨w₀, steps, hgenesis, htrace⟩ := h
  exact htrace.invariant (fun hs hstep => hs.move hstep) (.genesis hgenesis)

theorem Reachable.trace {steps : List (Step World Move)} (h : Reachable w)
    (htrace : Trace Moves w steps w') : Reachable w' := by
  obtain ⟨w₀, steps₀, hgenesis, htrace₀⟩ := h
  exact ⟨w₀, _, hgenesis, htrace₀.append htrace⟩

/-- A controller stays where it is. -/
theorem Moves.controller_mono (h : Moves w m w') {c : Controller}
    (hc : w.keel k = some (.controller c)) : ∃ c', w'.keel k = some (.controller c') := by
  rcases h.cases with ⟨tx, accounts, data, es, -, heffect⟩ | ⟨-, hsame⟩
  · obtain ⟨c', hc', -⟩ := heffect.controller_mono hc
    exact ⟨c', hc'⟩
  · exact ⟨c, (congrFun hsame.keel k).trans hc⟩

/-- No run makes a controller anything else. -/
theorem Moves.controller_run {steps : List (Step World Move)} {c : Controller}
    (h : Trace Moves w steps w') (hc : w.keel k = some (.controller c)) :
    ∃ c', w'.keel k = some (.controller c') := by
  refine h.invariant (I := fun w => ∃ c', w.keel k = some (.controller c')) ?_ ⟨c, hc⟩
  rintro w₁ m w₂ ⟨c₁, hc₁⟩ hmove
  exact hmove.controller_mono hc₁

omit [Chain] in
theorem Integration.SameIdentity.refl {i : Integration} : i.SameIdentity i := ⟨rfl, rfl, rfl, rfl⟩

omit [Chain] in
theorem Integration.SameIdentity.trans {i i' i'' : Integration} (h : i.SameIdentity i')
    (h' : i'.SameIdentity i'') : i.SameIdentity i'' :=
  ⟨h'.controller.trans h.controller, h'.hash.trans h.hash, h'.config.trans h.config,
    h'.protocol.trans h.protocol⟩

/-- No run changes what an integration is. -/
theorem Moves.integration_frame_run {steps : List (Step World Move)} {i : Integration}
    (h : Trace Moves w steps w') (hi : w.keel k = some (.integration i)) :
    ∃ i', w'.keel k = some (.integration i') ∧ i.SameIdentity i' := by
  refine h.invariant (I := fun w => ∃ i', w.keel k = some (.integration i') ∧ i.SameIdentity i')
    ?_ ⟨i, hi, .refl⟩
  intro w₁ m w₂ ⟨i₁, hi₁, hsame₁⟩ hmove
  rcases hmove.cases with ⟨_, _, _, _, -, heffect⟩ | ⟨-, hsame⟩
  · have hchange := heffect.changes k
    rw [hi₁] at hchange
    obtain ⟨i₂, hi₂, hsame₂⟩ := hchange.integration_frame
    exact ⟨i₂, hi₂, hsame₁.trans hsame₂⟩
  · exact ⟨i₁, by rw [hsame.keel, hi₁], hsame₁⟩

/-- Under the laws, accounts at associated addresses stay of their mint. -/
theorem Moves.wellFormed (laws : TokenLaws) (hbank : w.bank.WellFormed) (h : Moves w m w') :
    w'.bank.WellFormed := by
  cases h with
  | env hnew => exact hnew
  | tick => exact hbank
  | call hsigners hrun =>
    obtain ⟨es, heffect⟩ := processInstruction_effect hsigners hrun
    exact heffect.bank.invariant (fun hbank hinvoke => laws.wellFormed hinvoke hbank) hbank

theorem Reachable.wellFormed (h : Reachable w) (laws : TokenLaws) : w.bank.WellFormed := by
  obtain ⟨w₀, steps, hgenesis, htrace⟩ := h
  exact htrace.invariant (I := fun w => w.bank.WellFormed)
    (fun hbank hstep => Moves.wellFormed laws hbank hstep) hgenesis.bank

end AlmController
