import AlmController.Spec.Footprint
import AlmController.Spec.Laws

/-!
# Carrying an integration and a reserve through an instruction

Push, Pull and SyncIntegration hand an Integration and a Reserve to a protocol's own
processor, and get both back changed. `FlowRun` is what every such processor
establishes about the pair: its entries are about these two accounts, both limiters
took exactly the flows that were recorded, and the events tell the reserve's balance.

Runs compose (`FlowRun.trans`), so a processor's lemma is its sync, its invocations
and its settlement put together.
-/

namespace AlmController

open Prog

variable [Chain]

/-- What a flow's processor may speak about. -/
def flowScope (controller integration reserve : Pubkey) (i : Integration) (r : Reserve) : Scope where
  limiters := [i.limiterId, r.limiterId]
  reserves := [reserve]
  integrations := [integration]
  controllers := [controller]

/-- The pair went from `(i, r)` to `(i', r')` along these entries. -/
structure FlowRun (ck ik rk : Pubkey) (w w' : World) (i i' : Integration) (r r' : Reserve)
    (es : List LogEntry) : Prop where
  grows : Extends w w' es
  within : Within (flowScope ck ik rk i r) es
  integration : Integration.Booked w.clock (flowsOf i.limiterId es) i i'
  reserve : Reserve.Booked w.clock (flowsOf r.limiterId es) r r'
  ledger : ledger rk es = net (flowsOf r.limiterId es)

section Limiters

omit [Chain]

variable {i : Integration} {r : Reserve} {es : List LogEntry} {d : FlowDirection} {n : UInt64}

@[simp] theorem flowsOf_integration_cons_reserve :
    flowsOf i.limiterId (.flow r.limiterId d n :: es) = flowsOf i.limiterId es :=
  flowsOf_cons_flow_of_ne nofun

@[simp] theorem flowsOf_reserve_cons_integration :
    flowsOf r.limiterId (.flow i.limiterId d n :: es) = flowsOf r.limiterId es :=
  flowsOf_cons_flow_of_ne nofun

/-- The flow of one reserve is none of another's. -/
theorem Reserve.limiterId_ne {r' : Reserve} (h : r.mint ≠ r'.mint) : r.limiterId ≠ r'.limiterId :=
  fun heq => h (LimiterId.reserve.inj heq).2

@[simp] theorem Integration.limiterId_with_state {state : IntegrationState} :
    ({ i with state := state } : Integration).limiterId = i.limiterId := rfl

end Limiters

namespace FlowRun

variable {ck ik rk : Pubkey} {w w' w'' : World} {i i' i'' : Integration} {r r' r'' : Reserve}
  {es es' : List LogEntry}

theorem refl : FlowRun ck ik rk w w i i r r [] :=
  ⟨.refl, .nil, .refl, .refl, rfl⟩

theorem trans (h : FlowRun ck ik rk w w' i i' r r' es)
    (h' : FlowRun ck ik rk w' w'' i' i'' r' r'' es') :
    FlowRun ck ik rk w w'' i i'' r r'' (es ++ es') := by
  have hi := h.integration.limiterId_eq
  have hr := h.reserve.limiterId_eq
  have hwithin := h'.within
  have hinteg := h'.integration
  have hreserve := h'.reserve
  have hledger := h'.ledger
  rw [flowScope, hi, hr] at hwithin
  rw [hi, h.grows.clock] at hinteg
  rw [hr, h.grows.clock] at hreserve
  rw [hr] at hledger
  refine ⟨h.grows.trans h'.grows, h.within.append hwithin, ?_, ?_, ?_⟩
  · rw [flowsOf_append]
    exact h.integration.trans hinteg
  · rw [flowsOf_append]
    exact h.reserve.trans hreserve
  · rw [ledger_append, h.ledger, hledger, flowsOf_append, net_append]

/-- A part that books nothing on either account. -/
theorem of_silent (hgrows : Extends w w' es) (hwithin : Within (flowScope ck ik rk i r) es)
    (hi : flowsOf i.limiterId es = []) (hr : flowsOf r.limiterId es = [])
    (hledger : AlmController.ledger rk es = 0) : FlowRun ck ik rk w w' i i r r es := by
  refine ⟨hgrows, hwithin, ?_, ?_, ?_⟩
  · rw [hi]
    exact .refl
  · rw [hr]
    exact .refl
  · rw [hr, hledger]
    rfl

theorem of_sync (h : Reserve.SyncRun rk n w w' r r' es) : FlowRun ck ik rk w w' i i r r' es := by
  have hi : flowsOf i.limiterId es = [] := h.flowsOf_eq_nil nofun
  refine ⟨h.grows, h.within_of_mem (.tail _ (.head _)) (.head _), ?_, h.booked, h.ledger⟩
  rw [hi]
  exact .refl

/-- An invocation without a signature. -/
theorem of_invoke {call : Cpi} {signers : List Pubkey} {bank : Bank}
    (h : Chain.invoke w.clock call signers w.bank = some bank) :
    FlowRun ck ik rk w ((w.setBank bank).addLog (.cpi call none)) i i r r [.cpi call none] :=
  of_silent (Extends.refl.invoke h) (.singleton within_unsigned) rfl rfl rfl

/-- An invocation that the controller's authority signs. -/
theorem of_invokeSigned {call : Cpi} {signers : List Pubkey} {bank : Bank}
    (h : Chain.invoke w.clock call signers w.bank = some bank) :
    FlowRun ck ik rk w ((w.setBank bank).addLog (.cpi call (some ck))) i i r r
      [.cpi call (some ck)] :=
  of_silent (Extends.refl.invoke h) (.singleton (within_signed (List.mem_singleton_self _)))
    rfl rfl rfl

theorem of_state {state : IntegrationState} :
    FlowRun ck ik rk w w i { i with state := state } r r [] :=
  ⟨.refl, .nil, .of_state, .refl, rfl⟩

/-- **Settlement.** One flow on both accounts, told by an event on the reserve; the order
    of the entries differs from protocol to protocol. -/
theorem of_settlement {f : Flow} (hgrows : Extends w w' es)
    (hwithin : Within (flowScope ck ik rk i r) es)
    (hi : Integration.Booked w.clock [f] i i') (hr : Reserve.Booked w.clock [f] r r')
    (hflowi : flowsOf i.limiterId es = [f]) (hflowr : flowsOf r.limiterId es = [f])
    (hledger : AlmController.ledger rk es = f.signed) : FlowRun ck ik rk w w' i i' r r' es := by
  refine ⟨hgrows, hwithin, ?_, ?_, ?_⟩
  · rw [hflowi]
    exact hi
  · rw [hflowr]
    exact hr
  · rw [hflowr, hledger, net_cons, net_nil, add_zero]

end FlowRun

end AlmController
