import AlmController.Metering
import Mathlib.Algebra.BigOperators.Group.List.Basic

/-!
# Reading the log

An instruction leaves its trace in the log, and what is said about an instruction is
said about the entries it added. Four readings are enough:

* `tally p`: the signed sum of the accounting events that `p` selects, which is how an
  off-chain service reconstructs a balance; `ledger k` is the tally of reserve `k`, and
  `position k m` that of integration `k` in mint `m`;
* `flowsOf id`: the flows booked on one limiter, in order;
* `net`, `authorizedOut`, `totalIn`: what a list of flows adds up to;
* `signedCalls`: the invocations that carried a controller's signature.

Each of them is a homomorphism from lists of entries, so the simp lemmas below read a
log that was built entry by entry.
-/

namespace AlmController

/-! ## Accounting events -/

/-- The signed amount of an entry, when it is an accounting event that `p` selects. -/
def LogEntry.signedDelta (p : AccountingEvent → Bool) : LogEntry → Int
  | .event (.AccountingEvent e) => if p e then e.signedDelta else 0
  | _ => 0

/-- Credits minus debits of the accounting events that `p` selects. -/
def tally (p : AccountingEvent → Bool) (es : List LogEntry) : Int :=
  (es.map (LogEntry.signedDelta p)).sum

/-- The balance of a reserve as its accounting events tell it. -/
def ledger (reserve : Pubkey) : List LogEntry → Int :=
  tally fun e => e.reserve = some reserve

/-- The balance of an integration in one mint as its accounting events tell it. -/
def position (integration mint : Pubkey) : List LogEntry → Int :=
  tally fun e => e.integration = some integration ∧ e.mint = mint

/-! ## Flows -/

abbrev Flow := FlowDirection × UInt64

/-- The flow of an entry, when it was booked on this limiter. -/
def LogEntry.flow? (id : LimiterId) : LogEntry → Option Flow
  | .flow limiter direction amount => if limiter = id then some (direction, amount) else none
  | _ => none

/-- The flows booked on a limiter, in order. -/
def flowsOf (id : LimiterId) (es : List LogEntry) : List Flow := es.filterMap (LogEntry.flow? id)

/-- What a flow adds to a balance. -/
def Flow.signed : Flow → Int
  | (.inflow, n) => n.toNat
  | (.outflow _, n) => -n.toNat

/-- What a flow takes under the limit: an outflow that a sync merely found counts as
    nothing. -/
def Flow.authorized : Flow → Int
  | (.outflow false, n) => n.toNat
  | _ => 0

/-- What a flow gives back. -/
def Flow.received : Flow → Int
  | (.inflow, n) => n.toNat
  | _ => 0

def net (flows : List Flow) : Int := (flows.map Flow.signed).sum

def authorizedOut (flows : List Flow) : Int := (flows.map Flow.authorized).sum

def totalIn (flows : List Flow) : Int := (flows.map Flow.received).sum

/-! ## Signed invocations -/

def LogEntry.signedCall? : LogEntry → Option (Cpi × Pubkey)
  | .cpi call (some controller) => some (call, controller)
  | _ => none

/-- The invocations that a controller's authority signed, with that controller. -/
def signedCalls (es : List LogEntry) : List (Cpi × Pubkey) := es.filterMap LogEntry.signedCall?

/-! ## Reading a log entry by entry -/

section Cons

variable {p : AccountingEvent → Bool} {es es' : List LogEntry} {k : Pubkey} {id : LimiterId}

@[simp] theorem tally_nil : tally p [] = 0 := rfl

@[simp] theorem tally_append : tally p (es ++ es') = tally p es + tally p es' := by
  simp only [tally, List.map_append, List.sum_append]

@[simp] theorem tally_cons {e : LogEntry} : tally p (e :: es) = e.signedDelta p + tally p es := by
  simp only [tally, List.map_cons, List.sum_cons]

@[simp] theorem ledger_nil : ledger k [] = 0 := rfl

@[simp] theorem ledger_append : ledger k (es ++ es') = ledger k es + ledger k es' := tally_append

@[simp] theorem ledger_cons {e : LogEntry} :
    ledger k (e :: es) = e.signedDelta (fun e => e.reserve = some k) + ledger k es := tally_cons

@[simp] theorem position_nil {m : Pubkey} : position k m [] = 0 := rfl

@[simp] theorem position_append {m : Pubkey} :
    position k m (es ++ es') = position k m es + position k m es' := tally_append

@[simp] theorem position_cons {m : Pubkey} {e : LogEntry} :
    position k m (e :: es) =
      e.signedDelta (fun e => e.integration = some k ∧ e.mint = m) + position k m es := tally_cons

@[simp] theorem signedDelta_cpi {call : Cpi} {signedFor : Option Pubkey} :
    (LogEntry.cpi call signedFor).signedDelta p = 0 := rfl

@[simp] theorem signedDelta_flow {d : FlowDirection} {n : UInt64} :
    (LogEntry.flow id d n).signedDelta p = 0 := rfl

@[simp] theorem signedDelta_accounting {e : AccountingEvent} :
    (LogEntry.event (.AccountingEvent e)).signedDelta p = if p e then e.signedDelta else 0 := rfl

@[simp] theorem flowsOf_nil : flowsOf id [] = [] := rfl

@[simp] theorem flowsOf_append : flowsOf id (es ++ es') = flowsOf id es ++ flowsOf id es' := by
  simp only [flowsOf, List.filterMap_append]

@[simp] theorem flowsOf_cons_cpi {call : Cpi} {signedFor : Option Pubkey} :
    flowsOf id (.cpi call signedFor :: es) = flowsOf id es := rfl

@[simp] theorem flowsOf_cons_event {e : SvmAlmControllerEvent} :
    flowsOf id (.event e :: es) = flowsOf id es := rfl

@[simp] theorem flowsOf_cons_flow_self {d : FlowDirection} {n : UInt64} :
    flowsOf id (.flow id d n :: es) = (d, n) :: flowsOf id es := by
  simp [flowsOf, LogEntry.flow?]

theorem flowsOf_cons_flow_of_ne {id' : LimiterId} {d : FlowDirection} {n : UInt64}
    (h : id' ≠ id) : flowsOf id (.flow id' d n :: es) = flowsOf id es := by
  simp [flowsOf, LogEntry.flow?, h]

@[simp] theorem signedCalls_nil : signedCalls [] = [] := rfl

@[simp] theorem signedCalls_append :
    signedCalls (es ++ es') = signedCalls es ++ signedCalls es' := by
  simp only [signedCalls, List.filterMap_append]

@[simp] theorem signedCalls_cons_event {e : SvmAlmControllerEvent} :
    signedCalls (.event e :: es) = signedCalls es := rfl

@[simp] theorem signedCalls_cons_flow {d : FlowDirection} {n : UInt64} :
    signedCalls (.flow id d n :: es) = signedCalls es := rfl

@[simp] theorem signedCalls_cons_cpi_none {call : Cpi} :
    signedCalls (.cpi call none :: es) = signedCalls es := rfl

@[simp] theorem signedCalls_cons_cpi_some {call : Cpi} :
    signedCalls (.cpi call (some k) :: es) = (call, k) :: signedCalls es := rfl

end Cons

section Sums

variable {flows flows' : List Flow} {f : Flow}

@[simp] theorem net_nil : net [] = 0 := rfl

@[simp] theorem net_cons : net (f :: flows) = f.signed + net flows := by
  simp only [net, List.map_cons, List.sum_cons]

@[simp] theorem net_append : net (flows ++ flows') = net flows + net flows' := by
  simp only [net, List.map_append, List.sum_append]

@[simp] theorem authorizedOut_nil : authorizedOut [] = 0 := rfl

@[simp] theorem authorizedOut_cons :
    authorizedOut (f :: flows) = f.authorized + authorizedOut flows := by
  simp only [authorizedOut, List.map_cons, List.sum_cons]

@[simp] theorem authorizedOut_append :
    authorizedOut (flows ++ flows') = authorizedOut flows + authorizedOut flows' := by
  simp only [authorizedOut, List.map_append, List.sum_append]

@[simp] theorem totalIn_nil : totalIn [] = 0 := rfl

@[simp] theorem totalIn_cons : totalIn (f :: flows) = f.received + totalIn flows := by
  simp only [totalIn, List.map_cons, List.sum_cons]

@[simp] theorem totalIn_append :
    totalIn (flows ++ flows') = totalIn flows + totalIn flows' := by
  simp only [totalIn, List.map_append, List.sum_append]

end Sums

end AlmController
