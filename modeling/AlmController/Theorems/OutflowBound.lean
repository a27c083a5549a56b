import AlmController.Simulator
import AlmController.Spec.Clocked
import AlmController.Spec.Metered
import Mathlib.Algebra.BigOperators.Ring.Finset
import Mathlib.Algebra.BigOperators.Ring.List

/-!
# The outflow limit

Over any run, what pushes and borrows take out of a vault is bounded by what the limiter
started with, what its slope earned since, and what flowed back in. The argument is one
potential: `RateLimit.credit`, read at the clock of each state. Time raises it by the
slope, inflows raise it by their amount, and every unit that leaves a vault under the
limit is paid for with it.

`outflow_bounded` counts what actually left the vault, not what was booked, so it relies on the
laws of the token programs (`TokenLaws`). It counts the falls of a vault in pushes and borrows,
and gives no credit for a rise in them. What only a sync finds is in no sum: a permanent delegate
is not limited by this program. And whoever sets another maximum gives the limiter other room, so
such a step on the account in question is excluded.
-/

namespace AlmController

open Prog

variable [Chain]

/-! ## Measuring a step -/

/-- The vault of the reserve at `k`. -/
def World.vault? (w : World) (k : Pubkey) : Option Pubkey :=
  match w.keel k with
  | some (.reserve r) => some r.vault
  | _ => none

end AlmController

namespace Step

open AlmController

variable [Chain]

/-- What a step added to the log. -/
def entries (s : Step World Move) : List LogEntry := s.after.log.drop s.before.log.length

/-- By how much the balance of a token account fell. -/
def fall (s : Step World Move) (k : Pubkey) : Nat :=
  s.before.bank.tokenAmount k - s.after.bank.tokenAmount k

/-- The vault that a Push or a Borrow meters on the account at `k`: its own, when `k` is
    a reserve that the instruction names, and that of the reserve it takes from, when `k`
    is the integration. -/
def meteredVault? (s : Step World Move) (k : Pubkey) : Option Pubkey :=
  match s.move with
  | .call _ accounts (discriminator :: _) =>
    -- Push is 10 and Borrow is 15; both name the integration and the reserve in one place
    if discriminator = 10 ∨ discriminator = 15 then
      if accounts[5]?.map AccountMeta.pubkey = some k then s.before.vault? k
      else if discriminator = 15 ∧ accounts[8]?.map AccountMeta.pubkey = some k then
        s.before.vault? k
      else if accounts[4]?.map AccountMeta.pubkey = some k then
        (accounts[5]?.map AccountMeta.pubkey).bind s.before.vault?
      else none
    else none
  | _ => none

/-- By how much a push or a borrow lowered the vault that the account at `k` meters. -/
def meteredFall (k : Pubkey) (s : Step World Move) : Nat :=
  ((s.meteredVault? k).map s.fall).getD 0

/-- What the step booked as an inflow on a limiter. -/
def received (id : LimiterId) (s : Step World Move) : Int := totalIn (flowsOf id s.entries)

/-- What the slope in force at `k` earned while time passed. -/
def earned (k : Pubkey) (s : Step World Move) : Int :=
  match s.before.limiter? k with
  | some (_, l) => l.rateLimitSlope.toNat * s.elapsed
  | none => 0

/-- The step sets no maximum on the account at `k`. -/
def KeepsMaxOutflow (k : Pubkey) (s : Step World Move) : Prop :=
  ∀ tx accounts data, s.move = .call tx accounts data →
    AlmController.KeepsMaxOutflow accounts data k

end Step

namespace AlmController

open Prog

variable [Chain]

/-! ## What is lost is booked -/

omit [Chain] in
/-- Outflows are counted, and inflows are not taken off them. -/
theorem authorizedOut_nonneg {flows : List Flow} : 0 ≤ authorizedOut flows := by
  refine List.sum_nonneg fun n hn => ?_
  obtain ⟨f, -, rfl⟩ := List.mem_map.mp hn
  rcases f with ⟨_ | _ | _, n⟩
  · exact le_rfl
  · exact Int.natCast_nonneg _
  · exact le_rfl

variable {tx : TxContext} {accounts : List AccountMeta} {data : List UInt8} {w w' : World}
  {es : List LogEntry} {k : Pubkey} {id : LimiterId} {l : RateLimit}

omit [Chain] in
theorem World.vault?_eq {r : Reserve} (h : w.keel k = some (.reserve r)) :
    w.vault? k = some r.vault := by
  unfold World.vault?
  rw [h]

omit [Chain] in
theorem World.limiterId_of_reserve {r : Reserve} (hl : w.limiter? k = some (id, l))
    (h : w.keel k = some (.reserve r)) : id = r.limiterId := by
  unfold World.limiter? at hl
  rw [h] at hl
  exact (Prod.mk.inj (Option.some.inj hl)).1.symm

omit [Chain] in
theorem World.limiterId_of_integration {i : Integration} (hl : w.limiter? k = some (id, l))
    (h : w.keel k = some (.integration i)) : id = i.limiterId := by
  unfold World.limiter? at hl
  rw [h] at hl
  exact (Prod.mk.inj (Option.some.inj hl)).1.symm

omit [Chain] in
/-- A fall that was booked on either account is booked on the one that meters it. -/
theorem fall_le_of_named {i : Integration} {r : Reserve} {ik rk : Pubkey} {n : Int}
    (hl : w.limiter? k = some (id, l)) (hi : w.keel ik = some (.integration i))
    (hr : w.keel rk = some (.reserve r)) (hne : k = ik ∨ k = rk)
    (hri : n ≤ authorizedOut (flowsOf r.limiterId es) ∧ n ≤ authorizedOut (flowsOf i.limiterId es)) :
    n ≤ authorizedOut (flowsOf id es) := by
  rcases hne with rfl | rfl
  · rw [World.limiterId_of_integration hl hi]
    exact hri.2
  · rw [World.limiterId_of_reserve hl hr]
    exact hri.1

/-- A Push takes from the vault of the reserve it names, and books that on both accounts. -/
theorem PushDone.fall_le {ctx : PushAccounts} {args : PushArgs} (laws : TokenLaws)
    (h : PushDone tx ctx args w w' es) (hl : w.limiter? k = some (id, l))
    (hk : k = ctx.integration.pubkey ∨ k = ctx.reserveA.pubkey) :
    ∃ vault, w.vault? ctx.reserveA.pubkey = some vault ∧
      (w.bank.tokenAmount vault : Int) - w'.bank.tokenAmount vault ≤
        authorizedOut (flowsOf id es) := by
  cases h with
  | done hparties hrun =>
    exact ⟨_, World.vault?_eq hparties.reserve.keel,
      fall_le_of_named hl hparties.integration.keel hparties.reserve.keel hk (hrun.metered laws)⟩

/-- A Borrow takes from the first vault. -/
theorem BorrowDone.fall_le {ctx : AtomicSwapBorrow} {amount : UInt64} (laws : TokenLaws)
    (h : BorrowDone tx ctx amount w w' es) (hl : w.limiter? k = some (id, l))
    (hk : k = ctx.integration.pubkey ∨ k = ctx.reserveA.pubkey) :
    ∃ vault, w.vault? ctx.reserveA.pubkey = some vault ∧
      (w.bank.tokenAmount vault : Int) - w'.bank.tokenAmount vault ≤
        authorizedOut (flowsOf id es) := by
  cases h with
  | @done c p i i' cfg idle lent rA rA' rB rB' w₁ es hparties hrun =>
    refine ⟨_, World.vault?_eq hparties.reserveA.keel,
      fall_le_of_named hl hparties.integration.keel hparties.reserveA.keel hk ?_⟩
    have hmoved := hrun.moved laws
    rw [hrun.metered.1, hrun.metered.2]
    simp only [World.setKeel_bank]
    omega

/-- A Borrow takes nothing from the second vault. -/
theorem BorrowDone.fall_eq_zero {ctx : AtomicSwapBorrow} {amount : UInt64} (laws : TokenLaws)
    (hs : SwapsDistinct w) (h : BorrowDone tx ctx amount w w' es) :
    ∃ vault, w.vault? ctx.reserveB.pubkey = some vault ∧
      w'.bank.tokenAmount vault = w.bank.tokenAmount vault := by
  cases h with
  | @done c p i i' cfg idle lent rA rA' rB rB' w₁ es hparties hrun =>
    refine ⟨_, World.vault?_eq hparties.reserveB.keel, hrun.kept laws ?_⟩
    rw [← hrun.inputToken, ← hrun.outputToken]
    exact hs hparties.integration.keel hrun.config

/-- The entries of an instruction are determined by the logs. -/
theorem Effect.entries_eq {es' : List LogEntry} (h : Effect tx accounts data w w' es')
    (hlog : w'.log = w.log ++ es) : es' = es := by
  have hlog' := h.log
  rw [hlog] at hlog'
  exact (List.append_cancel_left hlog').symm

/-- What the vault that is metered lost was booked under the limit. -/
theorem meteredVault_le {m : Move} {vault : Pubkey} (laws : TokenLaws) (hs : SwapsDistinct w)
    (h : Moves w m w') (hlog : w'.log = w.log ++ es) (hl : w.limiter? k = some (id, l))
    (hv : Step.meteredVault? ⟨w, m, w'⟩ k = some vault) :
    (w.bank.tokenAmount vault : Int) - w'.bank.tokenAmount vault ≤
      authorizedOut (flowsOf id es) := by
  -- others cannot call a Push or a Borrow, so only a call has a vault that is metered
  unfold Step.meteredVault? at hv
  cases h with
  | env => cases hv
  | tick => cases hv
  | call hsigners hrun =>
    rename_i tx accounts data
    rcases data with _ | ⟨discriminator, data⟩
    · cases hv
    simp only at hv
    split at hv
    case isFalse => cases hv
    rename_i hdiscriminator
    -- a Push first, and then a Borrow; each is matched with what it established
    rcases hdiscriminator with rfl | rfl
    · obtain ⟨ctx, args, es', hbind, -, hdone⟩ := processPush_done hrun
      have heffect : Effect tx accounts [10] w w' es' := hdone.effect
      obtain rfl := heffect.entries_eq hlog
      have haccs := PushAccounts.bind_eq hbind
      have h4 : accounts[4]?.map AccountMeta.pubkey = some ctx.integration.pubkey := by
        rw [haccs]
        rfl
      have h5 : accounts[5]?.map AccountMeta.pubkey = some ctx.reserveA.pubkey := by
        rw [haccs]
        rfl
      rw [h4, h5] at hv
      -- the account that meters is the reserve, or the integration that the Push names with it
      have hfall := fun hk => hdone.fall_le laws hl (k := k) hk
      split at hv
      · rename_i hk
        obtain rfl := Option.some.inj hk
        obtain ⟨_, hvault, hle⟩ := hfall (.inr rfl)
        rw [hvault] at hv
        exact Option.some.inj hv ▸ hle
      split at hv
      · rename_i hborrow
        exact absurd hborrow.1 (by decide)
      split at hv
      · rename_i hk
        obtain rfl := Option.some.inj hk
        obtain ⟨_, hvault, hle⟩ := hfall (.inl rfl)
        rw [Option.bind_some, hvault] at hv
        exact Option.some.inj hv ▸ hle
      · cases hv
    · obtain ⟨ctx, args, es', hbind, -, hdone⟩ := processAtomicSwapBorrow_done hrun
      have heffect : Effect tx accounts [15] w w' es' := hdone.effect
      obtain rfl := heffect.entries_eq hlog
      obtain ⟨rest, haccs⟩ := AtomicSwapBorrow.bind_eq hbind
      have h4 : accounts[4]?.map AccountMeta.pubkey = some ctx.integration.pubkey := by
        rw [haccs]
        rfl
      have h5 : accounts[5]?.map AccountMeta.pubkey = some ctx.reserveA.pubkey := by
        rw [haccs]
        rfl
      have h8 : accounts[8]?.map AccountMeta.pubkey = some ctx.reserveB.pubkey := by
        rw [haccs]
        rfl
      rw [h4, h5, h8] at hv
      have hfall := fun hk => hdone.fall_le laws hl (k := k) hk
      split at hv
      · rename_i hk
        obtain rfl := Option.some.inj hk
        obtain ⟨_, hvault, hle⟩ := hfall (.inr rfl)
        rw [hvault] at hv
        exact Option.some.inj hv ▸ hle
      split at hv
      · rename_i hk
        -- side B, which loses nothing
        obtain rfl := Option.some.inj hk.2
        obtain ⟨_, hvault, hkept⟩ := hdone.fall_eq_zero laws hs
        rw [hvault] at hv
        obtain rfl := Option.some.inj hv
        rw [hkept, sub_self]
        exact authorizedOut_nonneg
      split at hv
      · rename_i hk
        obtain rfl := Option.some.inj hk
        obtain ⟨_, hvault, hle⟩ := hfall (.inl rfl)
        rw [Option.bind_some, hvault] at hv
        exact Option.some.inj hv ▸ hle
      · cases hv

/-- **What a push or a borrow took from a metered vault was booked under the limit.** -/
theorem meteredFall_le {m : Move} (laws : TokenLaws) (hs : SwapsDistinct w)
    (h : Moves w m w') (hlog : w'.log = w.log ++ es) (hl : w.limiter? k = some (id, l)) :
    (Step.meteredFall k ⟨w, m, w'⟩ : Int) ≤ authorizedOut (flowsOf id es) := by
  have hnonneg := @authorizedOut_nonneg (flowsOf id es)
  -- a fall is a truncated difference, and what was booked is not negative
  unfold Step.meteredFall
  cases hv : Step.meteredVault? ⟨w, m, w'⟩ k with
  | none => exact hnonneg
  | some vault =>
    have hle := meteredVault_le laws hs h hlog hl hv
    show ((w.bank.tokenAmount vault - w'.bank.tokenAmount vault : Nat) : Int) ≤ _
    omega

/-! ## The potential -/

/-- What the limiter at `k` owes at the state's own time. -/
def World.creditAt (k : Pubkey) (w : World) : Int :=
  match w.limiter? k with
  | some (_, l) => l.credit w.clock.unixTimestamp.toInt
  | none => 0

/-- The account at `k` is metered under `id`, and was refreshed in the past. -/
structure MeteredAt (k : Pubkey) (id : LimiterId) (w : World) : Prop where
  sound : Sound w
  limiter : ∃ l, w.limiter? k = some (id, l) ∧ l.Timely w.clock.unixTimestamp.toInt

/-- A limiter is named after the place of its account. -/
theorem Sound.limiterId_address (hs : Sound w) (hl : w.limiter? k = some (id, l)) :
    id.address = some k := by
  unfold World.limiter? at hl
  obtain ⟨a, hk, ha⟩ := Option.bind_eq_some_iff.mp hl
  cases a with
  | reserve r =>
    obtain ⟨rfl, -⟩ := Prod.mk.inj (Option.some.inj ha)
    exact (hs.reserve hk).1
  | integration i =>
    obtain ⟨rfl, -⟩ := Prod.mk.inj (Option.some.inj ha)
    exact (hs.integration hk).1
  | _ => cases ha

omit [Chain] in
theorem World.creditAt_eq (hl : w.limiter? k = some (id, l)) :
    w.creditAt k = l.credit w.clock.unixTimestamp.toInt := by
  unfold World.creditAt
  rw [hl]

omit [Chain] in
theorem Step.entries_eq {m : Move} (hlog : w'.log = w.log ++ es) :
    Step.entries ⟨w, m, w'⟩ = es := by
  show w'.log.drop w.log.length = es
  rw [hlog, List.drop_left]

/-- **One step.** It keeps the account metered, and what it lets out is paid for. -/
theorem MeteredAt.step {m : Move} (laws : TokenLaws) (hm : MeteredAt k id w) (h : Moves w m w')
    (hforward : Step.Forward ⟨w, m, w'⟩) (hkeeps : Step.KeepsMaxOutflow k ⟨w, m, w'⟩) :
    MeteredAt k id w' ∧
      w'.creditAt k + SECONDS_PER_DAY * Step.meteredFall k ⟨w, m, w'⟩ ≤
        w.creditAt k + (Step.earned k ⟨w, m, w'⟩ +
          SECONDS_PER_DAY * Step.received id ⟨w, m, w'⟩) := by
  obtain ⟨l, hl, ht⟩ := hm.limiter
  -- by what the move is: others book nothing, time earns, and an instruction pays for what it takes
  have hsound := hm.sound.move h
  unfold Step.earned Step.received
  rw [show World.limiter? (Step.before ⟨w, m, w'⟩) k = some (id, l) from hl,
    World.creditAt_eq hl]
  cases m with
  | env bank =>
    obtain rfl : w' = w.setBank bank := by
      cases h
      rfl
    have hlog : (w.setBank bank).log = w.log ++ [] := (List.append_nil _).symm
    have hcredit : (w.setBank bank).creditAt k = l.credit w.clock.unixTimestamp.toInt :=
      World.creditAt_eq hl
    refine ⟨⟨hsound, l, hl, ht⟩, ?_⟩
    rw [Step.entries_eq hlog, hcredit]
    simp [Step.meteredFall, Step.meteredVault?, Step.elapsed]
  | tick clock =>
    obtain rfl : w' = { w with clock := clock } := by
      cases h
      rfl
    have hlog : World.log { w with clock := clock } = w.log ++ [] := (List.append_nil _).symm
    have hcredit : World.creditAt k { w with clock := clock } =
        l.credit clock.unixTimestamp.toInt := World.creditAt_eq hl
    have hle : w.clock.unixTimestamp.toInt ≤ clock.unixTimestamp.toInt := sub_nonneg.mp hforward
    refine ⟨⟨hsound, l, hl, ht.1, ht.2.trans hle⟩, ?_⟩
    rw [Step.entries_eq hlog, hcredit]
    simp only [Step.meteredFall, Step.meteredVault?, Step.elapsed, RateLimit.credit, flowsOf_nil,
      totalIn_nil, Option.map_none, Option.getD_none]
    push_cast
    linarith
  | call tx accounts data =>
    obtain ⟨es, heffect⟩ := h.effect
    have hlog := heffect.log
    -- what the vault lost was booked, and what was booked was paid for
    have hfall := meteredFall_le laws hm.sound.distinct h hlog hl
    obtain ⟨a, hk, ha⟩ := Option.bind_eq_some_iff.mp hl
    have hchange := heffect.changes k
    rw [hk] at hchange
    obtain ⟨a', l', hk', ha', hpays⟩ := hchange.meters hm.sound.distinct ha
      (hm.sound.limiterId_address hl) (hkeeps tx accounts data rfl)
    have hl' : w'.limiter? k = some (id, l') := by
      unfold World.limiter?
      rw [hk']
      exact ha'
    obtain ⟨ht', hcredit⟩ := hpays ht
    rw [Step.entries_eq hlog, World.creditAt_eq hl', heffect.clock]
    refine ⟨⟨hsound, l', hl', heffect.clock ▸ ht'⟩, ?_⟩
    simp only [Step.elapsed, heffect.clock, sub_self, mul_zero, zero_add]
    have hmul := mul_le_mul_of_nonneg_left hfall (Int.natCast_nonneg SECONDS_PER_DAY)
    linarith

omit [Chain] in
theorem RateLimit.credit_nonneg {now : Int} (ht : l.Timely now) : 0 ≤ l.credit now := by
  have hearned : 0 ≤ (l.rateLimitSlope.toNat : Int) * (now - l.lastRefreshTimestamp.toInt) :=
    mul_nonneg (Int.natCast_nonneg _) (sub_nonneg.mpr ht.2)
  unfold RateLimit.credit
  positivity

/-! ## The bound -/

/-- **Outflow limit.** Take any run of instructions, of other programs' actions and of
    passing time, in which the clock never goes back and nobody sets another maximum on
    the reserve or integration at `k`. What pushes and borrows took out of the vault it
    meters, less what was booked as flowing in, is at most what was available at the start
    and what the slopes in force have earned since the last refresh. A prefix of a run is
    a run. Outflows that only a sync found are no part of the sum, and never raise what is
    available. -/
theorem outflow_bounded (laws : TokenLaws) {w₀ w : World} {steps : List (Step World Move)}
    {k : Pubkey} {id : LimiterId} {l : RateLimit} (hreachable : Reachable w₀)
    (htrace : Trace Moves w₀ steps w) (hl : w₀.limiter? k = some (id, l))
    (ht : l.Timely w₀.clock.unixTimestamp.toInt) (hforward : ∀ s ∈ steps, s.Forward)
    (hkeeps : ∀ s ∈ steps, s.KeepsMaxOutflow k) :
    ((steps.map (Step.meteredFall k)).sum : Int) - (steps.map (Step.received id)).sum ≤
      l.rateLimitOutflowAmountAvailable.toNat +
        (l.rateLimitRemainder.toNat + (l.rateLimitSlope.toNat *
          (w₀.clock.unixTimestamp.toInt - l.lastRefreshTimestamp.toInt) +
            (steps.map (Step.earned k)).sum)) / SECONDS_PER_DAY ∧
    ∀ {clock n} {r r' : Reserve}, r.updateForOutflow clock n true = .ok r' →
      r'.rateLimitOutflowAmountAvailable ≤ r.rateLimitOutflowAmountAvailable := by
  refine ⟨?_, ?_⟩
  -- the potential goes down by what is taken and up by what is earned and received
  · have hrestricted := (htrace.restrict hforward).restrict fun s hs => hkeeps s hs
    have hstart : MeteredAt k id w₀ := ⟨hreachable.sound, l, hl, ht⟩
    have hpotential := hrestricted.potential (I := MeteredAt k id) (World.creditAt k)
      (fun s => SECONDS_PER_DAY * Step.meteredFall k s)
      (fun s => Step.earned k s + SECONDS_PER_DAY * Step.received id s)
      (fun hm hstep => (hm.step laws hstep.1.1 hstep.1.2 hstep.2).1)
      (fun hm hstep => (hm.step laws hstep.1.1 hstep.1.2 hstep.2).2) hstart
    -- what is owed in the end is not negative
    obtain ⟨l', hl', ht'⟩ := (hrestricted.invariant (I := MeteredAt k id)
      (fun hm hstep => (hm.step laws hstep.1.1 hstep.1.2 hstep.2).1) hstart).limiter
    have hend := RateLimit.credit_nonneg ht'
    have hcost : (steps.map fun s => (SECONDS_PER_DAY : Int) * Step.meteredFall k s).sum =
        SECONDS_PER_DAY * ((steps.map (Step.meteredFall k)).sum : Nat) := by
      rw [List.sum_map_mul_left, Nat.cast_list_sum, List.map_map]
      rfl
    rw [World.creditAt_eq hl, World.creditAt_eq hl', hcost, List.sum_map_add,
      List.sum_map_mul_left] at hpotential
    simp only [RateLimit.credit, SECONDS_PER_DAY] at hpotential hend ⊢
    omega
  · intro clock n r r' h
    simp only [Reserve.updateForOutflow, except_bind_ok, okOr_ok, except_pure_ok] at h
    obtain ⟨l', hl', _, -, rfl⟩ := h
    obtain ⟨-, available, rfl, hle, -⟩ := RateLimit.outflow_ok hl'
    exact UInt64.le_iff_toNat_le.mpr hle

end AlmController

namespace AlmController

open Simulator

/-- A day later, 50 tokens are lent again. -/
def dayLater (w : World) : World := { w with clock := ⟨300, 87400⟩ }

def lendAgain (w : World) : List (Step World Move) :=
  [⟨w, .tick ⟨300, 87400⟩, dayLater w⟩, borrowStep (dayLater w) 50]

/-- What a run took from the vault of the first reserve, what came back, and what was earned. -/
def outflowTotals (steps : List (Step World Move)) : Nat × Int × Int :=
  ((steps.map (Step.meteredFall (reserveKey mintA))).sum,
    (steps.map (Step.received (.reserve controllerKey mintA))).sum,
    (steps.map (Step.earned (reserveKey mintA))).sum)

/-- A swap that borrows 100 tokens, of which 40 come back, a day that earns 100, and a Borrow of
    50: of the 1000 that could be taken, 110 are gone. -/
theorem outflow_bounded_borrow :
    ∃ steps w, Trace Moves (swapWorld evenPrice) steps w ∧
      outflowTotals steps = (150, 40, 100 * 86400) ∧
    ∃ l, (swapWorld evenPrice).limiter? (reserveKey mintA) =
        some (.reserve controllerKey mintA, l) ∧
      ((steps.map (Step.meteredFall (reserveKey mintA))).sum : Int) -
        (steps.map (Step.received (.reserve controllerKey mintA))).sum ≤
        l.rateLimitOutflowAmountAvailable.toNat +
          (l.rateLimitRemainder.toNat + (l.rateLimitSlope.toNat *
            ((swapWorld evenPrice).clock.unixTimestamp.toInt - l.lastRefreshTimestamp.toInt) +
              (steps.map (Step.earned (reserveKey mintA))).sum)) / SECONDS_PER_DAY := by
  have hswap : ((swapWorld evenPrice).submit
      (swap (swapWorld evenPrice) 100 (sale 60 60))).map (fun result =>
        (outflowTotals (result.1 ++ lendAgain result.2),
          decide (∀ s ∈ result.1 ++ lendAgain result.2, 0 ≤ s.elapsed),
          ((dayLater result.2).call (swapContext 50) (borrow 50).accounts (borrow 50).data).isSome)) =
      some ((150, 40, 100 * 86400), true, true) := by decide +kernel
  obtain ⟨steps, w, hcommits, htotals⟩ := swap_commits_steps _ hswap
  obtain ⟨htotals, hruns⟩ := Prod.mk.inj htotals
  obtain ⟨hforward, hlends⟩ := Prod.mk.inj hruns
  have htrace : Trace Moves (swapWorld evenPrice) (steps ++ lendAgain w) (lent (dayLater w) 50) :=
    hcommits.1.append (.cons .tick (.single (borrowStep_moves hlends)))
  have hkeeps : ∀ s ∈ steps ++ lendAgain w, s.KeepsMaxOutflow (reserveKey mintA) := by
    intro s hs tx accounts data hmove
    -- nothing is called but Borrow and Repay
    have hdata : data.head? = some 15 ∨ data.head? = some 16 := by
      rcases List.mem_append.mp hs with hs | hs
      · obtain ⟨ix, hix, -, rfl⟩ := swap_calls hcommits s hs tx accounts data hmove
        simp only [List.mem_cons, List.not_mem_nil, or_false] at hix
        rcases hix with rfl | rfl
        · exact .inl rfl
        · exact .inr rfl
      · simp only [lendAgain, List.mem_cons, List.not_mem_nil, or_false] at hs
        rcases hs with rfl | rfl
        · cases hmove
        · cases hmove
          exact .inl rfl
    intro _
    constructor
    · rintro args rfl
      rcases hdata with hdata | hdata <;> exact absurd (Option.some.inj hdata) (by decide)
    · rintro args rfl
      rcases hdata with hdata | hdata <;> exact absurd (Option.some.inj hdata) (by decide)
  have hlimiter : (swapWorld evenPrice).limiter? (reserveKey mintA) =
      some (.reserve controllerKey mintA, swapReserve.toRateLimit) := by decide +kernel
  refine ⟨_, _, htrace, htotals, _, hlimiter, ?_⟩
  exact (outflow_bounded tokenLaws swapWorld_attained.reachable htrace hlimiter
    ⟨by decide +kernel, by decide +kernel⟩ (of_decide_eq_true hforward :) hkeeps).1

end AlmController
