import AlmController.Spec.Accrual
import Mathlib.Data.List.Chain

/-!
# Refreshing on any schedule

Anyone may refresh a limiter at any time, by a sync. It makes no difference: after any
schedule of refreshes the limiter is what the last of them alone would have left.

`refresh_path_independent` is an equality of whole accounts, for any list of times in order, and
for both copies of the limiter. It needs a limiter that is valid and was last refreshed after the
epoch, which `limiter_never_panics` says of all that were reached. Only refreshes are compared: an
inflow or outflow in between can meet the cap at one time and not at another, and then the
schedule matters.
-/

namespace AlmController

open Prog

/-! ## The two accounts -/

variable {clock clock' : Clock} {l : RateLimit} {r r' : Reserve} {i i' : Integration}

/-- What a refresh on the way leaves may be refreshed later, with the same result. -/
theorem RateLimit.Refreshable.absorb {l' : RateLimit} (h : l.Refreshable clock)
    (hle : clock.NotAfter clock') (hrefresh : l.refreshRateLimit clock = .ok l') :
    l'.Refreshable clock' ∧ l'.refreshRateLimit clock' = l.refreshRateLimit clock' := by
  have hlast : l'.lastRefreshTimestamp = clock.unixTimestamp :=
    (refreshRateLimit_isRefreshed hrefresh).1
  refine ⟨⟨h.1.refresh h.2 hrefresh, ?_⟩, refresh_refresh h.1 h.2 hle hrefresh⟩
  unfold Timely
  rw [hlast]
  exact ⟨h.2.1.trans h.2.2, hle⟩

/-- A reserve is refreshed with its limiter, -/
theorem Reserve.refresh_ok (h : r.toRateLimit.Refreshable clock) :
    ∃ r', r.refreshRateLimit clock = .ok r' := by
  obtain ⟨l, hrefresh, -, -⟩ := RateLimit.refresh_valid h.1 h.2
  exact ⟨_, by rw [refreshRateLimit, hrefresh]; rfl⟩

/-- and what is refreshed on the way is absorbed. -/
theorem Reserve.refresh_absorb (h : r.toRateLimit.Refreshable clock)
    (hle : clock.NotAfter clock') (hrefresh : r.refreshRateLimit clock = .ok r') :
    r'.toRateLimit.Refreshable clock' ∧ r'.refreshRateLimit clock' = r.refreshRateLimit clock' := by
  simp only [refreshRateLimit, except_bind_ok, except_pure_ok] at hrefresh
  obtain ⟨l, hl, rfl⟩ := hrefresh
  obtain ⟨hlater, hsame⟩ := h.absorb hle hl
  refine ⟨hlater, ?_⟩
  simp only [refreshRateLimit, hsame]

/-- The same of an integration. -/
theorem Integration.refresh_ok (h : i.toRateLimit.Refreshable clock) :
    ∃ i', i.refreshRateLimit clock = .ok i' := by
  obtain ⟨l, hrefresh, -, -⟩ := RateLimit.refresh_valid h.1 h.2
  exact ⟨_, by rw [refreshRateLimit, hrefresh]; rfl⟩

/-- And its refreshes are absorbed too. -/
theorem Integration.refresh_absorb (h : i.toRateLimit.Refreshable clock)
    (hle : clock.NotAfter clock') (hrefresh : i.refreshRateLimit clock = .ok i') :
    i'.toRateLimit.Refreshable clock' ∧ i'.refreshRateLimit clock' = i.refreshRateLimit clock' := by
  simp only [refreshRateLimit, except_bind_ok, except_pure_ok] at hrefresh
  obtain ⟨l, hl, rfl⟩ := hrefresh
  obtain ⟨hlater, hsame⟩ := h.absorb hle hl
  refine ⟨hlater, ?_⟩
  simp only [refreshRateLimit, hsame]

/-! ## The schedule -/

/-- **Refreshing is path independent**, for reserves and for integrations. -/
theorem refresh_path_independent {clocks : List Clock} (hv : l.Valid)
    (hlast : 0 ≤ l.lastRefreshTimestamp.toInt)
    (hsorted : (l.lastRefreshTimestamp.toInt ::
      (clocks ++ [clock]).map (·.unixTimestamp.toInt)).IsChain (· ≤ ·)) :
    (∀ r : Reserve, r.toRateLimit = l →
      ∃ r', (clocks ++ [clock]).foldlM Reserve.refreshRateLimit r = .ok r' ∧
        r.refreshRateLimit clock = .ok r') ∧
    (∀ i : Integration, i.toRateLimit = l →
      ∃ i', (clocks ++ [clock]).foldlM Integration.refreshRateLimit i = .ok i' ∧
        i.refreshRateLimit clock = .ok i') := by
  -- each time is at or after all before it, so the limiter may be refreshed at any of them
  rw [List.isChain_iff_pairwise, List.pairwise_cons, List.pairwise_map] at hsorted
  obtain ⟨hfirst, hpairs⟩ := hsorted
  have hrefreshable : ∀ c ∈ clocks ++ [clock], l.Refreshable c := fun c hc =>
    ⟨hv, hlast, hfirst _ (List.mem_map_of_mem hc)⟩
  have hmem : clock ∈ clocks ++ [clock] := List.mem_append_right _ (List.mem_singleton_self _)
  constructor
  · rintro r rfl
    have hall := foldlM_absorb (f := Reserve.refreshRateLimit)
      (P := fun r c => r.toRateLimit.Refreshable c) Reserve.refresh_ok Reserve.refresh_absorb hpairs
      hrefreshable
    obtain ⟨r', h⟩ := Reserve.refresh_ok (hrefreshable clock hmem)
    exact ⟨r', hall.trans h, h⟩
  · rintro i rfl
    have hall := foldlM_absorb (f := Integration.refreshRateLimit)
      (P := fun i c => i.toRateLimit.Refreshable c) Integration.refresh_ok
      Integration.refresh_absorb hpairs hrefreshable
    obtain ⟨i', h⟩ := Integration.refresh_ok (hrefreshable clock hmem)
    exact ⟨i', hall.trans h, h⟩

/-- A fresh reserve, refreshed at one hour, at one hour again, and at two hours. -/
theorem refresh_path_independent_hourly :
    ∃ r', [⟨2, 3600⟩, ⟨3, 3600⟩, ⟨4, 7200⟩].foldlM Reserve.refreshRateLimit
        (.init ⟨1, 0⟩ 0 0 0 .Active 100 1000) = .ok r' ∧
      Reserve.refreshRateLimit (.init ⟨1, 0⟩ 0 0 0 .Active 100 1000) ⟨4, 7200⟩ = .ok r' :=
  (@refresh_path_independent ⟨4, 7200⟩ (.init ⟨1, 0⟩ 100 1000) [⟨2, 3600⟩, ⟨3, 3600⟩]
    RateLimit.init_valid (by decide) (by decide)).1 _ rfl

end AlmController
