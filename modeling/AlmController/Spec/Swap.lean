import AlmController.Spec.Change

/-!
# Effects: swaps

Borrow and Repay each change four accounts: the controller, the integration and two
reserves. A swap of a token with itself would have one reserve for both, and saves it
twice; InitializeIntegration refuses to configure one.
-/

namespace AlmController

open Prog

variable [Chain]

variable {tx : TxContext} {accounts : List AccountMeta} {data : List UInt8} {w w' w₁ : World}
  {u : Unit} {es : List LogEntry} {ck ik kA kB authority : Pubkey} {c c' : Controller}
  {i i' : Integration} {cfg : AtomicSwapConfig} {rA rA' rB rB' : Reserve}

/-! ## Four accounts -/

/-- The four accounts of a swap, before. -/
structure SwapAccounts (w : World) (ck ik kA kB authority : Pubkey) (c : Controller)
    (i : Integration) (cfg : AtomicSwapConfig) (rA rB : Reserve) : Prop where
  controller : c.At w ck authority
  integration : i.At w ck ik
  config : i.config = .AtomicSwap cfg
  reserveA : rA.At w ck kA
  reserveB : rB.At w ck kB
  inputToken : cfg.inputToken = rA.mint
  outputToken : cfg.outputToken = rB.mint

/-- And after. Of two reserves at one key the second was saved last. -/
structure SwapSaved (w w' : World) (ck ik kA kB : Pubkey) (c' : Controller) (i' : Integration)
    (rA' rB' : Reserve) : Prop where
  controller : w'.keel ck = some (.controller c')
  integration : w'.keel ik = some (.integration i')
  reserveA : kA ≠ kB → w'.keel kA = some (.reserve rA')
  reserveB : w'.keel kB = some (.reserve rB')
  frame : ∀ k, k ∉ [ck, ik, kA, kB] → w'.keel k = w.keel k

namespace SwapAccounts

/-- The configuration tells the reserves apart. -/
theorem mint_ne (h : SwapAccounts w ck ik kA kB authority c i cfg rA rB)
    (hdistinct : SwapsDistinct w) : rA.mint ≠ rB.mint := by
  rw [← h.inputToken, ← h.outputToken]
  exact hdistinct h.integration.keel h.config

/-- Two reserves at one key are one reserve. -/
theorem reserve_eq (h : SwapAccounts w ck ik kA kB authority c i cfg rA rB) (hk : kA = kB) :
    rA = rB := by
  have hkeel := h.reserveA.keel
  rw [hk, h.reserveB.keel] at hkeel
  exact (KeelAccount.reserve.inj (Option.some.inj hkeel)).symm

theorem key_ne (h : SwapAccounts w ck ik kA kB authority c i cfg rA rB)
    (hmint : rA.mint ≠ rB.mint) : kA ≠ kB :=
  fun hk => hmint (congrArg Reserve.mint (h.reserve_eq hk))

/-- As Borrow saves them. -/
theorem saved_borrow (h : SwapAccounts w ck ik kA kB authority c i cfg rA rB)
    (hkeel : w₁.keel = w.keel) :
    SwapSaved w ((((w₁.setKeel kA (.reserve rA')).setKeel kB (.reserve rB')).setKeel ik
      (.integration i')).setKeel ck (.controller c')) ck ik kA kB c' i' rA' rB' := by
  have hic := World.key_ne h.integration.keel h.controller.keel nofun
  have hAi := World.key_ne h.reserveA.keel h.integration.keel nofun
  have hAc := World.key_ne h.reserveA.keel h.controller.keel nofun
  have hBi := World.key_ne h.reserveB.keel h.integration.keel nofun
  have hBc := World.key_ne h.reserveB.keel h.controller.keel nofun
  refine ⟨World.setKeel_keel_self, ?_, ?_, ?_, ?_⟩
  · rw [World.setKeel_keel_of_ne hic, World.setKeel_keel_self]
  · intro hne
    rw [World.setKeel_keel_of_ne hAc, World.setKeel_keel_of_ne hAi, World.setKeel_keel_of_ne hne,
      World.setKeel_keel_self]
  · rw [World.setKeel_keel_of_ne hBc, World.setKeel_keel_of_ne hBi, World.setKeel_keel_self]
  · intro k hk
    simp only [List.mem_cons, List.not_mem_nil, or_false, not_or] at hk
    obtain ⟨hc, hi, hA, hB⟩ := hk
    rw [World.setKeel_keel_of_ne hc, World.setKeel_keel_of_ne hi, World.setKeel_keel_of_ne hB,
      World.setKeel_keel_of_ne hA, hkeel]

/-- As Repay saves them. -/
theorem saved_repay (h : SwapAccounts w ck ik kA kB authority c i cfg rA rB)
    (hkeel : w₁.keel = w.keel) :
    SwapSaved w ((((w₁.setKeel ck (.controller c')).setKeel kA (.reserve rA')).setKeel kB
      (.reserve rB')).setKeel ik (.integration i')) ck ik kA kB c' i' rA' rB' := by
  have hic := World.key_ne h.integration.keel h.controller.keel nofun
  have hAc := World.key_ne h.reserveA.keel h.controller.keel nofun
  have hBc := World.key_ne h.reserveB.keel h.controller.keel nofun
  have hsaved : SwapSaved w ((((w₁.setKeel kA (.reserve rA')).setKeel kB (.reserve rB')).setKeel ik
      (.integration i')).setKeel ck (.controller c')) ck ik kA kB c' i' rA' rB' :=
    h.saved_borrow hkeel
  rwa [World.setKeel_comm hic, World.setKeel_comm hBc, World.setKeel_comm hAc] at hsaved

end SwapAccounts

/-- What a swap's instruction may speak about. -/
def swapScope (controllers : List Pubkey) (kA kB : Pubkey) (i : Integration) (rA rB : Reserve) :
    Scope where
  limiters := [i.limiterId, rA.limiterId, rB.limiterId]
  reserves := [kA, kB]
  controllers := controllers

/-- **The effect of a swap's instruction**, from what it did to the controller, to the
    integration, and to the reserves. -/
theorem SwapSaved.effect {controllers : List Pubkey}
    (hsaved : SwapSaved w w' ck ik kA kB c' i' rA' rB')
    (haccounts : SwapAccounts w ck ik kA kB authority c i cfg rA rB) (hgrew : Grows w w' es)
    (hwithin : Within (swapScope controllers kA kB i rA rB) es)
    (hrunning : ∀ k ∈ controllers, Running w k) (hfunds : MovesNone es ∨ MayMove data)
    (hstatus : c.isActive ∨ c.isAtomicSwapLocked) 
    (hlock : w'.keel ck = some (.controller c') → TurnsLock data w w' ck)
    (hcontroller : Silent ck es → TurnsLock data w w' ck →
      Change tx accounts data w w' es ck (some (.controller c)) (some (.controller c')))
    (hintegration : TurnsLock data w w' ck →
      Change tx accounts data w w' es ik (some (.integration i)) (some (.integration i')))
    (hreserveA : ∃ flows, Reserve.Booked w.clock flows rA rA' ∧
      (rA.mint ≠ rB.mint → flows = flowsOf rA.limiterId es))
    (hreserveB : ∃ flows, Reserve.Booked w.clock flows rB rB' ∧
      (rA.mint ≠ rB.mint → flows = flowsOf rB.limiterId es)) :
    Effect tx accounts data w w' es := by
  have hturns := hlock hsaved.controller
  have hcA := World.key_ne haccounts.controller.keel haccounts.reserveA.keel nofun
  have hcB := World.key_ne haccounts.controller.keel haccounts.reserveB.keel nofun
  have hci := World.key_ne haccounts.controller.keel haccounts.integration.keel nofun
  have haddress : ∀ id ∈ (swapScope controllers kA kB i rA rB).limiters,
      id.address = some ik ∨ id.address = some kA ∨ id.address = some kB := by
    refine List.forall_mem_cons.mpr ⟨.inl haccounts.integration.seeds,
      List.forall_mem_cons.mpr ⟨.inr (.inl haccounts.reserveA.seeds),
        List.forall_mem_singleton.mpr (.inr (.inr haccounts.reserveB.seeds))⟩⟩
  refine .of_footprint [ck, ik, kA, kB] hgrew hwithin ?_ ?_ (List.nil_subset _) hrunning hfunds
    hsaved.frame ?_
  · intro id hid
    rcases haddress id hid with h | h | h
    · exact ⟨ik, by simp, h⟩
    · exact ⟨kA, by simp, h⟩
    · exact ⟨kB, by simp, h⟩
  · exact fun k hk => .tail _ (.tail _ hk)
  refine List.forall_mem_cons.mpr ⟨?_, List.forall_mem_cons.mpr ⟨?_,
    List.forall_mem_cons.mpr ⟨?_, List.forall_mem_singleton.mpr ?_⟩⟩⟩
  · rw [haccounts.controller.keel, hsaved.controller]
    refine hcontroller (hwithin.silent ?_ ?_ List.not_mem_nil) hturns
    · intro id hid heq
      rcases haddress id hid with h | h | h
      · exact hci (Option.some.inj (heq.symm.trans h))
      · exact hcA (Option.some.inj (heq.symm.trans h))
      · exact hcB (Option.some.inj (heq.symm.trans h))
    · intro hmem
      rcases List.mem_cons.mp hmem with h | h
      · exact hcA h
      · exact hcB (List.mem_singleton.mp h)
  · rw [haccounts.integration.keel, hsaved.integration]
    exact hintegration hturns
  all_goals
    have hA := haccounts.reserveA
    have hB := haccounts.reserveB
  -- at one key for both reserves the second is what was saved
  · by_cases hk : kA = kB
    · subst hk
      obtain ⟨flows, hbooked, hflows⟩ := hreserveB
      rw [hB.keel, hsaved.reserveB]
      exact .swapReserve hB.seeds (hB.controller ▸ haccounts.controller.keel) hstatus hbooked
        (fun hdistinct => hflows (haccounts.mint_ne hdistinct)) (hB.controller ▸ hturns)
    · obtain ⟨flows, hbooked, hflows⟩ := hreserveA
      rw [hA.keel, hsaved.reserveA hk]
      exact .swapReserve hA.seeds (hA.controller ▸ haccounts.controller.keel) hstatus hbooked
        (fun hdistinct => hflows (haccounts.mint_ne hdistinct)) (hA.controller ▸ hturns)
  · obtain ⟨flows, hbooked, hflows⟩ := hreserveB
    rw [hB.keel, hsaved.reserveB]
    exact .swapReserve hB.seeds (hB.controller ▸ haccounts.controller.keel) hstatus hbooked
      (fun hdistinct => hflows (haccounts.mint_ne hdistinct)) (hB.controller ▸ hturns)

/-! ## Borrow and Repay -/

theorem BorrowRun.swapAccounts {ctx : AtomicSwapBorrow} {amount : UInt64} {p : Permission}
    {idle lent : AtomicSwapState} (hparties : BorrowParties ctx w c p i rA rB)
    (hrun : BorrowRun tx ctx amount w w₁ i i' cfg idle lent rA rA' rB rB' es) :
    SwapAccounts w ctx.controller.pubkey ctx.integration.pubkey ctx.reserveA.pubkey
      ctx.reserveB.pubkey ctx.controllerAuthority.pubkey c i cfg rA rB :=
  ⟨hparties.controller, hparties.integration, hrun.config, hparties.reserveA, hparties.reserveB,
    hrun.inputToken, hrun.outputToken⟩

theorem RepayRun.swapAccounts {ctx : AtomicSwapRepay} {p : Permission} {o : Oracle}
    {lent : AtomicSwapState} {final deltaA deltaB : UInt64}
    (hparties : RepayParties ctx w c p i rA rB o)
    (hrun : RepayRun ctx w w₁ i i' cfg lent rA rA' rB rB' o final deltaA deltaB es) :
    SwapAccounts w ctx.controller.pubkey ctx.integration.pubkey ctx.reserveA.pubkey
      ctx.reserveB.pubkey ctx.controllerAuthority.pubkey c i cfg rA rB :=
  ⟨hparties.controller, hparties.integration, hrun.config, hparties.reserveA, hparties.reserveB,
    hrun.inputToken, hrun.outputToken⟩

theorem BorrowDone.effect {ctx : AtomicSwapBorrow} {amount : UInt64}
    (h : BorrowDone tx ctx amount w w' es) : Effect tx accounts (15 :: data) w w' es := by
  cases h with
  | @done c p i i' cfg idle lent rA rA' rB rB' w₁ es hparties hrun =>
  have haccounts := hrun.swapAccounts hparties
  have hrunning := hparties.controller.running_of_active hparties.controllerActive
  refine (haccounts.saved_borrow hrun.grows.keel).effect haccounts
    hrun.grows.grew.setKeel.setKeel.setKeel.setKeel hrun.within ?_ (.inr (.inr (.inr rfl)))
    (.inl hparties.controllerActive)
    (.locks rfl haccounts.controller.keel hparties.controllerActive)
    (fun hsilent hturns => .lock hsilent hparties.controllerActive hturns) ?_ hrun.reserveA
    hrun.reserveB
  · exact List.forall_mem_singleton.mpr hrunning
  · intro hturns
    have hcontroller := hparties.integration.controller
    exact .lendIntegration hparties.integration.seeds (hcontroller ▸ hrunning) hrun.integration
      hrun.state hrun.notStarted hrun.state' (hcontroller ▸ hturns) hrun.started

theorem RepayDone.effect {ctx : AtomicSwapRepay} (h : RepayDone ctx w w' es) :
    Effect tx accounts (16 :: data) w w' es := by
  cases h with
  | @done c p i i' cfg lent rA rA' rB rB' o final deltaA deltaB w₁ es hparties hrun =>
  have haccounts := hrun.swapAccounts hparties
  refine (haccounts.saved_repay hrun.grows.keel).effect haccounts
    hrun.grows.grew.setKeel.setKeel.setKeel.setKeel hrun.within ?_
    (.inl (.of_unsigned hrun.unsigned)) (.inr hparties.controllerLocked)
    (.unlocks rfl haccounts.controller.keel hparties.controllerLocked)
    (fun hsilent hturns => .unlock hsilent hparties.controllerLocked hturns) ?_ hrun.reserveA
    hrun.reserveB
  · exact fun _ hmem => absurd hmem List.not_mem_nil
  · intro hturns
    have hcontroller := hparties.integration.controller
    exact .repayIntegration hparties.integration.seeds (hcontroller ▸ hparties.controller.keel)
      hparties.controllerLocked hrun.integration hrun.state hrun.state' (hcontroller ▸ hturns)

end AlmController
