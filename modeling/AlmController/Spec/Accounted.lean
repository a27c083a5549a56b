import AlmController.Spec.GovernanceDeeds
import AlmController.Spec.Sound

/-!
# Runs of deeds

Every instruction is a deed of one controller, and the other moves do nothing to the accounts or
the log. So a run appends to the log what its deeds wrote, the journal of that covers the way from
the first settings to the last, and every account of the first state is an account of the last.

`Accounted` is what this comes to in a state reached from the start.
-/

namespace AlmController

open Prog

variable [Chain]

variable {tx : TxContext} {accounts : List AccountMeta} {data : List UInt8} {w w₁ w' : World}
  {m : Move} {u : Unit} {ck k : Pubkey} {steps : List (Step World Move)}

/-- **Every successful instruction is a deed** of a controller that it names, or refreshes an
    oracle. -/
theorem processInstruction_deed (hsigners : SignersPresent accounts) (hs : Sound w)
    (hbank : TokenLaws → w.bank.WellFormed)
    (h : processInstruction tx accounts data w = .ok (u, w')) :
    Acted accounts w w' ∨ ∃ k, RefreshedOracle k w w' := by
  unfold processInstruction at h
  split at h
  · exact (fail_ok.mp h).elim
  unfold dispatch at h
  split at h
  · exact (processEmitEvent_effect hsigners h).elim
  · exact .inl (processInitializeController_deed h)
  · exact .inl (processManageController_openly h).acted
  · exact .inl (processManagePermission_openly h).acted
  · exact .inl (processInitializeReserve_deed hbank h)
  · exact .inl (processManageReserve_openly h).acted
  · exact .inl (processInitializeIntegration_deed h)
  · exact .inl (processManageIntegration_openly h).acted
  · exact .inl (processSyncReserve_deed hbank h)
  · exact .inl (processSyncIntegration_deed hbank h)
  · exact .inl (processPush_deed hs hbank h)
  · exact .inl (processPull_deed hs hbank h)
  · exact .inl (processInitializeOracle_deed h)
  · exact .inl (processUpdateOracle_openly h).acted
  · exact .inr (processRefreshOracle_refreshed h)
  · exact .inl (processAtomicSwapBorrow_deed hbank h)
  · exact .inl (processAtomicSwapRepay_deed hbank h)
  · exact .inl (processResetLzPushInFlight_deed h)
  · exact .inl (processClaimRent_deed h)
  · exact (fail_ok.mp h).elim

theorem Moves.acted (hw : Reachable w) (h : Moves w (.call tx accounts data) w') :
    Acted accounts w w' ∨ ∃ k, RefreshedOracle k w w' := by
  cases h with
  | call hsigners hrun => exact processInstruction_deed hsigners hw.sound hw.wellFormed hrun

/-- A move is a deed of some controller, or does nothing to the program. -/
theorem Moves.deed (hw : Reachable w) (h : Moves w m w') :
    (∃ ck es, Deed ck w w' es) ∨ SameAccounts w w' := by
  cases m with
  | env bank =>
    cases h
    exact .inr ⟨rfl, rfl⟩
  | tick clock =>
    cases h
    exact .inr ⟨rfl, rfl⟩
  | call tx accounts data =>
    rcases h.acted hw with ⟨ck, -, hdeed⟩ | ⟨k, hrefreshed⟩
    · exact .inl ⟨ck, hdeed⟩
    · obtain ⟨ck, hdeed⟩ := hrefreshed.deed
      exact .inl ⟨ck, [], hdeed⟩

/-! ## Runs -/

/-- What a run did and told. -/
structure Told (w w' : World) (es : List LogEntry) : Prop where
  log : w'.log = w.log ++ es
  retains : Retains w w'
  covers : Covers w.settings (journal es) w'.settings
  authentic : ∀ e ∈ es, ∃ ck, e.Authentic w' ck
  created : ∀ k a, w'.keel k = some a → w.keel k = none → a.address = some k

namespace Told

variable {w'' : World} {es es' : List LogEntry}

theorem refl : Told w w [] := by
  refine ⟨(List.append_nil _).symm, .of_eq rfl, .refl, fun _ he => absurd he List.not_mem_nil, ?_⟩
  intro k a ha hnone
  rw [hnone] at ha
  cases ha

theorem trans (h : Told w w' es) (h' : Told w' w'' es') : Told w w'' (es ++ es') := by
  refine ⟨?_, h.retains.trans h'.retains, ?_, List.forall_mem_append.mpr ⟨?_, h'.authentic⟩, ?_⟩
  · rw [h'.log, h.log, List.append_assoc]
  · rw [journal_append]
    exact h.covers.trans h'.covers
  · intro e he
    obtain ⟨ck, hauthentic⟩ := h.authentic e he
    exact ⟨ck, hauthentic.mono h'.retains⟩
  · intro k a ha hnone
    cases hk : w'.keel k with
    | none => exact h'.created k a ha hk
    | some a₁ =>
      -- it was created in the first part, and the second left it the same account
      have haddress := h.created k a₁ hk hnone
      obtain ⟨a', ha', hsame⟩ := h'.retains hk
      rw [ha] at ha'
      rw [Option.some.inj ha', hsame.address_eq]
      exact haddress

end Told

theorem Deed.told {es : List LogEntry} (h : Deed ck w w' es) : Told w w' es := by
  refine ⟨h.log, h.retains, h.covers, fun e he => ⟨ck, h.entries e he⟩, ?_⟩
  intro k a ha hnone
  have htouched := h.accounts k
  rw [ha, hnone] at htouched
  cases htouched with
  | created haddress => exact haddress

theorem Moves.told (hw : Reachable w) (h : Moves w m w') : ∃ es, Told w w' es := by
  rcases h.deed hw with ⟨ck, es, hdeed⟩ | hsame
  · exact ⟨es, hdeed.told⟩
  · refine ⟨[], ?_, .of_eq hsame.keel, .of_eq (World.settings_congr hsame.keel),
      fun _ he => absurd he List.not_mem_nil, ?_⟩
    · rw [hsame.log, List.append_nil]
    · intro k a ha hnone
      rw [hsame.keel, hnone] at ha
      cases ha

/-- **What every run did and told.** -/
theorem Moves.told_run (h : Trace Moves w steps w') (hw : Reachable w) :
    ∃ es, Told w w' es := by
  induction h with
  | nil => exact ⟨[], .refl⟩
  | cons hstep _ ih =>
    obtain ⟨es, hfirst⟩ := hstep.told hw
    obtain ⟨es', hrest⟩ := ih (hw.trace (.single hstep))
    exact ⟨es ++ es', hfirst.trans hrest⟩

/-! ## States reached from the start -/

/-- **The log accounts for the state.** -/
structure Accounted (w : World) : Prop where
  covers : Covers (fun _ => none) (journal w.log) w.settings
  authentic : ∀ e ∈ w.log, ∃ ck, e.Authentic w ck
  placed : ∀ k a, w.keel k = some a → a.address = some k

theorem Reachable.accounted (h : Reachable w) : Accounted w := by
  obtain ⟨w₀, steps, hgenesis, htrace⟩ := h
  obtain ⟨es, htold⟩ := Moves.told_run htrace ⟨w₀, [], hgenesis, .nil⟩
  have hlog : w.log = es := by
    rw [htold.log, hgenesis.log, List.nil_append]
  have hsettings : w₀.settings = fun _ => none := by
    funext k
    unfold World.settings
    rw [hgenesis.keel k]
    rfl
  refine ⟨?_, ?_, fun k a ha => htold.created k a ha (hgenesis.keel k)⟩
  · rw [hlog, ← hsettings]
    exact htold.covers
  · rw [hlog]
    exact htold.authentic

/-! ## What entries concern -/

/-- The controller of the account that a limiter is of. -/
def LimiterId.controller : LimiterId → Pubkey
  | .reserve controller _ => controller
  | .integration controller _ => controller

omit [Chain] in
theorem KeelAccount.limiter?_controller {a : KeelAccount} {id : LimiterId} {l : RateLimit}
    (h : a.limiter? = some (id, l)) : a.controllerAt k = id.controller := by
  cases a with
  | reserve r =>
    obtain ⟨rfl, -⟩ := Prod.mk.inj (Option.some.inj h)
    rfl
  | integration i =>
    obtain ⟨rfl, -⟩ := Prod.mk.inj (Option.some.inj h)
    rfl
  | _ => cases h

/-- The entry is about the controller at `ck`: it signed, or something of it was booked or told. -/
def LogEntry.Concerns (ck : Pubkey) : LogEntry → Prop
  | .cpi _ signedFor => signedFor = some ck
  | .flow id _ _ => id.controller = ck
  | .event e => e.controller = ck

/-- Authentic entries are about nobody else. -/
theorem LogEntry.Authentic.concerns {e : LogEntry} {ck' : Pubkey} (h : e.Authentic w ck)
    (hconcerns : e.Concerns ck') : ck' = ck := by
  cases h with
  | unsigned => cases hconcerns
  | signed => exact (Option.some.inj hconcerns).symm
  | flow _ hck hl =>
    rw [← hck, KeelAccount.limiter?_controller hl]
    exact hconcerns.symm
  | integration => exact hconcerns.symm
  | reserve => exact hconcerns.symm
  | update _ hck => exact hconcerns.symm.trans hck

end AlmController
