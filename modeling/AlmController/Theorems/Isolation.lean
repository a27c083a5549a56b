import AlmController.Simulator
import AlmController.Spec.Accounted

/-!
# Controllers are isolated

The program serves any number of controllers, and anybody may call it. An instruction acts for one
controller, which is among its accounts. So as long as no instruction names a controller, nothing
happens to it, whatever the others do: its accounts stay as they are, there are no new ones, and no
entry of the log is about it.

Oracles are the exception, and a small one: RefreshOracle names no controller, and copies the
price that the oracle's feed has.

`controllers_isolated` has two halves, one about the accounts and one about the log, since a false
entry would mislead a reader as much as a false balance. It does not cover the accounts of other
programs: tokens in a vault can be taken or given by whoever has the power for it there.
-/

namespace AlmController

open Prog

variable [Chain]

variable {tx : TxContext} {accounts : List AccountMeta} {data : List UInt8} {w w' w'' : World}
  {m : Move} {ck k : Pubkey} {steps : List (Step World Move)}

/-- The account is as it was, or it is an oracle with another price. -/
inductive KeelAccount.Refreshed : KeelAccount → KeelAccount → Prop
  | same {a : KeelAccount} : Refreshed a a
  | oracle {o : Oracle} {value : BitVec (8 * 16)} {slot : UInt64} :
      Refreshed (.oracle o) (.oracle { o with value := value, lastUpdateSlot := slot })

omit [Chain] in
theorem KeelAccount.Refreshed.trans {a a' a'' : KeelAccount} (h : a.Refreshed a')
    (h' : a'.Refreshed a'') : a.Refreshed a'' := by
  cases h with
  | same => exact h'
  | oracle =>
    cases h' with
    | same => exact .oracle
    | oracle => exact .oracle

/-- **Nothing happened to the controller at `ck`**: of its accounts only oracles changed, in their
    price, and it has no new ones. -/
structure Unaffected (ck : Pubkey) (w w' : World) : Prop where
  kept : ∀ ⦃k a⦄, w.keel k = some a → a.controllerAt k = ck →
    ∃ a', w'.keel k = some a' ∧ a.Refreshed a'
  no_new : ∀ ⦃k a'⦄, w'.keel k = some a' → a'.controllerAt k = ck →
    ∃ a, w.keel k = some a ∧ a.controllerAt k = ck

namespace Unaffected

omit [Chain]

/-- Where no account changed, nothing happened. -/
theorem of_eq (h : w'.keel = w.keel) : Unaffected ck w w' := by
  refine ⟨fun k a hk _ => ⟨a, (congrFun h k).trans hk, .same⟩, fun k a hk hck => ⟨a, ?_, hck⟩⟩
  rw [← h]
  exact hk

theorem trans (h : Unaffected ck w w') (h' : Unaffected ck w' w'') : Unaffected ck w w'' := by
  constructor
  · intro k a hk hck
    obtain ⟨a', hk', hrefreshed⟩ := h.kept hk hck
    have hck' : a'.controllerAt k = ck := by
      cases hrefreshed with
      | same => exact hck
      | oracle => exact hck
    obtain ⟨a'', hk'', hrefreshed'⟩ := h'.kept hk' hck'
    exact ⟨a'', hk'', hrefreshed.trans hrefreshed'⟩
  · intro k a'' hk'' hck
    obtain ⟨a', hk', hck'⟩ := h'.no_new hk'' hck
    exact h.no_new hk' hck'

end Unaffected

/-- A deed of another controller. -/
theorem Deed.unaffected {ck' : Pubkey} {es : List LogEntry} (h : Deed ck' w w' es)
    (hne : ck' ≠ ck) : Unaffected ck w w' ∧ Logs (fun e => ¬ e.Concerns ck) w w' := by
  refine ⟨⟨?_, ?_⟩, es, h.log, ?_⟩
  -- an account of this controller is none that a deed of another touches
  · intro k a hk hck
    have htouched := h.accounts k
    rw [hk] at htouched
    generalize hk' : w'.keel k = new at htouched
    cases htouched with
    | same => exact ⟨a, rfl, .same⟩
    | changed _ hck' => exact absurd (hck'.symm.trans hck) hne
  · intro k a' hk' hck
    have htouched := h.accounts k
    rw [hk'] at htouched
    generalize hk : w.keel k = old at htouched
    cases htouched with
    | same => exact ⟨a', rfl, hck⟩
    | created _ hck' => exact absurd (hck'.symm.trans hck) hne
    | changed hsame hck' => exact absurd (hck'.symm.trans (hsame.controllerAt_eq.symm.trans hck)) hne
  -- and its entries concern the other
  · intro e he hconcerns
    exact hne ((h.entries e he).concerns hconcerns).symm

/-- A refresh touches one oracle, in its price, and logs nothing. -/
theorem RefreshedOracle.unaffected (h : RefreshedOracle k w w') :
    Unaffected ck w w' ∧ Logs (fun e => ¬ e.Concerns ck) w w' := by
  cases h with
  | @copied o feed ho =>
    refine ⟨⟨?_, ?_⟩, [], (List.append_nil _).symm, fun e he => absurd he List.not_mem_nil⟩
    · intro k' a hk' hck
      by_cases hkey : k' = k
      · subst hkey
        rw [ho.keel] at hk'
        obtain rfl := Option.some.inj hk'
        exact ⟨_, World.setKeel_keel_self, .oracle⟩
      · exact ⟨a, (World.setKeel_keel_of_ne hkey).trans hk', .same⟩
    · intro k' a' hk' hck
      by_cases hkey : k' = k
      · subst hkey
        rw [World.setKeel_keel_self] at hk'
        obtain rfl := Option.some.inj hk'
        exact ⟨_, ho.keel, hck⟩
      · exact ⟨a', (World.setKeel_keel_of_ne hkey).symm.trans hk', hck⟩

/-- The move is no call, or a call that does not name the controller at `ck`. -/
def Step.Elsewhere (ck : Pubkey) (s : Step World Move) : Prop :=
  ∀ tx accounts data, s.move = .call tx accounts data → ¬ Names accounts ck

/-- One step elsewhere. -/
theorem Moves.unaffected (hw : Reachable w) (h : Moves w m w')
    (helsewhere : Step.Elsewhere ck ⟨w, m, w'⟩) :
    Unaffected ck w w' ∧ Logs (fun e => ¬ e.Concerns ck) w w' := by
  cases m with
  | env bank =>
    cases h
    exact ⟨.of_eq rfl, Std.Refl.refl (r := Logs _) w⟩
  | tick clock =>
    cases h
    exact ⟨.of_eq rfl, Std.Refl.refl (r := Logs _) w⟩
  | call tx accounts data =>
    -- an instruction acts for a controller that it names, unless it is a RefreshOracle
    rcases h.acted hw with ⟨ck', hnames, es, hdeed⟩ | ⟨k, hrefreshed⟩
    · apply hdeed.unaffected
      intro heq
      subst heq
      exact helsewhere tx accounts data rfl hnames
    · exact hrefreshed.unaffected

/-- **Controllers are isolated from each other.** In a run none of whose calls names the
    controller at `ck`, nothing happens to it and nothing is said of it. -/
theorem controllers_isolated (hw : Reachable w) (h : Trace Moves w steps w')
    (helsewhere : ∀ s ∈ steps, Step.Elsewhere ck s) :
    Unaffected ck w w' ∧ Logs (fun e => ¬ e.Concerns ck) w w' := by
  -- by induction on the run, whose states are all reachable
  induction h with
  | nil => exact ⟨.of_eq rfl, Std.Refl.refl (r := Logs _) _⟩
  | cons hstep _ ih =>
    obtain ⟨hfirst, hlogs⟩ := hstep.unaffected hw (helsewhere _ List.mem_cons_self)
    obtain ⟨hrest, hlogs'⟩ := ih (hw.trace (.single hstep)) fun s hs =>
      helsewhere s (List.mem_cons_of_mem _ hs)
    exact ⟨hfirst.trans hrest, hlogs.trans hlogs'⟩

end AlmController

namespace AlmController

open Simulator

/-- A refresh of its oracle does not name the controller of the example, and does nothing else
    to it. -/
theorem controllers_isolated_example :
    Unaffected controllerKey (swapWorld evenPrice) (called (swapWorld evenPrice) refreshOracle) := by
  have hmove : Moves (swapWorld evenPrice) _ (called (swapWorld evenPrice) refreshOracle) :=
    called_moves (by decide +kernel)
  refine (controllers_isolated swapWorld_attained.reachable (.single hmove) ?_).1
  intro s hs tx accounts data hcall
  obtain ⟨-, rfl, -⟩ := called_mem hs hcall
  unfold Names
  decide +kernel

end AlmController
