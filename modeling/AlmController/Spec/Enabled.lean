import AlmController.Spec.Accounted

/-!
# When an instruction succeeds

The lemmas so far say what a successful instruction did. Here is the other direction, as far as
it is the same for all of them: accounts that satisfy their specifications pass the checks, and a
controller can emit events.

The last needs to know more of a controller than its account says: that its address and its
authority are the ones derived from its id. `Anchored` is the invariant.
-/

namespace AlmController

open Prog

/-! ## Checks -/

section Checks

variable {account : AccountMeta} {w : World}

/-- The account has the attribute. -/
def AccountAttr.Holds (w : World) (account : AccountMeta) : AccountAttr → Prop
  | .writable => account.isWritable = true
  | .signer => account.isSigner = true
  | .empty => w.dataIsEmpty account.pubkey

theorem checkAttr_of_holds {attr : AccountAttr} (h : attr.Holds w account) :
    checkAttr account attr w = .ok ((), w) := by
  cases attr with
  | writable =>
    apply rejectIf_ok.mpr
    refine ⟨?_, rfl⟩
    intro hnot
    exact absurd (hnot.symm.trans h) (by decide)
  | signer =>
    apply rejectIf_ok.mpr
    refine ⟨?_, rfl⟩
    intro hnot
    exact absurd (hnot.symm.trans h) (by decide)
  | empty =>
    apply bind_ok.mpr
    exact ⟨w, w, rfl, rejectIf_ok.mpr ⟨not_not.mpr h, rfl⟩⟩

theorem checkAttrs_of_holds {attrs : List AccountAttr} (h : ∀ attr ∈ attrs, attr.Holds w account) :
    checkAttrs account attrs w = .ok ((), w) := by
  induction attrs with
  | nil => rfl
  | cons attr attrs ih =>
    obtain ⟨hattr, hattrs⟩ := List.forall_mem_cons.mp h
    apply bind_ok.mpr
    exact ⟨(), w, checkAttr_of_holds hattr, ih hattrs⟩

/-- The account is as its specification says. -/
structure AccountSpec.Admits (spec : AccountSpec) (w : World) (account : AccountMeta) : Prop where
  attrs : ∀ attr ∈ spec.attrs, attr.Holds w account
  pubkey : ∀ keys, spec.pubkey = some keys → account.pubkey ∈ keys
  owner : ∀ owners, spec.owner = some owners → w.owner account.pubkey ∈ owners

theorem AccountSpec.Admits.check {spec : AccountSpec} (h : spec.Admits w account) :
    checkAccount spec account w = .ok ((), w) := by
  have hkey : ¬ ¬ (spec.pubkey.all fun keys => keys.contains account.pubkey) = true := by
    apply not_not.mpr
    cases hkeys : spec.pubkey with
    | none => rfl
    | some keys => exact List.contains_iff_mem.mpr (h.pubkey keys hkeys)
  have howner : ¬ ¬ (spec.owner.all fun owners => owners.contains (w.owner account.pubkey)) = true := by
    apply not_not.mpr
    cases howners : spec.owner with
    | none => rfl
    | some owners => exact List.contains_iff_mem.mpr (h.owner owners howners)
  simp only [checkAccount, bind_ok, rejectIf_ok, read_ok, id]
  exact ⟨(), w, checkAttrs_of_holds h.attrs, (), w, ⟨hkey, rfl⟩, w, w, ⟨rfl, rfl⟩, howner, rfl⟩

/-- **Accounts that are as specified pass**, one after the other. -/
theorem AccountsHold.of_admits {specs : List AccountSpec} {accounts : List AccountMeta}
    (h : List.Forall₂ (fun spec account => spec.Admits w account) specs accounts) :
    AccountsHold specs accounts w := by
  induction h with
  | nil => rfl
  | cons hspec _ ih =>
    apply bind_ok.mpr
    exact ⟨(), w, hspec.check, ih⟩

namespace AccountSpec.Admits

variable {attrs : List AccountAttr}

/-- An account of this program. -/
theorem own {a : KeelAccount} (hk : w.keel account.pubkey = some a)
    (hattrs : ∀ attr ∈ attrs, attr.Holds w account) :
    Admits { attrs := attrs, owner := some [ID] } w account := by
  refine ⟨hattrs, fun keys hkeys => (Option.some_ne_none _ hkeys.symm).elim, ?_⟩
  intro owners howners
  obtain rfl := Option.some.inj howners
  rw [World.owner, hk]
  exact List.mem_singleton_self _

/-- An account of the system program. -/
theorem system (howner : w.owner account.pubkey = SYSTEM_PROGRAM_ID)
    (hattrs : ∀ attr ∈ attrs, attr.Holds w account) :
    Admits { attrs := attrs, owner := some [SYSTEM_PROGRAM_ID] } w account := by
  refine ⟨hattrs, fun keys hkeys => (Option.some_ne_none _ hkeys.symm).elim, ?_⟩
  intro owners howners
  obtain rfl := Option.some.inj howners
  exact List.mem_singleton.mpr howner

/-- Somebody who signs. -/
theorem signer (h : account.isSigner = true) : Admits { attrs := [.signer] } w account :=
  ⟨List.forall_mem_singleton.mpr h, fun _ hkeys => (Option.some_ne_none _ hkeys.symm).elim,
    fun _ howners => (Option.some_ne_none _ howners.symm).elim⟩

/-- An account known by its key. -/
theorem key {k : Pubkey} (h : account.pubkey = k) : Admits { pubkey := some [k] } w account := by
  refine ⟨fun _ hattr => absurd hattr List.not_mem_nil, ?_,
    fun _ howners => (Option.some_ne_none _ howners.symm).elim⟩
  intro keys hkeys
  obtain rfl := Option.some.inj hkeys
  exact List.mem_singleton.mpr h

end AccountSpec.Admits

end Checks

variable [Chain]

/-! ## Controllers that can speak -/

section Anchored

variable {tx : TxContext} {accounts : List AccountMeta} {data : List UInt8} {w w' : World}
  {m : Move} {es : List LogEntry} {k : Pubkey} {c : Controller}

/-- **The invariant.** The authority of a controller is the one derived from its address. -/
def Anchored (w : World) : Prop :=
  ∀ ⦃k c⦄, w.keel k = some (.controller c) →
    Controller.deriveAuthority k = .ok (c.authority, c.authorityBump)

theorem Change.anchored {old : Option KeelAccount}
    (h : Change tx accounts data w w' es k old (some (.controller c)))
    (hold : ∀ c, old = some (.controller c) →
      Controller.deriveAuthority k = .ok (c.authority, c.authorityBump)) :
    Controller.deriveAuthority k = .ok (c.authority, c.authorityBump) := by
  cases h with
  | same => exact hold c rfl
  | newController _ _ _ hderived => exact hderived
  | @setStatus c => exact hold c rfl
  | @lock c => exact hold c rfl
  | @unlock c => exact hold c rfl

theorem Anchored.move (h : Anchored w) (hmove : Moves w m w') : Anchored w' := by
  intro k c hk
  rcases hmove.cases with ⟨tx, accounts, data, es, -, heffect⟩ | ⟨-, hsame⟩
  · have hchange := heffect.changes k
    rw [hk] at hchange
    exact hchange.anchored fun c hc => h hc
  · rw [hsame.keel] at hk
    exact h hk

theorem Reachable.anchored (h : Reachable w) : Anchored w := by
  obtain ⟨w₀, steps, hgenesis, htrace⟩ := h
  refine htrace.invariant (fun hI hmove => hI.move hmove) ?_
  intro k c hk
  rw [hgenesis.keel k] at hk
  cases hk

/-- The account of a controller's authority is empty, and nobody's. Nothing of this program makes
    it anything else, but a program that the authority signs for could. -/
structure Controller.AuthorityFree (w : World) (c : Controller) : Prop where
  empty : w.dataIsEmpty c.authority
  owner : w.owner c.authority = SYSTEM_PROGRAM_ID

omit [Chain] in
/-- What is saved elsewhere does not touch it. -/
theorem Controller.AuthorityFree.setKeel {a old : KeelAccount} (h : c.AuthorityFree w)
    (hk : w.keel k = some old) : c.AuthorityFree (w.setKeel k a) := by
  have hne : c.authority ≠ k := by
    intro heq
    have hnone := h.empty.1
    rw [heq, hk] at hnone
    cases hnone
  have hkeel : (w.setKeel k a).keel c.authority = w.keel c.authority := World.setKeel_keel_of_ne hne
  refine ⟨⟨hkeel.trans h.empty.1, h.empty.2⟩, ?_⟩
  rw [← h.owner]
  unfold World.owner
  rw [hkeel]
  rfl

omit [Chain] in
theorem u16Prefix_u16Bytes {n : UInt16} : u16Prefix (u16Bytes n) = some n := by
  have hlt : n.toNat < 65536 := n.toNat_lt
  have hbytes : u16FromLe (UInt8.ofNat n.toNat) (UInt8.ofNat (n.toNat / 256)) = n.toNat := by
    unfold u16FromLe
    rw [UInt8.toNat_ofNat', UInt8.toNat_ofNat']
    omega
  show some (UInt16.ofNat (u16FromLe (UInt8.ofNat n.toNat) (UInt8.ofNat (n.toNat / 256)))) = some n
  rw [hbytes, UInt16.ofNat_toNat]

/-- **A controller in its place can emit events.** -/
theorem emitEvent_of_anchored {e : SvmAlmControllerEvent} (hplaced : pdaOf c.seeds = some k)
    (hanchored : Controller.deriveAuthority k = .ok (c.authority, c.authorityBump))
    (hfree : c.AuthorityFree w) :
    emitEvent c c.authority k e w = .ok ((), w.addLog (.event e)) := by
  have hsigner : authorityAddress k c = some c.authority :=
    Chain.find_create (okOr_ok.mp hanchored)
  obtain ⟨⟨k', bump⟩, hfind, hk⟩ := Option.map_eq_some_iff.mp hplaced
  have hpda : Controller.derivePdaBytes c.id = .ok (k, bump) := by
    rw [← hk]
    exact okOr_ok.mpr hfind
  have hemit : processEmitEvent [{ pubkey := c.authority, isSigner := true, isWritable := false }]
      (u16Bytes c.id) w = .ok ((), w) := by
    simp only [processEmitEvent, bind_ok, ofExcept_ok, ofOption_ok, rejectIf_ok, read_ok, id]
    exact ⟨_, w, ⟨rfl, rfl⟩, c.id, w, ⟨u16Prefix_u16Bytes, rfl⟩, (k, bump), w, ⟨hpda, rfl⟩,
      (c.authority, c.authorityBump), w, ⟨hanchored, rfl⟩, (), w, ⟨not_not.mpr rfl, rfl⟩, (), w,
      ⟨Bool.true_eq_false.mp, rfl⟩, w, w, ⟨rfl, rfl⟩, not_not.mpr hfree.owner, rfl⟩
  simp only [emitEvent, bind_ok, ofOption_ok, rejectIf_ok, record_ok]
  exact ⟨_, w, ⟨hsigner, rfl⟩, (), w, ⟨not_not.mpr rfl, rfl⟩, (), w, hemit, rfl⟩

end Anchored

end AlmController
