import AlmController.Lib.Tlv
import AlmController.Token

/-!
# The two walks over a mint's extensions

The program walks the extensions twice: once to list their types, once for each
extension whose value it looks at. Both are compared with the stream as it reads
(`Tlv.Reads`), so that what one of them saw, the other saw as well.
-/

namespace AlmController

open Prog Tlv

variable {bytes : List UInt8} {items : List Item} {types : List ExtensionType} {fuel : Nat}

/-- The extension type of an item, when there is one. -/
def extensionType? (item : Item) : Option ExtensionType := ExtensionType.all[item.type]?

/-- **Listing the types succeeds on what reads**, as long as every type is known. -/
theorem extensionTypes_of_reads (h : Reads bytes items) (hfuel : bytes.length ≤ fuel)
    (htypes : items.map extensionType? = types.map some) :
    extensionTypes fuel bytes = .ok types := by
  induction h generalizing fuel types with
  | nil =>
    obtain rfl : types = [] := by simpa using htypes.symm
    cases fuel <;> rfl
  | @cons t₀ t₁ l₀ l₁ rest items hrest ih =>
    cases types with
    | nil => simp at htypes
    | cons t types =>
      rw [List.map_cons, List.map_cons, List.cons.injEq] at htypes
      obtain ⟨ht, htypes⟩ := htypes
      cases fuel with
      | zero => simp at hfuel
      | succ fuel =>
        have htype : ExtensionType.fromBytes t₀ t₁ = some t := ht
        have htail : extensionTypes fuel (rest.drop (u16FromLe l₀ l₁)) = .ok types :=
          ih (by simp at hfuel ⊢; omega) htypes
        simp only [extensionTypes, htype, htail, except_bind_ok, okOr_ok, except_pure_ok]
        exact ⟨t, rfl, types, rfl, rfl⟩

/-- **And only on that.** -/
theorem reads_of_extensionTypes (hfuel : bytes.length ≤ fuel)
    (h : extensionTypes fuel bytes = .ok types) :
    ∃ items, Reads bytes items ∧ items.map extensionType? = types.map some := by
  induction fuel generalizing bytes types with
  | zero =>
    obtain rfl := List.eq_nil_of_length_eq_zero (Nat.le_zero.mp hfuel)
    obtain rfl := Except.ok.inj h
    exact ⟨[], .nil, rfl⟩
  | succ fuel ih =>
    match bytes, h with
    | [], h =>
      obtain rfl := Except.ok.inj h
      exact ⟨[], .nil, rfl⟩
    | [_], h => cases h
    | t₀ :: t₁ :: rest, h =>
      simp only [extensionTypes, except_bind_ok, okOr_ok] at h
      obtain ⟨t, ht, h⟩ := h
      match rest, h with
      | [], h => cases h
      | [_], h => cases h
      | l₀ :: l₁ :: value, h =>
        simp only [except_bind_ok, except_pure_ok] at h
        obtain ⟨types', htail, rfl⟩ := h
        obtain ⟨items, hreads, htypes⟩ := ih (by simp at hfuel ⊢; omega) htail
        refine ⟨_, .cons hreads, ?_⟩
        rw [List.map_cons, List.map_cons, htypes]
        exact congrArg (· :: _) ht

/-- The item is what `findExtension` looks for. -/
def Matches (type : ExtensionType) (len : Nat) (item : Item) : Prop :=
  extensionType? item = some type ∧ item.length = len

instance (type : ExtensionType) (len : Nat) (item : Item) : Decidable (Matches type len item) :=
  inferInstanceAs (Decidable (_ ∧ _))

/-- One round of looking up. -/
theorem findExtension_cons {type t : ExtensionType} {len : Nat} {t₀ t₁ l₀ l₁ : UInt8}
    {value : List UInt8} (ht : ExtensionType.fromBytes t₀ t₁ = some t) :
    findExtension type len (fuel + 1) (t₀ :: t₁ :: l₀ :: l₁ :: value) =
      if t = type ∧ u16FromLe l₀ l₁ = len then
        if value.length < len then .error (.panic .index) else .ok (some (value.take len))
      else findExtension type len fuel (value.drop (u16FromLe l₀ l₁)) := by
  simp only [findExtension, ht]

/-- The value of the first match, which must not be cut short. -/
def lookUp (type : ExtensionType) (len : Nat) (items : List Item) :
    Except Error (Option (List UInt8)) :=
  match items.find? (Matches type len) with
  | none => .ok none
  | some item =>
    if item.value.length < len then .error (.panic .index) else .ok (some item.value)

/-- **Looking an extension up finds the first match.** -/
theorem findExtension_of_reads {type : ExtensionType} {len : Nat} (h : Reads bytes items)
    (hfuel : bytes.length ≤ fuel) (hknown : ∀ item ∈ items, extensionType? item ≠ none) :
    findExtension type len fuel bytes = lookUp type len items := by
  induction h generalizing fuel with
  | nil => cases fuel <;> rfl
  | @cons t₀ t₁ l₀ l₁ rest items hrest ih =>
    obtain ⟨hhead, htail⟩ := List.forall_mem_cons.mp hknown
    cases fuel with
    | zero => simp at hfuel
    | succ fuel =>
      obtain ⟨t, ht⟩ := Option.ne_none_iff_exists'.mp hhead
      have htype : ExtensionType.fromBytes t₀ t₁ = some t := ht
      rw [findExtension_cons htype, lookUp]
      by_cases hmatch : t = type ∧ u16FromLe l₀ l₁ = len
      · obtain ⟨rfl, rfl⟩ := hmatch
        have hfind : Matches t (u16FromLe l₀ l₁)
            ⟨u16 t₀ t₁, u16 l₀ l₁, rest.take (u16 l₀ l₁)⟩ := ⟨ht, rfl⟩
        have hshort : (rest.take (u16 l₀ l₁)).length < u16FromLe l₀ l₁ ↔
            rest.length < u16FromLe l₀ l₁ := by
          rw [List.length_take]
          show min (u16 l₀ l₁) rest.length < u16 l₀ l₁ ↔ rest.length < u16 l₀ l₁
          omega
        rw [if_pos ⟨rfl, rfl⟩]
        simp only [List.find?_cons, decide_eq_true hfind, hshort]
        rfl
      · have hfind : ¬ Matches type len ⟨u16 t₀ t₁, u16 l₀ l₁, rest.take (u16 l₀ l₁)⟩ := by
          rintro ⟨htype', hlen⟩
          rw [ht] at htype'
          exact hmatch ⟨Option.some.inj htype', hlen⟩
        rw [if_neg hmatch]
        simp only [List.find?_cons, decide_eq_false hfind]
        exact ih (by simp at hfuel ⊢; omega) htail

end AlmController
