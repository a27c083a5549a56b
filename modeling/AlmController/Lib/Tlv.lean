import Mathlib.Data.List.Basic
import Mathlib.Tactic.Ring

/-!
# Type-length-value streams

An item is a 16-bit type, a 16-bit length, and that many bytes of value, one item after
the other up to the end of the stream. `Reads` is a stream read as its items; whoever
walks a stream by a loop of their own is compared with it, and not with another loop.

The last value may be cut short by the end of the stream: a reader that only skips over
values does not notice.
-/

namespace Tlv

/-- A little-endian 16-bit number. -/
def u16 (b₀ b₁ : UInt8) : ℕ := b₀.toNat + 256 * b₁.toNat

def u16Bytes (n : ℕ) : List UInt8 := [UInt8.ofNat n, UInt8.ofNat (n / 256)]

structure Item where
  type : ℕ
  length : ℕ
  value : List UInt8
  deriving DecidableEq, Repr

/-- The stream is exactly these items. -/
inductive Reads : List UInt8 → List Item → Prop
  | nil : Reads [] []
  | cons {t₀ t₁ l₀ l₁ : UInt8} {rest : List UInt8} {items : List Item} :
      Reads (rest.drop (u16 l₀ l₁)) items →
        Reads (t₀ :: t₁ :: l₀ :: l₁ :: rest)
          (⟨u16 t₀ t₁, u16 l₀ l₁, rest.take (u16 l₀ l₁)⟩ :: items)

/-! ## Writing -/

/-- An item whose type and length fit their fields. -/
structure Entry where
  type : ℕ
  value : List UInt8
  type_lt : type < 2 ^ 16
  length_lt : value.length < 2 ^ 16

namespace Entry

def bytes (e : Entry) : List UInt8 := u16Bytes e.type ++ (u16Bytes e.value.length ++ e.value)

def item (e : Entry) : Item := ⟨e.type, e.value.length, e.value⟩

end Entry

def encode (entries : List Entry) : List UInt8 := entries.flatMap Entry.bytes

theorem u16_ofNat {n : ℕ} (h : n < 2 ^ 16) : u16 (UInt8.ofNat n) (UInt8.ofNat (n / 256)) = n := by
  simp only [u16, UInt8.toNat_ofNat']
  omega

/-- One entry in front of a stream is one item in front of its items. -/
theorem reads_bytes_append {e : Entry} {rest : List UInt8} {items : List Item} :
    Reads (e.bytes ++ rest) items ↔ ∃ items', items = e.item :: items' ∧ Reads rest items' := by
  have htype := u16_ofNat e.type_lt
  have hlength := u16_ofNat e.length_lt
  have hbytes : e.bytes ++ rest =
      UInt8.ofNat e.type :: UInt8.ofNat (e.type / 256) :: UInt8.ofNat e.value.length ::
        UInt8.ofNat (e.value.length / 256) :: (e.value ++ rest) := by
    simp [Entry.bytes, u16Bytes]
  have hitem : e.item = ⟨u16 (UInt8.ofNat e.type) (UInt8.ofNat (e.type / 256)),
      u16 (UInt8.ofNat e.value.length) (UInt8.ofNat (e.value.length / 256)),
      (e.value ++ rest).take (u16 (UInt8.ofNat e.value.length)
        (UInt8.ofNat (e.value.length / 256)))⟩ := by
    rw [htype, hlength, List.take_left]
    rfl
  have hdrop : (e.value ++ rest).drop (u16 (UInt8.ofNat e.value.length)
      (UInt8.ofNat (e.value.length / 256))) = rest := by
    rw [hlength, List.drop_left]
  rw [hbytes, hitem]
  constructor
  · intro h
    cases h with
    | cons h => exact ⟨_, rfl, hdrop ▸ h⟩
  · rintro ⟨items', rfl, h⟩
    exact .cons (hdrop.symm ▸ h)

/-- **What was written is read**, in front of whatever follows. -/
theorem reads_encode_append {entries : List Entry} {rest : List UInt8} {items : List Item} :
    Reads (encode entries ++ rest) items ↔
      ∃ items', items = entries.map Entry.item ++ items' ∧ Reads rest items' := by
  induction entries generalizing items with
  | nil => simp [encode]
  | cons e entries ih =>
    have hencode : encode (e :: entries) ++ rest = e.bytes ++ (encode entries ++ rest) := by
      simp [encode]
    rw [hencode, reads_bytes_append]
    constructor
    · rintro ⟨_, rfl, h⟩
      obtain ⟨items', rfl, hrest⟩ := ih.mp h
      exact ⟨items', rfl, hrest⟩
    · rintro ⟨items', rfl, h⟩
      exact ⟨_, rfl, ih.mpr ⟨items', rfl, h⟩⟩

theorem reads_encode {entries : List Entry} : Reads (encode entries) (entries.map Entry.item) := by
  have h := (@reads_encode_append entries [] _).mpr ⟨[], rfl, .nil⟩
  rwa [List.append_nil, List.append_nil] at h

/-! ## Walking up to a terminator -/

/-- Walk the stream up to the first item of type `stop`, or to the end. A round consumes
    at least four bytes, which bounds the rounds by `fuel`. -/
def walk (stop : ℕ) : (fuel : ℕ) → List UInt8 → List Item
  | fuel + 1, t₀ :: t₁ :: l₀ :: l₁ :: rest =>
    if u16 t₀ t₁ = stop then []
    else ⟨u16 t₀ t₁, u16 l₀ l₁, rest.take (u16 l₀ l₁)⟩ :: walk stop fuel (rest.drop (u16 l₀ l₁))
  | _, _ => []

/-- **The walk finds the items before the terminator.** -/
theorem Reads.walk_eq {stop fuel : ℕ} {bytes : List UInt8} {items : List Item}
    (h : Reads bytes items) (hfuel : bytes.length ≤ fuel) :
    walk stop fuel bytes = items.takeWhile (fun i => i.type ≠ stop) := by
  induction h generalizing fuel with
  | nil => cases fuel <;> rfl
  | cons _ ih =>
    cases fuel with
    | zero => simp at hfuel
    | succ fuel =>
      rw [walk, List.takeWhile_cons]
      split
      · simp [*]
      · rename_i hne
        rw [ih (by simp at hfuel ⊢; omega)]
        simp [hne]

end Tlv
