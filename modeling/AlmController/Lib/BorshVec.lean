import AlmController.Lib.Borsh

/-!
# Sequences, and types with a longest value

A vector is written as its length, in four bytes, and its elements after that. The length has to
fit the four bytes, or nothing can be written, so a `Vec` carries that it does.

Where a value is written into a vector of bytes, somebody has to know that it is short enough.
`Bounded` computes this from the fields, as `Sized` computes the length of values that all have
the same.
-/

namespace Borsh

variable {α β : Type}

/-- A list whose length can be written. -/
structure Vec (α : Type) where
  elements : List α
  length_lt : elements.length < 2 ^ 32

/-- The elements, without their number. -/
def writeAll [Borsh α] (as : List α) : List UInt8 := as.flatMap write

/-- Read `n` elements. -/
def readAll [Borsh α] : Nat → List UInt8 → Option (List α × List UInt8)
  | 0, bs => some ([], bs)
  | n + 1, bs => (read bs).bind fun r => (readAll n r.2).map fun r' => (r.1 :: r'.1, r'.2)

theorem readAll_writeAll [Borsh α] {as : List α} {rest : List UInt8} :
    readAll as.length (writeAll as ++ rest) = some (as, rest) := by
  induction as with
  | nil => rfl
  | cons a as ih =>
    show (read ((write a ++ writeAll as) ++ rest)).bind _ = _
    rw [List.append_assoc, read_write, Option.bind_some, ih]
    rfl

theorem readAll_eq_some [Borsh α] {n : Nat} {as : List α} {bs rest : List UInt8}
    (h : readAll n bs = some (as, rest)) : as.length = n ∧ bs = writeAll as ++ rest := by
  induction n generalizing as bs with
  | zero =>
    obtain ⟨rfl, rfl⟩ := Prod.mk.inj (Option.some.inj h)
    exact ⟨rfl, rfl⟩
  | succ n ih =>
    rw [readAll, Option.bind_eq_some_iff] at h
    obtain ⟨⟨a, r⟩, ha, htail⟩ := h
    rw [Option.map_eq_some_iff] at htail
    obtain ⟨⟨as', r'⟩, hmany, heq⟩ := htail
    obtain ⟨rfl, rfl⟩ := Prod.mk.inj heq
    obtain ⟨hlength, hr⟩ := ih hmany
    refine ⟨congrArg (· + 1) hlength, ?_⟩
    show bs = (write a ++ writeAll as') ++ r'
    rw [write_read ha, List.append_assoc]
    exact congrArg (write a ++ ·) hr

/-- Bytes are written as they are. -/
theorem writeAll_bytes {bs : List UInt8} : writeAll bs = bs := by
  induction bs with
  | nil => rfl
  | cons b bs ih => exact congrArg (b :: ·) ih

/-- The number of elements, and the elements. -/
instance [Borsh α] : Borsh (Vec α) where
  write v := write (UInt32.ofNat v.elements.length) ++ writeAll v.elements
  read bs := (read (α := UInt32) bs).bind fun r => (readAll r.1.toNat r.2).bind fun r' =>
    if h : r'.1.length < 2 ^ 32 then some (⟨r'.1, h⟩, r'.2) else none
  read_write v rest := by
    have hcount : (UInt32.ofNat v.elements.length).toNat = v.elements.length := by
      rw [UInt32.toNat_ofNat']
      exact Nat.mod_eq_of_lt v.length_lt
    rw [List.append_assoc, read_write, Option.bind_some, hcount, readAll_writeAll,
      Option.bind_some]
    exact dif_pos v.length_lt
  write_read {bs v rest} h := by
    rw [Option.bind_eq_some_iff] at h
    obtain ⟨⟨count, r⟩, hcount, htail⟩ := h
    rw [Option.bind_eq_some_iff] at htail
    obtain ⟨⟨as, r'⟩, hmany, heq⟩ := htail
    obtain ⟨hlength, rfl⟩ := readAll_eq_some hmany
    split at heq
    · obtain ⟨rfl, rfl⟩ := Prod.mk.inj (Option.some.inj heq)
      rw [write_read hcount, hlength, UInt32.ofNat_toNat, List.append_assoc]
    · cases heq

/-! ## Values up to a length -/

/-- A type none of whose values is written in more bytes than this. -/
class Bounded (α : Type) [Borsh α] where
  bound : Nat
  length_write_le : ∀ a : α, (write a).length ≤ bound

instance (priority := low) [Borsh α] [Sized α] : Bounded α :=
  ⟨Sized.size α, fun a => (Sized.length_write a).le⟩

instance [Borsh α] [Bounded α] : Bounded (Option α) where
  bound := Bounded.bound α + 1
  length_write_le a := by
    cases a with
    | none => exact Nat.le_add_left 1 _
    | some a => exact Nat.succ_le_succ (Bounded.length_write_le a)

instance [Borsh α] [Borsh β] [Bounded α] [Bounded β] : Bounded (α × β) where
  bound := Bounded.bound α + Bounded.bound β
  length_write_le p := by
    show (write p.1 ++ write p.2).length ≤ _
    rw [List.length_append]
    exact Nat.add_le_add (Bounded.length_write_le p.1) (Bounded.length_write_le p.2)

end Borsh
