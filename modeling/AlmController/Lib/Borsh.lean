import Mathlib.Tactic.Ring

/-!
# A Borsh codec that carries its own round trip

Borsh writes a value as the concatenation of its fields, integers in
little-endian order, an enumeration as a tag byte followed by the fields of the
variant. `Borsh α` packages the writer and the reader of a type **together with
both directions of their round trip**, so a type that has an instance has a
canonical encoding and nobody proves it twice:

* `read_write`: what was written reads back, and the reader stops where the
  writer stopped;
* `write_read`: a reader that accepts has consumed exactly the encoding of what
  it returns.

Instances are built from three pieces: little-endian integers (`BitVec`), pairs,
and `Borsh.restrict`, which restricts or renames a type that already has one. A
record is its tuple of fields (`Borsh.record`), an enumeration without fields a
restriction of the tag byte.
-/

class Borsh (α : Type) where
  write : α → List UInt8
  read : List UInt8 → Option (α × List UInt8)
  read_write : ∀ (a : α) (rest : List UInt8), read (write a ++ rest) = some (a, rest)
  write_read : ∀ {bs : List UInt8} {a : α} {rest : List UInt8},
    read bs = some (a, rest) → bs = write a ++ rest

namespace Borsh

variable {α β : Type}

/-- `try_from_slice`: the whole input is one value. -/
def tryFromSlice [Borsh α] (bs : List UInt8) : Option α :=
  match read bs with
  | some (a, []) => some a
  | _ => none

theorem tryFromSlice_eq_some [Borsh α] {bs : List UInt8} {a : α} :
    tryFromSlice bs = some a ↔ bs = write a := by
  unfold tryFromSlice
  constructor
  · intro h
    split at h
    · rename_i a' hr
      obtain rfl := Option.some.inj h
      simpa using write_read hr
    · cases h
  · rintro rfl
    have h := read_write a []
    rw [List.append_nil] at h
    rw [h]

/-- Different values are written differently. -/
theorem write_injective [Borsh α] {a b : α} (h : write a = write b) : a = b := by
  have hread := read_write a []
  rw [h, read_write] at hread
  exact (Prod.mk.inj (Option.some.inj hread)).1.symm

/-! ## Bytes and little-endian integers -/

instance : Borsh UInt8 where
  write b := [b]
  read
    | [] => none
    | b :: rest => some (b, rest)
  read_write _ _ := rfl
  write_read {bs} := by
    intro a rest h
    cases bs with
    | nil => cases h
    | cons b bs =>
      obtain ⟨rfl, rfl⟩ := Prod.mk.inj (Option.some.inj h)
      rfl

/-- The `n` low bytes of a number, least significant first. -/
def leBytes : Nat → Nat → List UInt8
  | 0, _ => []
  | n + 1, x => UInt8.ofNat x :: leBytes n (x / 256)

/-- Read `n` bytes as a little-endian number. -/
def readLe : Nat → List UInt8 → Option (Nat × List UInt8)
  | 0, bs => some (0, bs)
  | _ + 1, [] => none
  | n + 1, b :: bs => (readLe n bs).map fun r => (b.toNat + 256 * r.1, r.2)

@[simp] theorem length_leBytes {n x : Nat} : (leBytes n x).length = n := by
  induction n generalizing x with
  | zero => rfl
  | succ n ih => rw [leBytes, List.length_cons, ih]

theorem readLe_leBytes {n x : Nat} (rest : List UInt8) (hx : x < 256 ^ n) :
    readLe n (leBytes n x ++ rest) = some (x, rest) := by
  induction n generalizing x with
  | zero =>
    obtain rfl : x = 0 := by simpa using hx
    rfl
  | succ n ih =>
    have hdiv : x / 256 < 256 ^ n := by
      rw [Nat.div_lt_iff_lt_mul (by decide)]
      rwa [pow_succ] at hx
    rw [leBytes, List.cons_append, readLe, ih hdiv]
    simp only [Option.map_some, Option.some.injEq, Prod.mk.injEq, and_true, UInt8.toNat_ofNat']
    omega

theorem readLe_eq_some {n x : Nat} {bs rest : List UInt8} (h : readLe n bs = some (x, rest)) :
    x < 256 ^ n ∧ bs = leBytes n x ++ rest := by
  induction n generalizing x bs with
  | zero =>
    obtain ⟨rfl, rfl⟩ := Prod.mk.inj (Option.some.inj h)
    exact ⟨by simp, rfl⟩
  | succ n ih =>
    cases bs with
    | nil => cases h
    | cons b bs =>
      rw [readLe, Option.map_eq_some_iff] at h
      obtain ⟨⟨y, rest'⟩, hr, hxy⟩ := h
      obtain ⟨rfl, rfl⟩ := Prod.mk.inj hxy
      obtain ⟨hy, rfl⟩ := ih hr
      have hb : b.toNat < 256 := UInt8.toNat_lt b
      refine ⟨by rw [pow_succ]; omega, ?_⟩
      have hhead : UInt8.ofNat (b.toNat + 256 * y) = b := by
        rw [← UInt8.toNat_inj, UInt8.toNat_ofNat']
        omega
      have htail : (b.toNat + 256 * y) / 256 = y := by omega
      rw [leBytes, hhead, htail, List.cons_append]

/-- A fixed-width value of `n` bytes: an unsigned or two's complement integer, or
    an array of `n` bytes whose first byte is the least significant one. -/
instance (n : Nat) : Borsh (BitVec (8 * n)) where
  write x := leBytes n x.toNat
  read bs := (readLe n bs).map fun r => (BitVec.ofNat (8 * n) r.1, r.2)
  read_write x rest := by
    have hx : x.toNat < 256 ^ n := by
      have := x.isLt
      rwa [pow_mul] at this
    rw [readLe_leBytes rest hx]
    simp
  write_read {bs a rest} h := by
    rw [Option.map_eq_some_iff] at h
    obtain ⟨⟨x, rest'⟩, hr, hxa⟩ := h
    obtain ⟨rfl, rfl⟩ := Prod.mk.inj hxa
    obtain ⟨hx, rfl⟩ := readLe_eq_some hr
    have hpow : x < 2 ^ (8 * n) := by rwa [pow_mul]
    rw [BitVec.toNat_ofNat, Nat.mod_eq_of_lt hpow]

/-! ## Values of one length -/

/-- A type whose values are all written in the same number of bytes. -/
class Sized (α : Type) [Borsh α] where
  size : Nat
  length_write : ∀ a : α, (write a).length = size

instance : Sized UInt8 := ⟨1, fun _ => rfl⟩

instance (n : Nat) : Sized (BitVec (8 * n)) := ⟨n, fun _ => length_leBytes⟩

/-! ## Building instances -/

/-- Read the fields of a variant. -/
def readAs [Borsh α] (f : α → β) (bs : List UInt8) : Option (β × List UInt8) :=
  (read bs).map fun r => (f r.1, r.2)

theorem readAs_write [Borsh α] {f : α → β} (a : α) (rest : List UInt8) :
    readAs f (write a ++ rest) = some (f a, rest) := by
  rw [readAs, read_write, Option.map_some]

theorem readAs_eq_some [Borsh α] {f : α → β} {bs rest : List UInt8} {b : β}
    (h : readAs f bs = some (b, rest)) : ∃ a, b = f a ∧ bs = write a ++ rest := by
  rw [readAs, Option.map_eq_some_iff] at h
  obtain ⟨⟨a, rest'⟩, hr, hb⟩ := h
  obtain ⟨rfl, rfl⟩ := Prod.mk.inj hb
  exact ⟨a, rfl, write_read hr⟩

/-- Restrict or rename: `emb` embeds the new type in one that has a codec, and
    `proj` recognises its image. -/
@[reducible] def restrict [Borsh α] (emb : β → α) (proj : α → Option β)
    (h : ∀ a b, proj a = some b ↔ a = emb b) : Borsh β where
  write b := write (emb b)
  read bs := (read bs).bind fun r => (proj r.1).map fun b => (b, r.2)
  read_write b rest := by
    rw [read_write]
    simp [(h (emb b) b).mpr rfl]
  write_read {bs b rest} hr := by
    rw [Option.bind_eq_some_iff] at hr
    obtain ⟨⟨a, rest'⟩, hra, hb⟩ := hr
    rw [Option.map_eq_some_iff] at hb
    obtain ⟨b', hab, hbb⟩ := hb
    obtain ⟨rfl, rfl⟩ := Prod.mk.inj hbb
    obtain rfl : a = emb b' := (h _ _).mp hab
    exact write_read hra

/-- A record is the tuple of its fields. -/
@[reducible] def record [Borsh α] (emb : β → α) (proj : α → β) (h : ∀ b, proj (emb b) = b)
    (h' : ∀ a, emb (proj a) = a) : Borsh β :=
  restrict emb (fun a => some (proj a)) fun a b =>
    ⟨fun hab => by rw [← Option.some.inj hab, h'], fun hab => by rw [hab, h]⟩

instance [Borsh α] [Borsh β] : Borsh (α × β) where
  write p := write p.1 ++ write p.2
  read bs := (read bs).bind fun r => (read r.2).map fun r' => ((r.1, r'.1), r'.2)
  read_write p rest := by
    rw [List.append_assoc, read_write]
    simp [read_write]
  write_read {bs p rest} h := by
    rw [Option.bind_eq_some_iff] at h
    obtain ⟨⟨a, r⟩, ha, hb⟩ := h
    rw [Option.map_eq_some_iff] at hb
    obtain ⟨⟨b, r'⟩, hb, hp⟩ := hb
    obtain ⟨rfl, rfl⟩ := Prod.mk.inj hp
    have hr : r = write b ++ r' := write_read hb
    rw [write_read ha, hr, List.append_assoc]

instance [Borsh α] [Borsh β] [Sized α] [Sized β] : Sized (α × β) where
  size := Sized.size α + Sized.size β
  length_write p := by
    show (write p.1 ++ write p.2).length = _
    rw [List.length_append, Sized.length_write, Sized.length_write]

/-- A restriction is written as what it is embedded in. -/
@[reducible] def Sized.restrict [Borsh α] [Sized α] [Borsh β] (emb : β → α)
    (h : ∀ b, write b = write (emb b)) : Sized β where
  size := Sized.size α
  length_write b := by
    rw [h, Sized.length_write]

instance : Borsh Bool :=
  restrict (fun b : Bool => if b then (1 : UInt8) else 0)
    (fun n => if n = 0 then some false else if n = 1 then some true else none) fun n b => by
      cases b <;> grind

instance : Borsh UInt16 :=
  record (α := BitVec (8 * 2)) UInt16.toBitVec UInt16.ofBitVec (fun _ => rfl) (fun _ => rfl)

instance : Borsh UInt32 :=
  record (α := BitVec (8 * 4)) UInt32.toBitVec UInt32.ofBitVec (fun _ => rfl) (fun _ => rfl)

instance : Borsh UInt64 :=
  record (α := BitVec (8 * 8)) UInt64.toBitVec UInt64.ofBitVec (fun _ => rfl) (fun _ => rfl)

instance : Borsh Int64 :=
  record (α := BitVec (8 * 8)) Int64.toBitVec Int64.ofBitVec (fun _ => rfl) (fun _ => rfl)

instance [Borsh α] : Borsh (Option α) where
  write
    | none => [0]
    | some a => 1 :: write a
  read
    | 0 :: rest => some (none, rest)
    | 1 :: rest => readAs some rest
    | _ => none
  read_write a rest := by
    cases a with
    | none => rfl
    | some a => exact readAs_write a rest
  write_read {bs a rest} h := by
    split at h
    · obtain ⟨rfl, rfl⟩ := Prod.mk.inj (Option.some.inj h)
      rfl
    · obtain ⟨a', rfl, rfl⟩ := readAs_eq_some h
      rfl
    · cases h

instance : Sized Bool := .restrict (fun b : Bool => if b then (1 : UInt8) else 0) fun _ => rfl

instance : Sized UInt16 := .restrict (α := BitVec (8 * 2)) UInt16.toBitVec fun _ => rfl

instance : Sized UInt32 := .restrict (α := BitVec (8 * 4)) UInt32.toBitVec fun _ => rfl

instance : Sized UInt64 := .restrict (α := BitVec (8 * 8)) UInt64.toBitVec fun _ => rfl

instance : Sized Int64 := .restrict (α := BitVec (8 * 8)) Int64.toBitVec fun _ => rfl

end Borsh
