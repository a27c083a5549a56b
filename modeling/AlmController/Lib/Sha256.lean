import Mathlib.Data.Nat.Basic

/-!
# SHA-256

The hash of the secure hash standard, on lists of bytes: pad to blocks of 64 bytes, and compress
each block into eight words of 32 bits.

It is here to be evaluated, by the kernel as well: the sixteen words that the message schedule
looks back on are passed along from round to round, so a round needs no array.
-/

namespace Sha256

/-- The eight words that are compressed into. -/
structure Working where
  a : UInt32
  b : UInt32
  c : UInt32
  d : UInt32
  e : UInt32
  f : UInt32
  g : UInt32
  h : UInt32
  deriving DecidableEq, Repr

/-- The fractional parts of the square roots of the first eight primes. -/
def initial : Working :=
  ⟨0x6a09e667, 0xbb67ae85, 0x3c6ef372, 0xa54ff53a, 0x510e527f, 0x9b05688c, 0x1f83d9ab, 0x5be0cd19⟩

/-- The fractional parts of the cube roots of the first 64 primes. -/
def roundConstants : List UInt32 :=
  [0x428a2f98, 0x71374491, 0xb5c0fbcf, 0xe9b5dba5, 0x3956c25b, 0x59f111f1, 0x923f82a4, 0xab1c5ed5,
   0xd807aa98, 0x12835b01, 0x243185be, 0x550c7dc3, 0x72be5d74, 0x80deb1fe, 0x9bdc06a7, 0xc19bf174,
   0xe49b69c1, 0xefbe4786, 0x0fc19dc6, 0x240ca1cc, 0x2de92c6f, 0x4a7484aa, 0x5cb0a9dc, 0x76f988da,
   0x983e5152, 0xa831c66d, 0xb00327c8, 0xbf597fc7, 0xc6e00bf3, 0xd5a79147, 0x06ca6351, 0x14292967,
   0x27b70a85, 0x2e1b2138, 0x4d2c6dfc, 0x53380d13, 0x650a7354, 0x766a0abb, 0x81c2c92e, 0x92722c85,
   0xa2bfe8a1, 0xa81a664b, 0xc24b8b70, 0xc76c51a3, 0xd192e819, 0xd6990624, 0xf40e3585, 0x106aa070,
   0x19a4c116, 0x1e376c08, 0x2748774c, 0x34b0bcb5, 0x391c0cb3, 0x4ed8aa4a, 0x5b9cca4f, 0x682e6ff3,
   0x748f82ee, 0x78a5636f, 0x84c87814, 0x8cc70208, 0x90befffa, 0xa4506ceb, 0xbef9a3f7, 0xc67178f2]

def rotateRight (x n : UInt32) : UInt32 := (x >>> n) ||| (x <<< (32 - n))

def smallSigma0 (x : UInt32) : UInt32 := rotateRight x 7 ^^^ rotateRight x 18 ^^^ (x >>> 3)
def smallSigma1 (x : UInt32) : UInt32 := rotateRight x 17 ^^^ rotateRight x 19 ^^^ (x >>> 10)
def bigSigma0 (x : UInt32) : UInt32 := rotateRight x 2 ^^^ rotateRight x 13 ^^^ rotateRight x 22
def bigSigma1 (x : UInt32) : UInt32 := rotateRight x 6 ^^^ rotateRight x 11 ^^^ rotateRight x 25

def choose (x y z : UInt32) : UInt32 := (x &&& y) ^^^ (~~~x &&& z)
def majority (x y z : UInt32) : UInt32 := (x &&& y) ^^^ (x &&& z) ^^^ (y &&& z)

def Working.round (s : Working) (k w : UInt32) : Working :=
  let t := s.h + bigSigma1 s.e + choose s.e s.f s.g + k + w
  ⟨t + bigSigma0 s.a + majority s.a s.b s.c, s.a, s.b, s.c, s.d + t, s.e, s.f, s.g⟩

def Working.add (s t : Working) : Working :=
  ⟨s.a + t.a, s.b + t.b, s.c + t.c, s.d + t.d, s.e + t.e, s.f + t.f, s.g + t.g, s.h + t.h⟩

/-- The word of the schedule after these sixteen. -/
def nextWord (ws : List UInt32) : UInt32 :=
  smallSigma1 (ws.getD 14 0) + ws.getD 9 0 + smallSigma0 (ws.getD 1 0) + ws.getD 0 0

/-- One round for each constant, with the first of sixteen words. -/
def rounds : List UInt32 → List UInt32 → Working → Working
  | k :: ks, w :: ws, s => rounds ks (ws ++ [nextWord (w :: ws)]) (s.round k w)
  | _, _, s => s

/-- Bytes to words, the first byte on top. -/
def words : List UInt8 → List UInt32
  | a :: b :: c :: d :: bytes =>
    (a.toUInt32 <<< 24 ||| b.toUInt32 <<< 16 ||| c.toUInt32 <<< 8 ||| d.toUInt32) :: words bytes
  | _ => []

def compress (s : Working) (block : List UInt8) : Working :=
  s.add (rounds roundConstants (words block) s)

/-- A number in eight bytes, the first on top. -/
def bigEndian64 (n : Nat) : List UInt8 :=
  [56, 48, 40, 32, 24, 16, 8, 0].map fun s => UInt8.ofNat (n >>> s)

/-- A one bit, zeros up to the last eight bytes of a block, and the length in bits. -/
def pad (message : List UInt8) : List UInt8 :=
  message ++ 0x80 :: List.replicate ((119 - message.length % 64) % 64) 0 ++
    bigEndian64 (8 * message.length)

/-- Compress so many blocks. -/
def blocks : Nat → List UInt8 → Working → Working
  | 0, _, s => s
  | n + 1, bytes, s => blocks n (bytes.drop 64) (compress s (bytes.take 64))

/-- A word in four bytes, the first on top. -/
def bigEndian32 (x : UInt32) : List UInt8 :=
  [(x >>> 24).toUInt8, (x >>> 16).toUInt8, (x >>> 8).toUInt8, x.toUInt8]

def Working.bytes (s : Working) : List UInt8 :=
  [s.a, s.b, s.c, s.d, s.e, s.f, s.g, s.h].flatMap bigEndian32

def hash (message : List UInt8) : List UInt8 :=
  (blocks ((pad message).length / 64) (pad message) initial).bytes

theorem length_hash {message : List UInt8} : (hash message).length = 32 := rfl

/-- The first test vector of the standard, `abc`. -/
example : (hash [97, 98, 99]).take 8 = [0xba, 0x78, 0x16, 0xbf, 0x8f, 0x01, 0xcf, 0xea] := by
  decide +kernel

end Sha256
