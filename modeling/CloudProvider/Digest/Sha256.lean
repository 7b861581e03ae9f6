import CloudProvider.Text.Hexadecimal

/-!
# SHA-256

The digest of FIPS 180-4, on lists of bytes.

* `Sha256.digest`: the 32 bytes of the digest.
* `Digest.hex`: bytes in base 16.
-/

namespace CloudProvider.Digest

/-- Bytes in base 16, two digits each. -/
def hex (bytes : List UInt8) : String :=
  String.ofList
    (bytes.flatMap fun b => [Text.hexDigit (b.toNat / 16), Text.hexDigit (b.toNat % 16)])

namespace Sha256

/-! ## Words -/

def rotate (x : UInt32) (n : UInt32) : UInt32 := (x >>> n) ||| (x <<< (32 - n))

def choose (x y z : UInt32) : UInt32 := (x &&& y) ^^^ (~~~x &&& z)

def majority (x y z : UInt32) : UInt32 := (x &&& y) ^^^ (x &&& z) ^^^ (y &&& z)

def bigSigma₀ (x : UInt32) : UInt32 := rotate x 2 ^^^ rotate x 13 ^^^ rotate x 22

def bigSigma₁ (x : UInt32) : UInt32 := rotate x 6 ^^^ rotate x 11 ^^^ rotate x 25

def smallSigma₀ (x : UInt32) : UInt32 := rotate x 7 ^^^ rotate x 18 ^^^ (x >>> 3)

def smallSigma₁ (x : UInt32) : UInt32 := rotate x 17 ^^^ rotate x 19 ^^^ (x >>> 10)

/-- The word of some bytes, the first of which is the highest. -/
def word (bytes : List UInt8) : UInt32 :=
  bytes.foldl (fun n b => (n <<< 8) ||| b.toUInt32) 0

/-- The four bytes of a word, the highest first. -/
def wordBytes (w : UInt32) : List UInt8 :=
  [(w >>> 24).toUInt8, (w >>> 16).toUInt8, (w >>> 8).toUInt8, w.toUInt8]

/-- A list in parts of `n + 1` items; the last one may be shorter. -/
def parts {α : Type} (n : Nat) : List α → List (List α)
  | [] => []
  | a :: rest => (a :: rest.take n) :: parts n (rest.drop n)
  termination_by l => l.length
  decreasing_by exact Nat.lt_succ_of_le (List.length_drop ▸ Nat.sub_le _ _)

/-! ## Compression -/

/-- The first 32 bits of the fractional parts of the cube roots of the first 64 primes. -/
def constants : List UInt32 :=
  [0x428a2f98, 0x71374491, 0xb5c0fbcf, 0xe9b5dba5, 0x3956c25b, 0x59f111f1, 0x923f82a4, 0xab1c5ed5,
   0xd807aa98, 0x12835b01, 0x243185be, 0x550c7dc3, 0x72be5d74, 0x80deb1fe, 0x9bdc06a7, 0xc19bf174,
   0xe49b69c1, 0xefbe4786, 0x0fc19dc6, 0x240ca1cc, 0x2de92c6f, 0x4a7484aa, 0x5cb0a9dc, 0x76f988da,
   0x983e5152, 0xa831c66d, 0xb00327c8, 0xbf597fc7, 0xc6e00bf3, 0xd5a79147, 0x06ca6351, 0x14292967,
   0x27b70a85, 0x2e1b2138, 0x4d2c6dfc, 0x53380d13, 0x650a7354, 0x766a0abb, 0x81c2c92e, 0x92722c85,
   0xa2bfe8a1, 0xa81a664b, 0xc24b8b70, 0xc76c51a3, 0xd192e819, 0xd6990624, 0xf40e3585, 0x106aa070,
   0x19a4c116, 0x1e376c08, 0x2748774c, 0x34b0bcb5, 0x391c0cb3, 0x4ed8aa4a, 0x5b9cca4f, 0x682e6ff3,
   0x748f82ee, 0x78a5636f, 0x84c87814, 0x8cc70208, 0x90befffa, 0xa4506ceb, 0xbef9a3f7, 0xc67178f2]

/-- The working variables. -/
structure State where
  (a b c d e f g h : UInt32)

/-- The first 32 bits of the fractional parts of the square roots of the first 8 primes. -/
def State.initial : State :=
  ⟨0x6a09e667, 0xbb67ae85, 0x3c6ef372, 0xa54ff53a, 0x510e527f, 0x9b05688c, 0x1f83d9ab, 0x5be0cd19⟩

def State.words (s : State) : List UInt32 := [s.a, s.b, s.c, s.d, s.e, s.f, s.g, s.h]

def State.add (s t : State) : State :=
  ⟨s.a + t.a, s.b + t.b, s.c + t.c, s.d + t.d, s.e + t.e, s.f + t.f, s.g + t.g, s.h + t.h⟩

/-- The words of the message schedule, from the sixteen last ones on. -/
def schedule : Nat → List UInt32 → List UInt32
  | 0, _ => []
  | n + 1, w =>
    let next := smallSigma₁ (w.getD 14 0) + w.getD 9 0 + smallSigma₀ (w.getD 1 0) + w.getD 0 0
    w.getD 0 0 :: schedule n (w.drop 1 ++ [next])

/-- One round, with the sum of its constant and its word of the schedule. -/
def State.round (s : State) (kw : UInt32) : State :=
  let t := s.h + bigSigma₁ s.e + choose s.e s.f s.g + kw
  let u := bigSigma₀ s.a + majority s.a s.b s.c
  ⟨t + u, s.a, s.b, s.c, s.d + t, s.e, s.f, s.g⟩

/-- One block of 64 bytes taken in. -/
def State.compress (s : State) (block : List UInt8) : State :=
  let w := schedule 64 ((parts 3 block).map word)
  s.add ((List.zipWith (· + ·) constants w).foldl State.round s)

/-! ## Digests -/

/-- A message filled up to whole blocks: a one bit, zeros, and the length in bits on 64 bits. -/
def pad (message : List UInt8) : List UInt8 :=
  let zeros := (119 - message.length % 64) % 64
  let length := UInt64.ofNat (8 * message.length)
  message ++ ((0x80 : UInt8) :: List.replicate zeros 0)
    ++ wordBytes (length >>> 32).toUInt32 ++ wordBytes length.toUInt32

/-- **The digest of a message.** -/
def digest (message : List UInt8) : List UInt8 :=
  ((parts 63 (pad message)).foldl State.compress .initial).words.flatMap wordBytes

end Sha256

end CloudProvider.Digest
