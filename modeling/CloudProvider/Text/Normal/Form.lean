import CloudProvider.Text.Normal.CombiningClass
import CloudProvider.Text.Normal.Decomposition

/-!
# Normal form

Many characters can be written in one piece or as a letter and marks. In the normal form all that
can be put together is in one piece.

* `decompose`: a text with its characters taken to pieces and the marks in a fixed order.
* `normalize`: a text in normal form C.
-/

namespace CloudProvider.Text

/-! ## Korean syllables -/

/-- The parts of a Korean syllable. -/
def syllableParts (n : Nat) : List Nat :=
  let i := n - 0xAC00
  let final := if i % 28 = 0 then [] else [0x11A7 + i % 28]
  (0x1100 + i / 588) :: (0x1161 + i % 588 / 28) :: final

/-- The syllable that a part joins to: an initial and a medial, or both and a final. -/
def syllable? (a b : Nat) : Option Nat :=
  if 0x1100 ≤ a ∧ a < 0x1113 ∧ 0x1161 ≤ b ∧ b < 0x1176 then
    some (0xAC00 + ((a - 0x1100) * 21 + (b - 0x1161)) * 28)
  else if 0xAC00 ≤ a ∧ a < 0xD7A4 ∧ (a - 0xAC00) % 28 = 0 ∧ 0x11A7 < b ∧ b < 0x11C3 then
    some (a + (b - 0x11A7))
  else none

/-! ## Pieces -/

/-- What stands for a code point that always gives way to others. -/
def substitution (n : Nat) : List Nat :=
  match findBy (fun r => side n r.1 r.1) variants with
  | some (_, m) => [m]
  | none => ((findBy (fun r => side n r.1 r.1) ligatures).map Prod.snd).getD [n]

/-- The pieces of a code point, of which as many as `depth` are taken off one after another. -/
def piecesWithin : Nat → Nat → List Nat
  | 0, n => [n]
  | depth + 1, n =>
    if 0xAC00 ≤ n ∧ n < 0xD7A4 then syllableParts n
    else
      match findBy (fun r => side n r.1 r.1) composites with
      | some (_, a, b) => piecesWithin depth a ++ [b]
      | none => substitution n

/-- The pieces of a code point; no more than three can be taken off. -/
def piecesOfCode (n : Nat) : List Nat := piecesWithin 4 n

/-- A code point put after others that are in reverse, before all marks there of a higher class. -/
def place (n : Nat) : List Nat → List Nat
  | [] => [n]
  | m :: before =>
    if combiningClass n ≠ 0 ∧ combiningClass n < combiningClass m then m :: place n before
    else n :: m :: before

/-- **The pieces of a text**, with the marks on each letter in the order of their classes. -/
def decompose (codes : List Nat) : List Nat :=
  ((codes.flatMap piecesOfCode).foldl (fun before n => place n before) []).reverse

/-! ## Composition -/

/-- The code point that two others make together. -/
def composite? (a b : Nat) : Option Nat :=
  match syllable? a b with
  | some n => some n
  | none => (composites.find? fun r => r.2.1 = a && r.2.2 = b).map fun r => r.1

/-- What has been put together: the text before the last letter, that letter, and the marks on it
that are left, all in reverse. -/
structure Assembly where
  before : List Nat
  letter : Option Nat
  marks : List Nat

namespace Assembly

/-- The text so far, in reverse. -/
def all (s : Assembly) : List Nat := s.marks ++ s.letter.toList ++ s.before

/-- Whether nothing stands between the last letter and a code point that keeps them apart. -/
def reaches (s : Assembly) (n : Nat) : Bool :=
  match s.marks with
  | [] => true
  | m :: _ => combiningClass m < combiningClass n

/-- A code point joined to the last letter, or put after it. -/
def add (s : Assembly) (n : Nat) : Assembly :=
  match s.letter.bind fun a => if s.reaches n then composite? a n else none with
  | some c => { s with letter := some c }
  | none =>
    if combiningClass n = 0 then ⟨s.all, some n, []⟩
    else { s with marks := n :: s.marks }

end Assembly

/-- **A text in normal form C.** -/
def normalize (cs : List Char) : List Char :=
  let codes := decompose (cs.map Char.toNat)
  ((codes.foldl Assembly.add ⟨[], none, []⟩).all.reverse).map Char.ofNat

end CloudProvider.Text
