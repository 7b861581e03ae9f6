import CloudProvider.Http.Url.Mapping
import CloudProvider.Http.Url.Punycode
import CloudProvider.Text.Direction
import CloudProvider.Text.Joining
import CloudProvider.Text.Mark
import CloudProvider.Text.Normal.Form
import CloudProvider.Text.Pieces

/-!
# Domain names

A name is made of labels between points. Each label has a form with all characters and one in ASCII,
and many texts write the same label. The rules are those of UTS 46 without transitional forms.

* `Label.read?`: the labels that a text between points writes.
* `Label.ascii`: a label in ASCII.
* `isBidirectional`, `Label.isDirected`: the rule for names with right-to-left letters.
* `domain?`: the name that a text writes, in ASCII.
-/

namespace CloudProvider.Http.Url

open Text (Direction Joining combiningClass direction isMark joining normalize)

/-- A label of a name with all its characters. -/
abbrev Label := List Char

def isAscii (c : Char) : Bool := c.toNat < 128

/-- The ASCII characters that may not stand in a name. -/
def isForbidden (c : Char) : Bool :=
  c ≤ ' ' || c = '\x7f' || c ∈ ['%', '#', '/', ':', '<', '>', '?', '@', '[', '\\', ']', '^', '|']

/-- The characters that a text stands for, unless one of them may stand in no name. -/
def mapped? (cs : List Char) : Option (List Char) :=
  if cs.any isDisallowed then none
  else
    let cs := normalize (cs.flatMap canonical)
    if cs.any isForbidden then none else some cs

namespace Label

/-! ## What a label may hold -/

/-- Whether cursive characters join across a place, towards the characters in `beside`. -/
def joinsAt (towards : Joining) (beside : List Char) : Bool :=
  match beside.map joining |>.dropWhile (· = .transparent) with
  | j :: _ => j = towards || j = .dual
  | [] => false

/-- Whether the joiners of a label are where they change how it looks: after a sign that takes the
vowel off a letter, or, for the one that keeps characters apart, where they would join. The
characters in `before` are in reverse. -/
def joinersFit (before : List Char) : List Char → Bool
  | [] => true
  | c :: rest =>
    let fits :=
      if c = '\u200c' ∨ c = '\u200d' then
        match before with
        | [] => false
        | b :: _ =>
          combiningClass b.toNat = 9 ||
            (c = '\u200c' && joinsAt .left before && joinsAt .right rest)
      else true
    fits && joinersFit (c :: before) rest

/-- The greatest number of characters of a label beyond ASCII. -/
def maxLength : Nat := 1000

/-- The greatest number of characters of an ASCII form, without what is in front of it. -/
def maxEncodedLength : Nat := 2000

/-- Whether a label begins with a character of its own, joins nothing in vain and is not too
long. -/
def isValid (l : Label) : Bool :=
  !l.head?.any isMark && joinersFit [] l && (l.all isAscii || l.length ≤ maxLength)

/-! ## Forms -/

/-- What stands in front of the ASCII form of a label. -/
def mark : List Char := ['x', 'n', '-', '-']

/-- The label of an ASCII form, which is in lower case and without the mark in front. Only a label
that stands for itself has such a form. -/
def decode? (cs : List Char) : Option Label :=
  if cs.any (!isAscii ·) || cs = [] || cs.getLast? = some '-' || maxEncodedLength < cs.length then
    none
  else
    (Punycode.decode? cs).filter fun l => mapped? l = some l && !l.contains '.'

/-- The label of a text in which each character stands for itself. -/
def ofMapped? (cs : List Char) : Option Label := do
  let label ← if mark.isPrefixOf cs then decode? (cs.drop mark.length) else some cs
  if isValid label then some label else none

/-- **The labels that a text between points writes**: some characters stand for points as well. -/
def read? (cs : List Char) : Option (List Label) := do
  (Text.piecesOf '.' (← mapped? cs)).mapM ofMapped?

/-- **A label in ASCII.** -/
def ascii (l : Label) : List Char :=
  if l.all isAscii then l else mark ++ Punycode.encode l

/-! ## Directions -/

/-- Whether a label without its trailing marks, which are left out already, is written from left to
right all through. -/
def isLeftToRight (directions : List Direction) : Bool :=
  directions.all (· ∈ [.l, .en, .es, .cs, .et, .on, .bn, .nsm]) &&
    directions.getLast?.all (· ∈ [.l, .en])

/-- Whether a label without its trailing marks is written from right to left all through, with
digits of one kind. -/
def isRightToLeft (directions : List Direction) : Bool :=
  directions.all (· ∈ [.r, .al, .an, .en, .es, .cs, .et, .on, .bn, .nsm]) &&
    directions.getLast?.all (· ∈ [.r, .al, .en, .an]) &&
    !(directions.contains .en && directions.contains .an)

/-- **Whether a label has one direction**, which its first character gives. -/
def isDirected (l : Label) : Bool :=
  let directions := (l.map direction).reverse.dropWhile (· = .nsm) |>.reverse
  match l.map direction with
  | [] => true
  | .l :: _ => isLeftToRight directions
  | .r :: _ | .al :: _ => isRightToLeft directions
  | _ => false

end Label

/-- Whether some label is written from right to left. -/
def isBidirectional (labels : List Label) : Bool :=
  labels.any fun l => l.any fun c => direction c ∈ [Direction.r, .al, .an]

/-- **The name that a text writes, in ASCII**, if it writes one. -/
def domain? (cs : List Char) : Option (List Char) := do
  let labels := (← (Text.piecesOf '.' cs).mapM Label.read?).flatten
  if isBidirectional labels && !labels.all Label.isDirected then none
  else return ['.'].intercalate (labels.map Label.ascii)

end CloudProvider.Http.Url
