import CloudProvider.Text.Hexadecimal
import CloudProvider.Text.Utf8

/-!
# Characters of URLs

What may not stand in a part of a URL is written as the bytes of its UTF-8 form, each one as a
percent sign and two digits.

* `percentEncode`, `percentDecode`: texts with and without such bytes.
* `inPath`, `inQuery`, …: what may stand in a part of a URL.
-/

namespace CloudProvider.Http.Url

/-- A byte as a percent sign and two digits. -/
def percentByte (b : UInt8) : List Char :=
  ['%', (Text.hexDigit (b.toNat / 16)).toUpper, (Text.hexDigit (b.toNat % 16)).toUpper]

/-- A text with all characters that `keeps` does not allow written as bytes. -/
def percentEncode (keeps : Char → Bool) (cs : List Char) : List Char :=
  cs.flatMap fun c =>
    if keeps c then [c] else (Text.encode (String.singleton c)).flatMap percentByte

/-- The value of a digit in base 16. -/
def hexValue? (b : UInt8) : Option UInt8 :=
  if 48 ≤ b ∧ b ≤ 57 then some (b - 48)
  else if 65 ≤ b ∧ b ≤ 70 then some (b - 55)
  else if 97 ≤ b ∧ b ≤ 102 then some (b - 87)
  else none

/-- Bytes in which a percent sign and two digits stand for a byte. -/
def percentDecode : List UInt8 → List UInt8
  | [] => []
  | 37 :: c :: d :: rest =>
    match hexValue? c, hexValue? d with
    | some m, some n => (16 * m + n) :: percentDecode rest
    | _, _ => 37 :: percentDecode (c :: d :: rest)
  | b :: bs => b :: percentDecode bs

/-! ## What may stand in a URL -/

/-- The ASCII characters that are no control characters. -/
def isPlain (c : Char) : Bool := ' ' ≤ c && c ≤ '~'

def inFragment (c : Char) : Bool := isPlain c && c ∉ [' ', '"', '<', '>', '\x60']

def inPath (c : Char) : Bool := inFragment c && c ∉ ['#', '?', '\x7b', '\x7d']

def inUserInfo (c : Char) : Bool :=
  inPath c && c ∉ ['/', ':', ';', '=', '@', '[', '\\', ']', '^', '|']

/-- What may stand in a query; one of the usual schemes keeps no single quote. -/
def inQuery (isSpecial : Bool) (c : Char) : Bool :=
  isPlain c && c ∉ [' ', '"', '#', '<', '>'] && !(isSpecial && c = '\'')

end CloudProvider.Http.Url
