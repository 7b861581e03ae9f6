/-!
# Texts as bytes

* `utf8Length`: lengths measured in bytes of UTF-8.
* `lastPos`: the last position between two characters within so many bytes.
* `encode`: the bytes of a text.
* `decodeLossy`: the text of any bytes, each ill-formed part becoming one U+FFFD.
-/

namespace CloudProvider.Text

/-- The number of bytes of a list of characters in UTF-8. -/
def utf8Length (cs : List Char) : Nat :=
  cs.foldr (fun c length => c.utf8Size + length) 0

/-- The last position at or before a byte of a text that does not lie within a character, searched
for backwards. -/
def lastPos (s : String) : Nat → s.Pos
  | 0 => s.startPos
  | n + 1 => if h : String.Pos.Raw.IsValid s ⟨n + 1⟩ then s.pos ⟨n + 1⟩ h else lastPos s n

/-- The bytes of a text in UTF-8. -/
def encode (s : String) : List UInt8 :=
  s.toUTF8.toList

/-! ## Decoding

The well-formed sequences are those of the Unicode standard. A lead byte fixes how many
continuation bytes follow and in which range the first of them lies; the others lie in 80..BF.
-/

/-- What has been read of a character: the value so far, the number of bytes that follow, and the
range of the next one. -/
structure Partial where
  value : Nat
  missing : Nat
  low : UInt8
  high : UInt8

/-- The character that starts with a byte: a whole one, a partial one, or none. -/
def leadByte (b : UInt8) : Option (Char ⊕ Partial) :=
  let v := b.toNat
  if b < 0x80 then some (.inl (Char.ofNat v))
  else if 0xC2 ≤ b ∧ b ≤ 0xDF then some (.inr ⟨v - 0xC0, 1, 0x80, 0xBF⟩)
  else if b = 0xE0 then some (.inr ⟨0, 2, 0xA0, 0xBF⟩)
  else if b = 0xED then some (.inr ⟨0xD, 2, 0x80, 0x9F⟩)
  else if 0xE1 ≤ b ∧ b ≤ 0xEF then some (.inr ⟨v - 0xE0, 2, 0x80, 0xBF⟩)
  else if b = 0xF0 then some (.inr ⟨0, 3, 0x90, 0xBF⟩)
  else if 0xF1 ≤ b ∧ b ≤ 0xF3 then some (.inr ⟨v - 0xF0, 3, 0x80, 0xBF⟩)
  else if b = 0xF4 then some (.inr ⟨4, 3, 0x80, 0x8F⟩)
  else none

/-- The mark that stands for an ill-formed part of the bytes. -/
def replacement : Char := '\uFFFD'

/-- One byte read at the start of a character: what is put out, and what is pending. -/
def startChar (b : UInt8) : List Char × Option Partial :=
  match leadByte b with
  | some (.inl c) => ([c], none)
  | some (.inr p) => ([], some p)
  | none => ([replacement], none)

/-- One byte read: what is put out, and what is pending after it. -/
def readByte (pending : Option Partial) (b : UInt8) : List Char × Option Partial :=
  match pending with
  | none => startChar b
  | some p =>
    if p.low ≤ b ∧ b ≤ p.high then
      let value := p.value * 64 + (b.toNat - 0x80)
      if p.missing ≤ 1 then ([Char.ofNat value], none)
      else ([], some ⟨value, p.missing - 1, 0x80, 0xBF⟩)
    else
      let next := startChar b
      (replacement :: next.1, next.2)

/-- The characters of the bytes that follow a pending character. -/
def decodeFrom (pending : Option Partial) : List UInt8 → List Char
  | [] => if pending.isSome then [replacement] else []
  | b :: bs =>
    let step := readByte pending b
    step.1 ++ decodeFrom step.2 bs

/-- The text of any bytes: each maximal part of a character that is cut short, and each byte that
starts none, becomes one U+FFFD. -/
def decodeLossy (bytes : List UInt8) : String :=
  String.ofList (decodeFrom none bytes)

/-- The text of well-formed bytes. -/
def decode? (bytes : List UInt8) : Option String :=
  String.fromUTF8? (ByteArray.mk bytes.toArray)

end CloudProvider.Text
