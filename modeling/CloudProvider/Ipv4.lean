import CloudProvider.Text.Digits
import CloudProvider.Text.Pieces

/-!
# Addresses of 32 bits

* `Ipv4.ofText?`: the address that four decimal numbers between dots write.
* `Ipv4.text`: an address in that form.
* `Ipv4.mask`, `Ipv4.network`: an address without the bits behind a number of leading ones.
-/

namespace CloudProvider

/-- An address of 32 bits. -/
structure Ipv4 where
  value : UInt32
  deriving DecidableEq, Repr

namespace Ipv4

/-- A number below 256 in decimal, without leading zeros. -/
def octet? (cs : List Char) : Option Nat :=
  if cs.head? = some '0' ∧ cs.length ≠ 1 ∨ 3 < cs.length then none
  else (Text.decimal? cs).filter (· < 256)

/-- The address of four numbers below 256, the first of them being the highest. -/
def ofOctets (a b c d : Nat) : Ipv4 :=
  ⟨UInt32.ofNat (((a * 256 + b) * 256 + c) * 256 + d)⟩

/-- **The address that a text writes.** -/
def ofText? (s : String) : Option Ipv4 :=
  match Text.piecesOf '.' s.toList with
  | [a, b, c, d] =>
    (octet? a).bind fun a => (octet? b).bind fun b => (octet? c).bind fun c =>
      (octet? d).map fun d => ofOctets a b c d
  | _ => none

/-- **An address as four numbers between dots.** -/
def text (a : Ipv4) : String :=
  let n := a.value.toNat
  ".".intercalate
    ([n >>> 24, (n >>> 16) % 256, (n >>> 8) % 256, n % 256].map fun octet => toString octet)

/-- The word of which the first `length` bits are ones, and no others. -/
def mask (length : Nat) : UInt32 :=
  let dropped := 32 - length
  -- A word that is shifted by its whole width stays as it is.
  if dropped < 32 then 0xFFFFFFFF <<< UInt32.ofNat dropped else 0

/-- An address with only its first `length` bits kept. -/
def network (a : Ipv4) (length : Nat) : Ipv4 :=
  ⟨a.value &&& mask length⟩

end Ipv4

end CloudProvider
