import CloudProvider.Ipv4

/-!
# Blocks of addresses

A block is written `IP/length`. It has to be named by its first address, so the bits behind the
length are zero.

* `Cidr.check`: whether a text writes a block in this form.
* `Cidr.Fault`: what is wrong with a text that does not.
-/

namespace CloudProvider.Cidr

/-- What is wrong with the text of a block. -/
inductive Fault where
  /-- There is no slash. -/
  | noLength (block : String)
  | badAddress (address block : String)
  | badLength (length : String)
  | longLength (length : Nat)
  /-- The address is not the first one of the block. -/
  | hostBits (block : String) (network : Ipv4) (length : Nat)
  deriving DecidableEq, Repr

/-- The block that a text with host bits is corrected to. -/
def blockText (network : Ipv4) (length : Nat) : String :=
  s!"{network.text}/{length}"

/-- The wording of a fault. -/
def Fault.message : Fault → String
  | .noLength block => s!"Invalid CIDR format '{block}': expected IP/prefix"
  | .badAddress address block => s!"Invalid IP address '{address}' in CIDR '{block}'"
  | .badLength length => s!"Invalid prefix length '{length}': must be a number"
  | .longLength length => s!"Invalid prefix length '{length}': must be 0-32"
  | .hostBits block network length =>
    s!"'{block}' is not a network address, expected {blockText network length}"

/-- **Whether a text writes a block by its first address.** The address comes first, then a length
that fits in 32 bits and is at most 32, then the host bits. -/
def check (block : String) : Except Fault Unit :=
  match Text.cut? '/' block with
  | none => .error (.noLength block)
  | some (address, length) =>
    match Ipv4.ofText? address with
    | none => .error (.badAddress address block)
    | some a =>
      match Text.natural? (UInt32.size - 1) length with
      | none => .error (.badLength length)
      | some n =>
        if 32 < n then .error (.longLength n)
        else if a.network n = a then .ok ()
        else .error (.hostBits block (a.network n) n)

end CloudProvider.Cidr
