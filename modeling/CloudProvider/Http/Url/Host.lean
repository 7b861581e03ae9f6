import CloudProvider.Http.Url.Domain
import CloudProvider.Http.Url.Percent
import CloudProvider.Ipv4
import CloudProvider.Text.Pieces

/-!
# Hosts of URLs

* `Host.read`: the host of a URL with one of the usual schemes: an IP address or a name.
* `Host.readOpaque`: the host of any other URL.
* `Host.text`: how a host is written.
-/

namespace CloudProvider.Http

/-- Why a text is no URL. -/
inductive Url.Fault where
  /-- There is no scheme in front. -/
  | relative
  | emptyHost
  | badPort
  | badIpv4
  | badIpv6
  | badName
  | badCharacter
  deriving DecidableEq, Repr

/-- The wording of a fault. -/
def Url.Fault.message : Url.Fault → String
  | .relative => "relative URL without a base"
  | .emptyHost => "empty host"
  | .badPort => "invalid port number"
  | .badIpv4 => "invalid IPv4 address"
  | .badIpv6 => "invalid IPv6 address"
  | .badName => "invalid international domain name"
  | .badCharacter => "invalid domain character"

/-- The host of a URL. -/
inductive Host where
  | name (s : String)
  | ipv4 (a : Ipv4)
  /-- An address of eight pieces of 16 bits. -/
  | ipv6 (pieces : List Nat)
  deriving DecidableEq, Repr

namespace Host

open Url (Fault)

/-! ## IPv4 -/

/-- The number that digits of a base write. -/
def numberIn? (base : Nat) (cs : List Char) : Option Nat :=
  cs.foldl (fun n c => do
    let d ← Url.hexValue? c.toNat.toUInt8
    if c.toNat < 128 ∧ d.toNat < base then return base * (← n) + d.toNat else none) (some 0)

/-- A part of an address in base 10, or in base 8 after a zero, or in base 16 after `0x`. -/
def ipv4Part? : List Char → Option Nat
  | [] => none
  | '0' :: 'x' :: cs | '0' :: 'X' :: cs => numberIn? 16 cs
  | '0' :: c :: cs => numberIn? 8 (c :: cs)
  | cs => numberIn? 10 cs

/-- The parts of a name between its points, without an empty one at the end. -/
def parts (cs : List Char) : List (List Char) :=
  let ps := Text.piecesOf '.' cs
  if 1 < ps.length ∧ ps.getLast? = some [] then ps.dropLast else ps

/-- Whether a name can only be meant as an address: its last part is a number. -/
def endsInNumber (cs : List Char) : Bool :=
  ((parts cs).getLast?.any fun last =>
    (!last.isEmpty && last.all fun c => '0' ≤ c && c ≤ '9') || (ipv4Part? last).isSome)

/-- The address of some numbers: the last one stands for all octets that are left. -/
def ofNumbers? (numbers : List Nat) : Option Nat :=
  let front := numbers.dropLast
  numbers.getLast?.bind fun last =>
    if 4 < numbers.length ∨ front.any (255 < ·) ∨ Nat.pow 256 (4 - front.length) ≤ last then none
    else some (front.foldl (fun n d => 256 * n + d) 0 * Nat.pow 256 (4 - front.length) + last)

/-- An address in any of its forms. -/
def readIpv4 (cs : List Char) : Except Fault Host :=
  match ((parts cs).mapM ipv4Part?).bind ofNumbers? with
  | some n => .ok (.ipv4 ⟨UInt32.ofNat n⟩)
  | none => .error .badIpv4

/-! ## IPv6 -/

/-- A piece of one to four digits in base 16. -/
def ipv6Piece? (cs : List Char) : Option Nat :=
  if cs.isEmpty ∨ 4 < cs.length then none else numberIn? 16 cs

/-- Pieces between colons; an IPv4 address may stand for the last two. -/
def ipv6End? : List (List Char) → Option (List Nat)
  | [] => some []
  | [last] =>
    match Ipv4.ofText? (String.ofList last) with
    | some a => some [a.value.toNat / 65536, a.value.toNat % 65536]
    | none => (ipv6Piece? last).map fun n => [n]
  | p :: ps => do return (← ipv6Piece? p) :: (← ipv6End? ps)

/-- What a reader makes of the pieces of one side of a double colon, of which there may be none. -/
def ipv6Side? (read? : List (List Char) → Option (List Nat)) (cs : List Char) :
    Option (List Nat) :=
  if cs.isEmpty then some [] else read? (Text.piecesOf ':' cs)

/-- What stands before and after the first double colon. -/
def atDoubleColon? : List Char → Option (List Char × List Char)
  | ':' :: ':' :: rest => some ([], rest)
  | c :: rest => (atDoubleColon? rest).map fun (before, after) => (c :: before, after)
  | [] => none

/-- An address in which a double colon may stand for pieces that are zero. -/
def ipv6? (cs : List Char) : Option (List Nat) :=
  match atDoubleColon? cs with
  | none => (ipv6Side? ipv6End? cs).filter (·.length = 8)
  | some (before, after) => do
    let before ← ipv6Side? (·.mapM ipv6Piece?) before
    let after ← ipv6Side? ipv6End? after
    let given := before.length + after.length
    if 7 < given then none else return before ++ List.replicate (8 - given) 0 ++ after

def readIpv6 (cs : List Char) : Except Fault Host :=
  match ipv6? cs with
  | some pieces => .ok (.ipv6 pieces)
  | none => .error .badIpv6

/-- The lengths of the runs of zeros that start at each piece. -/
def zeroRuns : List Nat → List Nat
  | [] => []
  | n :: ns => (if n = 0 then (zeroRuns ns).headD 0 + 1 else 0) :: zeroRuns ns

/-- An address with its longest run of zeros, of at least two, as a double colon. -/
def ipv6Text (pieces : List Nat) : List Char :=
  let join (ps : List Nat) : List Char := [':'].intercalate (ps.map Text.hexadecimal)
  let longest := (zeroRuns pieces).foldl max 0
  if longest < 2 then join pieces
  else
    let start := (zeroRuns pieces).idxOf longest
    join (pieces.take start) ++ [':', ':'] ++ join (pieces.drop (start + longest))

/-! ## Names -/

/-- A name in ASCII and in lower case. -/
def readName (cs : List Char) : Except Fault (List Char) :=
  match Text.decode? (Url.percentDecode (Text.encode (String.ofList cs))) with
  | none => .error .badName
  | some s =>
    match Url.domain? s.toList with
    | some ascii => .ok ascii
    | none => .error .badName

/-! ## Hosts -/

/-- **The host of a URL with one of the usual schemes.** -/
def read (cs : List Char) : Except Fault Host :=
  match cs with
  | '[' :: rest =>
    if rest.getLast? = some ']' then readIpv6 rest.dropLast else .error .badIpv6
  | cs => do
    let name ← readName cs
    if name.isEmpty then throw .emptyHost
    else if endsInNumber name then readIpv4 name
    else return .name (String.ofList name)

/-- **The host of any other URL**, which is kept as it is apart from control characters and those
beyond ASCII. -/
def readOpaque (cs : List Char) : Except Fault Host :=
  match cs with
  | '[' :: rest =>
    if rest.getLast? = some ']' then readIpv6 rest.dropLast else .error .badIpv6
  | cs =>
    let forbidden : List Char :=
      ['\x00', '\t', '\n', '\r', ' ', '#', '/', ':', '<', '>', '?', '@', '[', '\\', ']', '^', '|']
    if cs.any (· ∈ forbidden) then .error .badCharacter
    else .ok (.name (String.ofList (Url.percentEncode Url.isPlain cs)))

/-- **How a host is written.** -/
def text : Host → String
  | .name s => s
  | .ipv4 a => a.text
  | .ipv6 pieces => "[" ++ String.ofList (ipv6Text pieces) ++ "]"

end Host

end CloudProvider.Http
