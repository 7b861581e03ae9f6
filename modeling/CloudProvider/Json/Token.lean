import CloudProvider.Json.Basic
import CloudProvider.Text.Digits

/-!
# The tokens of a JSON text

A text is cut into tokens by an automaton that takes one character at a time. Where the text goes
wrong the automaton puts out `Token.bad` and stops, so whoever reads the tokens finds the fault at
its place.

* `Numeral`: a number as it is written, and `Numeral.value?`, the number it stands for.
* `Token.assemble`: the text that quoted characters and escapes stand for.
* `Token.ofChars`: the tokens of a text.
-/

namespace CloudProvider

/-! ## Numbers as they are written -/

/-- The parts of a written number, with its digits from the first to the last. -/
structure Numeral where
  negative : Bool
  whole : List Nat
  /-- The digits after the point; a number without a point has none. -/
  fraction : List Nat
  /-- Whether the exponent is negative, and its digits. -/
  exponent : Option (Bool × List Nat)
  deriving DecidableEq, Repr

namespace Numeral

/-- As many digits put behind `n` as it can take below `2 ^ 64`, and how many are left over. -/
def extend (n : Nat) : List Nat → Nat × Nat
  | [] => (n, 0)
  | d :: ds => if 10 * n + d < UInt64.size then extend (10 * n + d) ds else (n, (d :: ds).length)

/-- The number that digits write. -/
def ofDigits (ds : List Nat) : Nat :=
  ds.foldl (fun n d => 10 * n + d) 0

/-- The number as a double: the significand holds the digits that fit in 64 bits, and the digits of
the whole part that do not fit count as powers of ten. -/
def double? (n : Numeral) : Option Double :=
  let (whole, excess) := extend 0 n.whole
  let (significand, unread) := extend whole n.fraction
  let places : Int := excess - (n.fraction.length - unread : Nat)
  let shift : Int := match n.exponent with
    | none => 0
    | some (below, ds) => if below then -(ofDigits ds : Int) else ofDigits ds
  (Double.scale significand (places + shift)).map fun x => if n.negative then x.negate else x

/-- **The number that a numeral stands for**: an integer if it is written as one and fits in 64
bits, and otherwise a double, unless it is too large for that. Minus zero is a double. -/
def value? (n : Numeral) : Option Json :=
  let (whole, excess) := extend 0 n.whole
  if n.fraction.isEmpty && n.exponent.isNone && excess == 0 then
    if !n.negative then some (.int whole)
    else if whole ≠ 0 ∧ whole ≤ 0x8000000000000000 then some (.int (-whole))
    else n.double?.map .float
  else n.double?.map .float

end Numeral

/-! ## Tokens -/

/-- A token of a JSON text. -/
inductive Token where
  | openBrace | closeBrace | openBracket | closeBracket | comma | colon
  | null
  | bool (b : Bool)
  | number (n : Numeral)
  /-- A quoted text, or nothing if it holds an escaped surrogate outside a pair. -/
  | text (s : Option String)
  /-- The place from which on the text is no JSON. -/
  | bad
  deriving DecidableEq, Repr

namespace Token

/-- Whether a UTF-16 unit is the first half of a surrogate pair. -/
def isLeading (u : Nat) : Bool := 0xD800 ≤ u && u ≤ 0xDBFF

/-- Whether a UTF-16 unit is the second half of a surrogate pair. -/
def isTrailing (u : Nat) : Bool := 0xDC00 ≤ u && u ≤ 0xDFFF

/-- The text that plain characters and escaped UTF-16 units stand for. Surrogates count only in
pairs of escapes. -/
def assemble : List (Char ⊕ Nat) → Option (List Char)
  | [] => some []
  | .inl c :: rest => (assemble rest).map (c :: ·)
  | .inr u :: rest =>
    if isTrailing u then none
    else if isLeading u then
      match rest with
      | .inr v :: rest =>
        if isTrailing v then
          let c := Char.ofNat (0x10000 + (u - 0xD800) * 0x400 + (v - 0xDC00))
          (assemble rest).map (c :: ·)
        else none
      | _ => none
    else (assemble rest).map (Char.ofNat u :: ·)

/-- What has been read of a number. -/
inductive Phase where
  | sign | zero | whole | point | fraction | mark | exponentSign | exponent
  deriving DecidableEq, Repr

/-- Whether a number may end after a phase. -/
def Phase.final : Phase → Bool
  | .zero | .whole | .fraction | .exponent => true
  | _ => false

/-- The state of the automaton. -/
inductive Lexing where
  /-- Between two tokens. -/
  | between
  /-- Within a word, of which some letters are to come. -/
  | word (rest : List Char) (t : Token)
  | number (phase : Phase) (n : Numeral)
  /-- Within quotes, with what was read in reverse. -/
  | quoted (units : List (Char ⊕ Nat))
  | escape (units : List (Char ⊕ Nat))
  /-- Within an escape of four digits, of which some are to come. -/
  | hex (units : List (Char ⊕ Nat)) (value missing : Nat)
  /-- After a fault. -/
  | stopped

/-- The characters that may stand between tokens. -/
def isSpace (c : Char) : Bool := c = ' ' || c = '\t' || c = '\n' || c = '\r'

/-- A fault: nothing is read after it. -/
def fault : List Token × Lexing := ([.bad], .stopped)

/-- A character between two tokens. -/
def start (c : Char) : List Token × Lexing :=
  if isSpace c then ([], .between)
  else match c with
    | '\x7b' => ([.openBrace], .between)
    | '\x7d' => ([.closeBrace], .between)
    | '[' => ([.openBracket], .between)
    | ']' => ([.closeBracket], .between)
    | ',' => ([.comma], .between)
    | ':' => ([.colon], .between)
    | '"' => ([], .quoted [])
    | 'n' => ([], .word ['u', 'l', 'l'] .null)
    | 't' => ([], .word ['r', 'u', 'e'] (.bool true))
    | 'f' => ([], .word ['a', 'l', 's', 'e'] (.bool false))
    | '-' => ([], .number .sign ⟨true, [], [], none⟩)
    | '0' => ([], .number .zero ⟨false, [0], [], none⟩)
    | c =>
      match Text.digit? c with
      | some d => ([], .number .whole ⟨false, [d], [], none⟩)
      | none => fault

/-- A numeral with one more digit behind its exponent. -/
def withExponentDigit (n : Numeral) (d : Nat) : Numeral :=
  { n with exponent := n.exponent.map fun e => (e.1, e.2 ++ [d]) }

/-- How a number goes on with a character, if it does. A zero in front ends the whole part. -/
def continueNumber? (phase : Phase) (n : Numeral) (c : Char) : Option (Phase × Numeral) :=
  let digit := Text.digit? c
  match phase with
  | .sign => digit.map fun d => (if d = 0 then .zero else .whole, { n with whole := [d] })
  | .zero | .whole =>
    match digit with
    | some d => if phase = .whole then some (.whole, { n with whole := n.whole ++ [d] }) else none
    | none =>
      if c = '.' then some (.point, n)
      else if c = 'e' ∨ c = 'E' then some (.mark, { n with exponent := some (false, []) })
      else none
  | .point => digit.map fun d => (.fraction, { n with fraction := [d] })
  | .fraction =>
    match digit with
    | some d => some (.fraction, { n with fraction := n.fraction ++ [d] })
    | none =>
      if c = 'e' ∨ c = 'E' then some (.mark, { n with exponent := some (false, []) }) else none
  | .mark =>
    match digit with
    | some d => some (.exponent, withExponentDigit n d)
    | none =>
      if c = '+' then some (.exponentSign, n)
      else if c = '-' then some (.exponentSign, { n with exponent := some (true, []) })
      else none
  | .exponentSign | .exponent => digit.map fun d => (.exponent, withExponentDigit n d)

/-- The value of a hexadecimal digit. -/
def hexValue? (c : Char) : Option Nat :=
  if '0' ≤ c ∧ c ≤ '9' then some (c.toNat - 48)
  else if 'a' ≤ c ∧ c ≤ 'f' then some (c.toNat - 87)
  else if 'A' ≤ c ∧ c ≤ 'F' then some (c.toNat - 55)
  else none

/-- The character that a letter after a backslash stands for. -/
def unescape? (c : Char) : Option Char :=
  match c with
  | '"' => some '"'
  | '\\' => some '\\'
  | '/' => some '/'
  | 'b' => some '\x08'
  | 'f' => some '\x0c'
  | 'n' => some '\n'
  | 'r' => some '\r'
  | 't' => some '\t'
  | _ => none

/-- **One character taken**: the tokens that it ends, and the state after it. -/
def step (state : Lexing) (c : Char) : List Token × Lexing :=
  match state with
  | .between => start c
  | .word rest t =>
    match rest with
    | [] => (t :: (start c).1, (start c).2)
    | [r] => if c = r then ([t], .between) else fault
    | r :: rest => if c = r then ([], .word rest t) else fault
  | .number phase n =>
    match continueNumber? phase n c with
    | some (phase, n) => ([], .number phase n)
    | none =>
      if !phase.final || (phase = .zero && (Text.digit? c).isSome) then fault
      else (.number n :: (start c).1, (start c).2)
  | .quoted units =>
    if c = '"' then ([.text ((assemble units.reverse).map String.ofList)], .between)
    else if c = '\\' then ([], .escape units)
    else if c.toNat < 0x20 then fault
    else ([], .quoted (.inl c :: units))
  | .escape units =>
    if c = 'u' then ([], .hex units 0 4)
    else
      match unescape? c with
      | some d => ([], .quoted (.inl d :: units))
      | none => fault
  | .hex units value missing =>
    match hexValue? c with
    | none => fault
    | some d =>
      let value := 16 * value + d
      if missing ≤ 1 then ([], .quoted (.inr value :: units))
      else ([], .hex units value (missing - 1))
  | .stopped => ([], .stopped)

/-- The tokens that the end of the text ends. -/
def finish : Lexing → List Token
  | .between | .stopped => []
  | .number phase n => if phase.final then [.number n] else [.bad]
  | _ => [.bad]

/-- The tokens of the rest of a text. -/
def scan (state : Lexing) : List Char → List Token
  | [] => finish state
  | c :: cs =>
    let (tokens, next) := step state c
    tokens ++ scan next cs

/-- **The tokens of a text**, up to its first fault. -/
def ofChars (cs : List Char) : List Token := scan .between cs

end Token

end CloudProvider
