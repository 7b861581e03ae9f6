/-!
# Names beyond ASCII

A label with characters beyond ASCII has a form in ASCII, that of RFC 3492: its ASCII characters, a
hyphen, and digits that tell which other characters stand where.

* `Punycode.encode`: the ASCII form of a label.
* `Punycode.decode?`: the label of an ASCII form.
-/

namespace CloudProvider.Http.Url.Punycode

/-- The digit of a value below 36. -/
def digit (n : Nat) : Char :=
  if n < 26 then Char.ofNat (97 + n) else Char.ofNat (22 + n)

/-- The value below which the digit at a place is the last one. -/
def threshold (place bias : Nat) : Nat := max 1 (min 26 (place - bias))

theorem threshold_pos (place bias : Nat) : 0 < threshold place bias := by
  unfold threshold
  omega

/-- A number as digits of variable weight, from the least place on. -/
def digits (bias place n : Nat) : List Char :=
  let t := threshold place bias
  if n < t then [digit n]
  else digit (t + (n - t) % (36 - t)) :: digits bias (place + 36) ((n - t) / (36 - t))
  termination_by n
  decreasing_by
    have := threshold_pos place bias
    have := Nat.div_le_self (n - threshold place bias) (36 - threshold place bias)
    omega

/-- A difference scaled down, with the bias that counts the divisions. -/
def settle (bias delta : Nat) : Nat :=
  if 455 < delta then settle (bias + 36) (delta / 35) else bias + 36 * delta / (delta + 38)
  termination_by delta
  decreasing_by omega

/-- The bias after a difference, when `count` characters are written. -/
def adapt (delta count : Nat) (isFirst : Bool) : Nat :=
  let delta := if isFirst then delta / 700 else delta / 2
  settle 0 (delta + delta / count)

/-- What has been written: the digits, the difference so far, the bias and the characters done. -/
structure Progress where
  output : List Char
  delta : Nat
  bias : Nat
  done : Nat

/-- One character passed while those of code point `n` are written, after `basic` ASCII ones. -/
def Progress.pass (basic n : Nat) (p : Progress) (c : Char) : Progress :=
  if c.toNat < n then { p with delta := p.delta + 1 }
  else if c.toNat = n then
    { output := p.output ++ digits p.bias 36 p.delta
      delta := 0
      bias := adapt p.delta (p.done + 1) (p.done = basic)
      done := p.done + 1 }
  else p

/-- All characters of some code points written, from the one `n` on. -/
def writeAll (label : List Char) (basic : Nat) : Nat → List Nat → Progress → Progress
  | _, [], p => p
  | n, m :: rest, p =>
    let p := { p with delta := p.delta + (m - n) * (p.done + 1) }
    let p := label.foldl (Progress.pass basic m) p
    writeAll label basic (m + 1) rest { p with delta := p.delta + 1 }

/-- **The ASCII form of a label.** -/
def encode (label : List Char) : List Char :=
  let basic := label.filter fun c => c.toNat < 128
  let others := ((label.map Char.toNat).filter (128 ≤ ·)).mergeSort.eraseDups
  let start := if basic.isEmpty then [] else basic ++ ['-']
  (writeAll label basic.length 128 others ⟨start, 0, 72, basic.length⟩).output

/-! ## Reading -/

/-- The value of a digit. -/
def digitValue? (c : Char) : Option Nat :=
  if 'a' ≤ c ∧ c ≤ 'z' then some (c.toNat - 97)
  else if 'A' ≤ c ∧ c ≤ 'Z' then some (c.toNat - 65)
  else if '0' ≤ c ∧ c ≤ '9' then some (c.toNat - 22)
  else none

/-- Numbers have 32 bits. -/
def numberLimit : Nat := UInt32.size

/-- A number in front of a text, added to another, and what follows it. -/
def readNumber? (bias place weight n : Nat) : List Char → Option (Nat × List Char)
  | [] => none
  | c :: rest => do
    let d ← digitValue? c
    let t := threshold place bias
    let n := n + d * weight
    if numberLimit ≤ n then none
    else if d < t then return (n, rest)
    else if numberLimit ≤ weight * (36 - t) then none
    else readNumber? bias (place + 36) (weight * (36 - t)) n rest

theorem readNumber?_length {bias place weight n : Nat} {cs : List Char} {r : Nat × List Char}
    (h : readNumber? bias place weight n cs = some r) : r.2.length < cs.length := by
  induction cs generalizing place weight n with
  | nil => simp [readNumber?] at h
  | cons c cs ih =>
    simp only [readNumber?, Option.bind_eq_bind, Option.bind_eq_some_iff] at h
    obtain ⟨d, -, h⟩ := h
    split at h
    · simp at h
    · split at h
      · simp only [Option.pure_def, Option.some.injEq] at h
        simp [← h]
      · split at h
        · simp at h
        · have := ih h
          simp only [List.length_cons]
          omega

/-- A code point as a character, unless there is none. -/
def charOf? (n : Nat) : Option Char :=
  if n.isValidChar then some (Char.ofNat n) else none

/-- The label that digits make of the characters `label`. The next character is of code point `code`
or above and stands at the place `i` or behind it. -/
def readAll? (code bias i : Nat) (label cs : List Char) : Option (List Char) :=
  match cs with
  | [] => some label
  | c :: rest =>
    match _h : readNumber? bias 36 1 i (c :: rest) with
    | none => none
    | some (j, rest') =>
      let count := label.length + 1
      let code := code + j / count
      match charOf? code with
      | none => none
      | some next =>
        readAll? code (adapt (j - i) count (i = 0)) (j % count + 1)
          (label.insertIdx (j % count) next) rest'
  termination_by cs.length
  decreasing_by
    have := readNumber?_length _h
    simpa using this

/-- **The label of an ASCII form**, whose ASCII characters are taken in lower case. -/
def decode? (cs : List Char) : Option (List Char) :=
  match cs.reverse.span (· ≠ '-') with
  | (digits, '-' :: basic@(_ :: _)) =>
    readAll? 128 72 0 (basic.reverse.map Char.toLower) digits.reverse
  | _ => readAll? 128 72 0 [] cs

end CloudProvider.Http.Url.Punycode
