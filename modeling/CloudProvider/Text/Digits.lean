/-!
# Numbers written in decimal

* `decimal?`: the number that a non-empty run of ASCII digits writes.
* `natural?`, `integer?`: decimal texts with an optional sign, within bounds.
* `twoDigits`: a number on at least two places.
* `decimal?_toString`: a number is read back from its decimal text.
-/

namespace CloudProvider.Text

/-- The value of an ASCII digit. -/
def digit? (c : Char) : Option Nat :=
  if '0' ≤ c ∧ c ≤ '9' then some (c.toNat - 48) else none

/-- The number whose digits continue those of `n`, or nothing if one of them is no digit. -/
def digitsFrom? (n : Nat) : List Char → Option Nat
  | [] => some n
  | c :: cs => (digit? c).bind fun d => digitsFrom? (10 * n + d) cs

/-- The number that a non-empty run of ASCII digits writes; leading zeros count for nothing. -/
def decimal? : List Char → Option Nat
  | [] => none
  | cs => digitsFrom? 0 cs

/-- A natural number of at most `max`, a plus sign being allowed in front of it. -/
def natural? (max : Nat) (s : String) : Option Nat :=
  let digits := match s.toList with
    | '+' :: cs => cs
    | cs => cs
  (decimal? digits).filter (· ≤ max)

/-- An integer that fits in 64 bits, a sign being allowed in front of it. -/
def integer? (s : String) : Option Int64 :=
  let read (bound : Int) (sign : Int) (cs : List Char) : Option Int64 :=
    (decimal? cs).bind fun n => if (n : Int) ≤ bound then some (Int64.ofInt (sign * n)) else none
  match s.toList with
  | '-' :: cs => read 0x8000000000000000 (-1) cs
  | '+' :: cs => read 0x7FFFFFFFFFFFFFFF 1 cs
  | cs => read 0x7FFFFFFFFFFFFFFF 1 cs

/-- A natural number in decimal, on at least two places. -/
def twoDigits (n : Nat) : String :=
  if n < 10 then "0" ++ toString n else toString n

/-- A text filled up with blanks on its right to `width` characters. -/
def padRight (width : Nat) (s : String) : String :=
  s ++ String.ofList (List.replicate (width - s.length) ' ')

/-! ## Laws -/

theorem digit?_of_isDigit {c : Char} (h : c.isDigit = true) : digit? c = some (c.toNat - 48) := by
  have hc : '0' ≤ c ∧ c ≤ '9' := by
    simp only [Char.isDigit, Bool.and_eq_true, decide_eq_true_eq] at h
    exact h
  rw [digit?, if_pos hc]

theorem digitsFrom?_eq {cs : List Char} (h : ∀ c ∈ cs, c.isDigit = true) (n : Nat) :
    digitsFrom? n cs = some (Nat.ofDigitChars 10 cs n) := by
  induction cs generalizing n with
  | nil => simp [digitsFrom?]
  | cons c cs ih =>
    have hc := digit?_of_isDigit (h c List.mem_cons_self)
    have hcs := ih fun d hd => h d (List.mem_cons_of_mem c hd)
    rw [digitsFrom?, hc, Option.bind_some, hcs, Nat.ofDigitChars_cons]
    rfl

/-- **A number is read back from its decimal text.** -/
theorem decimal?_toString (n : Nat) : decimal? (toString n).toList = some n := by
  have hdigits : (toString n).toList = Nat.toDigits 10 n := Nat.toList_repr
  have hread : digitsFrom? 0 (Nat.toDigits 10 n) = some n := by
    rw [digitsFrom?_eq fun c hc => Nat.isDigit_of_mem_toDigits (by decide) (by decide) hc,
      Nat.ofDigitChars_ten_toDigits]
  rw [hdigits]
  cases hcs : Nat.toDigits 10 n with
  | nil => exact absurd hcs Nat.toDigits_ne_nil
  | cons c cs =>
    rw [hcs] at hread
    exact hread

theorem not_mem_toString (n : Nat) {c : Char} (hc : c.isDigit = false) :
    c ∉ (toString n).toList := by
  intro h
  have hdigits : (toString n).toList = Nat.toDigits 10 n := Nat.toList_repr
  rw [hdigits] at h
  have := Nat.isDigit_of_mem_toDigits (by decide) (by decide) h
  rw [hc] at this
  cases this

end CloudProvider.Text
