import CloudProvider.Text.Digits
import Mathlib.Algebra.Group.Nat.Defs
import Mathlib.Tactic.SplitIfs

/-!
# Runs of digits

Digits write a number, and a number is written by its own decimal text and by that text behind some
zeros.

* `Text.toDigits_of_digitsFrom?`: a run of digits after some that do not begin with zero.
* `Text.number`, `Text.IsPadded`: the number that some digits write, and digits with a superfluous
  zero in front of them.
* `Text.decimal?_eq_some`: which texts are decimal numbers.
* **`Text.exists_padding`**: digits are the text of their number behind some zeros.
* `Text.toString_number_eq_iff`: digits without a superfluous zero are the text of their number.
* `Text.IsNumeral`, **`Text.natural?_eq_some`**: which texts are natural numbers.
-/

namespace CloudProvider.Text

/-! ## Digits -/

theorem digit?_eq_some {c : Char} {d : Nat} (h : digit? c = some d) :
    d < 10 ∧ d.digitChar = c := by
  rw [digit?] at h
  split_ifs at h with hc
  obtain rfl := Option.some.inj h
  have hlow : 48 ≤ c.toNat := hc.1
  have hhigh : c.toNat ≤ 57 := hc.2
  refine ⟨by omega, Char.toNat_inj.mp ?_⟩
  rw [Nat.toNat_digitChar_of_lt_ten (by omega)]
  omega

/-- **Digits after some** that do not begin with zero. -/
theorem toDigits_of_digitsFrom? {n m : Nat} {cs : List Char} (hn : 0 < n)
    (h : digitsFrom? n cs = some m) : Nat.toDigits 10 m = Nat.toDigits 10 n ++ cs := by
  induction cs generalizing n with
  | nil =>
    obtain rfl := Option.some.inj h
    rw [List.append_nil]
  | cons c cs ih =>
    obtain ⟨d, hd, hcs⟩ := Option.bind_eq_some_iff.mp h
    obtain ⟨hlt, hc⟩ := digit?_eq_some hd
    have hdigit : Nat.toDigits 10 d = [c] := by rw [Nat.toDigits_of_lt_base hlt, hc]
    calc Nat.toDigits 10 m
        = Nat.toDigits 10 (10 * n + d) ++ cs := ih (by omega) hcs
      _ = Nat.toDigits 10 n ++ Nat.toDigits 10 d ++ cs := by
        rw [Nat.toDigits_append_toDigits (by decide) hn hlt]
      _ = Nat.toDigits 10 n ++ c :: cs := by rw [hdigit, List.append_assoc]; rfl

theorem toDigits_of_decimal? {n : Nat} {cs : List Char} (hzero : cs.head? ≠ some '0')
    (h : decimal? cs = some n) : Nat.toDigits 10 n = cs := by
  cases cs with
  | nil => cases h
  | cons c cs =>
    obtain ⟨d, hd, hcs⟩ := Option.bind_eq_some_iff.mp h
    obtain ⟨hlt, hc⟩ := digit?_eq_some hd
    have hpos : 0 < d := by
      refine Nat.pos_of_ne_zero fun h0 => hzero ?_
      rw [← hc, h0]
      rfl
    rw [Nat.mul_zero, Nat.zero_add] at hcs
    rw [toDigits_of_digitsFrom? hpos hcs, Nat.toDigits_of_lt_base hlt, hc]
    rfl

/-! ## Numbers -/

/-- The number that some digits write. -/
def number (digits : String) : Nat := Nat.ofDigitChars 10 digits.toList 0

/-- Whether some digits begin with a superfluous zero. -/
def IsPadded (digits : String) : Prop := ∃ rest, rest ≠ "" ∧ digits = "0" ++ rest

theorem isDigit_of_digit? {c : Char} {d : Nat} (h : digit? c = some d) : c.isDigit = true := by
  obtain ⟨hd, rfl⟩ := digit?_eq_some h
  rw [Nat.isDigit_digitChar]
  exact decide_eq_true hd

theorem isDigit_of_digitsFrom? {cs : List Char} {n m : Nat} (h : digitsFrom? n cs = some m) :
    ∀ c ∈ cs, c.isDigit = true := by
  induction cs generalizing n with
  | nil => exact fun _ hc => absurd hc List.not_mem_nil
  | cons c cs ih =>
    obtain ⟨d, hd, hcs⟩ := Option.bind_eq_some_iff.mp h
    exact List.forall_mem_cons.mpr ⟨isDigit_of_digit? hd, ih hcs⟩

/-- **A decimal number** is a run of digits that is not empty. -/
theorem decimal?_eq_some {s : String} {n : Nat} :
    decimal? s.toList = some n ↔ s ≠ "" ∧ (∀ c ∈ s.toList, c.isDigit = true) ∧ number s = n := by
  rw [number, ne_eq, ← String.toList_eq_nil_iff]
  cases s.toList with
  | nil => simp [decimal?]
  | cons c cs =>
    constructor
    · intro h
      have hdigits := isDigit_of_digitsFrom? h
      have hvalue : some (Nat.ofDigitChars 10 (c :: cs) 0) = some n :=
        (digitsFrom?_eq hdigits 0).symm.trans h
      exact ⟨List.cons_ne_nil c cs, hdigits, Option.some.inj hvalue⟩
    · rintro ⟨-, hdigits, rfl⟩
      exact digitsFrom?_eq hdigits 0

theorem ofDigitChars_zero_cons (cs : List Char) :
    Nat.ofDigitChars 10 ('0' :: cs) 0 = Nat.ofDigitChars 10 cs 0 := Nat.ofDigitChars_cons

theorem exists_replicate_append_toDigits {cs : List Char} (hne : cs ≠ [])
    (h : ∀ c ∈ cs, c.isDigit = true) :
    ∃ k, cs = List.replicate k '0' ++ Nat.toDigits 10 (Nat.ofDigitChars 10 cs 0) := by
  induction cs with
  | nil => exact absurd rfl hne
  | cons c cs ih =>
    by_cases hc : c = '0'
    · subst hc
      rw [ofDigitChars_zero_cons]
      cases cs with
      | nil => exact ⟨0, rfl⟩
      | cons d cs =>
        obtain ⟨k, hk⟩ := ih (List.cons_ne_nil d cs) (List.forall_mem_cons.mp h).2
        exact ⟨k + 1, congrArg (List.cons '0') hk⟩
    · have hread : decimal? (c :: cs) = some (Nat.ofDigitChars 10 (c :: cs) 0) := digitsFrom?_eq h 0
      exact ⟨0, (toDigits_of_decimal? (by simpa using hc) hread).symm⟩

/-- Some zeros. -/
def zeros (k : Nat) : String := String.ofList (List.replicate k '0')

theorem zeros_succ (k : Nat) : zeros (k + 1) = "0" ++ zeros k := by
  rw [← String.toList_inj]
  simp [zeros, List.replicate_succ]

/-- **Digits are the text of their number** behind some zeros. -/
theorem exists_padding {digits : String} (hne : digits ≠ "")
    (h : ∀ c ∈ digits.toList, c.isDigit = true) :
    ∃ k, digits = zeros k ++ toString (number digits) := by
  obtain ⟨k, hk⟩ := exists_replicate_append_toDigits (mt String.toList_eq_nil_iff.mp hne) h
  refine ⟨k, ?_⟩
  rw [← String.toList_inj, String.toList_append, zeros, String.toList_ofList, number,
    Nat.toString_eq_ofList_toDigits, String.toList_ofList]
  exact hk

/-- **Digits are the text of their number** unless a zero is superfluous. -/
theorem toString_number_eq_iff {digits : String} (hne : digits ≠ "")
    (h : ∀ c ∈ digits.toList, c.isDigit = true) :
    toString (number digits) = digits ↔ ¬ IsPadded digits := by
  constructor
  · rintro heq ⟨rest, hrest, rfl⟩
    have hdigits : ∀ c ∈ rest.toList, c.isDigit = true := fun c hc => h c (by simp [hc])
    have hnumber : number ("0" ++ rest) = number rest := by
      rw [number, String.toList_append]
      exact ofDigitChars_zero_cons rest.toList
    -- The rest alone writes the same number, so that the text of the number is too short.
    obtain ⟨k, hk⟩ := exists_padding hrest hdigits
    have hlength := congrArg String.length hk
    have hlength' := congrArg String.length heq
    rw [hnumber, String.length_append] at hlength'
    rw [String.length_append] at hlength
    have hzero : ("0").length = 1 := rfl
    omega
  · intro hpadded
    obtain ⟨k, hk⟩ := exists_padding hne h
    cases k with
    | zero => exact (hk.trans String.empty_append).symm
    | succ k =>
      rw [zeros_succ, String.append_assoc] at hk
      have hne : zeros k ++ toString (number digits) ≠ "" := fun hempty =>
        Nat.repr_ne_empty (String.append_eq_empty_iff.mp hempty).2
      exact absurd ⟨_, hne, hk⟩ hpadded

/-! ## Numbers with a sign -/

/-- Whether a text is a run of digits, and not an empty one. -/
def IsNumeral (s : String) : Prop := s ≠ "" ∧ ∀ c ∈ s.toList, c.isDigit = true

theorem isNumeral_toString (n : Nat) : IsNumeral (toString n) := by
  obtain ⟨hne, hdigits, -⟩ := decimal?_eq_some.mp (decimal?_toString n)
  exact ⟨hne, hdigits⟩

theorem number_toString (n : Nat) : number (toString n) = n :=
  (decimal?_eq_some.mp (decimal?_toString n)).2.2

/-- **A natural number** is a run of digits, perhaps after a plus sign. -/
theorem natural?_eq_some {max n : Nat} {s : String} :
    natural? max s = some n ↔ ∃ sign digits, (sign = "" ∨ sign = "+") ∧ s = sign ++ digits ∧
      IsNumeral digits ∧ number digits = n ∧ n ≤ max := by
  have hplus {digits : String} : ("+" ++ digits).toList = '+' :: digits.toList := by
    rw [String.toList_append]
    rfl
  rw [natural?, Option.filter_eq_some_iff, decide_eq_true_eq]
  split
  · rename_i cs hs
    have hcs : cs = (String.ofList cs).toList := String.toList_ofList.symm
    rw [hcs, decimal?_eq_some]
    constructor
    · rintro ⟨⟨hne, hdigits, hn⟩, hle⟩
      refine ⟨"+", String.ofList cs, .inr rfl, ?_, ⟨hne, hdigits⟩, hn, hle⟩
      rw [← String.toList_inj, hplus, ← hcs, hs]
    · rintro ⟨sign, digits, rfl | rfl, rfl, ⟨hne, hdigits⟩, hn, hle⟩
      · have hdigit := hdigits '+' (by rw [← String.empty_append (s := digits), hs]; simp)
        cases hdigit
      · obtain rfl : digits.toList = cs := (List.cons.inj (hplus.symm.trans hs)).2
        rw [String.ofList_toList]
        exact ⟨⟨hne, hdigits, hn⟩, hle⟩
  · rename_i hs
    rw [decimal?_eq_some]
    constructor
    · rintro ⟨⟨hne, hdigits, hn⟩, hle⟩
      exact ⟨"", s, .inl rfl, String.empty_append.symm, ⟨hne, hdigits⟩, hn, hle⟩
    · rintro ⟨sign, digits, rfl | rfl, rfl, ⟨hne, hdigits⟩, hn, hle⟩
      · rw [String.empty_append]
        exact ⟨⟨hne, hdigits, hn⟩, hle⟩
      · exact absurd hplus (hs _)

theorem natural?_toString {n max : Nat} (h : n ≤ max) : natural? max (toString n) = some n :=
  natural?_eq_some.mpr
    ⟨"", _, .inl rfl, String.empty_append.symm, isNumeral_toString n, number_toString n, h⟩

end CloudProvider.Text
