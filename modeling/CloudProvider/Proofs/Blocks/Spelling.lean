import CloudProvider.Proofs.Blocks

/-!
# How blocks are spelled

A block is spelled as four octets with dots between them, a slash and the digits of the length. The
check lets a plus sign stand before the length, and nothing else.

* `Ipv4.IsOctet`, `Ipv4.isOctet_iff`: numbers below 256 without superfluous zeros.
* `Ipv4.eq_text_iff`: four octets are the text of an address.
* `Cidr.Spells`, `Cidr.names_iff`: what it is for a text to spell a block.
* **`Cidr.check_eq_ok_iff_spells`**: which texts the check accepts.
-/

namespace CloudProvider

/-! ## Addresses -/

namespace Ipv4

/-- **Whether some digits write an octet**: a number below 256, without superfluous zeros. -/
structure IsOctet (digits : String) : Prop where
  numeral : Text.IsNumeral digits
  unpadded : ¬ Text.IsPadded digits
  number_lt : Text.number digits < 256

theorem isOctet_iff {digits : String} : IsOctet digits ↔ ∃ n < 256, digits = toString n := by
  constructor
  · rintro ⟨⟨hne, hdigits⟩, hunpadded, hlt⟩
    exact ⟨_, hlt, ((Text.toString_number_eq_iff hne hdigits).mpr hunpadded).symm⟩
  · rintro ⟨n, hn, rfl⟩
    have hnumber := Text.number_toString n
    obtain ⟨hne, hdigits⟩ := Text.isNumeral_toString n
    refine ⟨⟨hne, hdigits⟩, ?_, by rwa [hnumber]⟩
    rw [← Text.toString_number_eq_iff hne hdigits, hnumber]

/-- The number that four octets write, the first of them being the highest. -/
def octetsValue (p q r t : String) : Nat :=
  ((Text.number p * 256 + Text.number q) * 256 + Text.number r) * 256 + Text.number t

/-- Four octets with dots between them. -/
def dotted (p q r t : String) : String := p ++ "." ++ q ++ "." ++ r ++ "." ++ t

theorem text_eq_dotted (a : Ipv4) :
    a.text = dotted (toString (a.value.toNat >>> 24)) (toString ((a.value.toNat >>> 16) % 256))
      (toString ((a.value.toNat >>> 8) % 256)) (toString (a.value.toNat % 256)) := rfl

/-- **Four octets are the text of one address only.** -/
theorem eq_text_iff {s : String} {a : Ipv4} :
    s = a.text ↔ ∃ p q r t, (IsOctet p ∧ IsOctet q ∧ IsOctet r ∧ IsOctet t) ∧
      octetsValue p q r t = a.value.toNat ∧ s = dotted p q r t := by
  have hvalue : a.value.toNat < 2 ^ 32 := a.value.toNat_lt
  constructor
  · rintro rfl
    have hoctet (n : Nat) (hn : n < 256) : IsOctet (toString n) := isOctet_iff.mpr ⟨n, hn, rfl⟩
    refine ⟨_, _, _, _, ⟨hoctet _ ?_, hoctet _ ?_, hoctet _ ?_, hoctet _ ?_⟩, ?_,
      a.text_eq_dotted⟩
    · rw [Nat.shiftRight_eq_div_pow]
      omega
    · exact Nat.mod_lt _ (by decide)
    · exact Nat.mod_lt _ (by decide)
    · exact Nat.mod_lt _ (by decide)
    · simp only [octetsValue, Text.number_toString, Nat.shiftRight_eq_div_pow]
      omega
  · rintro ⟨p, q, r, t, ⟨hp, hq, hr, ht⟩, hsum, rfl⟩
    obtain ⟨n₁, hn₁, rfl⟩ := isOctet_iff.mp hp
    obtain ⟨n₂, hn₂, rfl⟩ := isOctet_iff.mp hq
    obtain ⟨n₃, hn₃, rfl⟩ := isOctet_iff.mp hr
    obtain ⟨n₄, hn₄, rfl⟩ := isOctet_iff.mp ht
    simp only [octetsValue, Text.number_toString] at hsum
    have h₁ : a.value.toNat >>> 24 = n₁ := by rw [Nat.shiftRight_eq_div_pow]; omega
    have h₂ : (a.value.toNat >>> 16) % 256 = n₂ := by rw [Nat.shiftRight_eq_div_pow]; omega
    have h₃ : (a.value.toNat >>> 8) % 256 = n₃ := by rw [Nat.shiftRight_eq_div_pow]; omega
    have h₄ : a.value.toNat % 256 = n₄ := by omega
    rw [text_eq_dotted, h₁, h₂, h₃, h₄]

theorem exists_text_eq_dotted {p q r t : String} (hp : IsOctet p) (hq : IsOctet q)
    (hr : IsOctet r) (ht : IsOctet t) :
    ∃ a : Ipv4, a.value.toNat = octetsValue p q r t ∧ a.text = dotted p q r t := by
  have hlt : octetsValue p q r t < UInt32.size := by
    have := hp.number_lt
    have := hq.number_lt
    have := hr.number_lt
    have := ht.number_lt
    simp only [octetsValue, UInt32.size]
    omega
  have hvalue := UInt32.toNat_ofNat_of_lt' hlt
  refine ⟨⟨UInt32.ofNat (octetsValue p q r t)⟩, hvalue, ?_⟩
  exact (eq_text_iff.mpr ⟨p, q, r, t, ⟨hp, hq, hr, ht⟩, hvalue.symm, rfl⟩).symm

end Ipv4

theorem two_pow_dvd_iff_testBit {k n : Nat} : 2 ^ k ∣ n ↔ ∀ i < k, n.testBit i = false := by
  rw [Nat.dvd_iff_mod_eq_zero]
  constructor
  · intro h i hi
    have hbit := Nat.testBit_mod_two_pow n k i
    simpa [h, hi] using hbit.symm
  · intro h
    refine Nat.eq_of_testBit_eq fun i => ?_
    rw [Nat.testBit_mod_two_pow, Nat.zero_testBit]
    by_cases hi : i < k
    · simp [h i hi]
    · simp [hi]

/-! ## Blocks -/

namespace Cidr

/-- **Whether a text spells a block**, with a sign before the length: four octets, a slash, the sign
and the digits of a length of at most 32, where no bit of the address behind the length is set. -/
inductive Spells (sign : String) : String → Prop
  | block {p q r t digits : String} :
      Ipv4.IsOctet p → Ipv4.IsOctet q → Ipv4.IsOctet r → Ipv4.IsOctet t →
      Text.IsNumeral digits → Text.number digits ≤ 32 →
      (∀ i < 32 - Text.number digits, (Ipv4.octetsValue p q r t).testBit i = false) →
      Spells sign (Ipv4.dotted p q r t ++ "/" ++ (sign ++ digits))

theorem names_iff {s : String} : Names s ↔ ∃ sign, (sign = "" ∨ sign = "+") ∧ Spells sign s := by
  constructor
  · rintro ⟨a, length, n, rfl, hlength, hdvd⟩
    obtain ⟨sign, digits, hsign, rfl, hdigits, rfl, hle⟩ := Text.natural?_eq_some.mp hlength
    obtain ⟨p, q, r, t, ⟨hp, hq, hr, ht⟩, hvalue, htext⟩ := Ipv4.eq_text_iff.mp (Eq.refl a.text)
    rw [← hvalue, two_pow_dvd_iff_testBit] at hdvd
    rw [htext]
    exact ⟨sign, hsign, .block hp hq hr ht hdigits hle hdvd⟩
  · rintro ⟨sign, hsign, ⟨hp, hq, hr, ht, hdigits, hle, hclear⟩⟩
    rename_i p q r t digits
    obtain ⟨a, hvalue, htext⟩ := Ipv4.exists_text_eq_dotted hp hq hr ht
    rw [← two_pow_dvd_iff_testBit, ← hvalue] at hclear
    rw [← htext]
    refine ⟨a, _, Text.number digits, rfl, ?_, hclear⟩
    exact Text.natural?_eq_some.mpr ⟨sign, digits, hsign, rfl, hdigits, rfl, hle⟩

theorem Spells.exists_cut {sign s : String} (h : Spells sign s) :
    ∃ address digits, Text.cut? '/' s = some (address, sign ++ digits) ∧
      Text.IsNumeral digits := by
  obtain ⟨hp, hq, hr, ht, hdigits, -, -⟩ := h
  obtain ⟨a, -, htext⟩ := Ipv4.exists_text_eq_dotted hp hq hr ht
  rw [← htext]
  exact ⟨_, _, Text.cut?_eq_some.mpr ⟨a.slash_not_mem_text, rfl⟩, hdigits⟩

theorem Spells.isNumeral_of_cut {s address length : String} (h : Spells "" s)
    (hcut : Text.cut? '/' s = some (address, length)) : Text.IsNumeral length := by
  obtain ⟨_, digits, hcut', hdigits⟩ := h.exists_cut
  obtain ⟨-, rfl⟩ := Prod.mk.inj (Option.some.inj (hcut.symm.trans hcut'))
  rwa [String.empty_append]

theorem Spells.not_plus {s : String} (h : Spells "" s) : ¬ Spells "+" s := by
  intro hplus
  obtain ⟨_, digits, hcut, -⟩ := hplus.exists_cut
  have hdigit := (h.isNumeral_of_cut hcut).2 '+' (by simp)
  cases hdigit

/-- **The texts that the check accepts** are those that spell a block, and those that spell one with
a plus sign before the length, which are different ones. -/
theorem check_eq_ok_iff_spells (s : String) :
    (check s = .ok () ↔ Spells "" s ∨ Spells "+" s) ∧ ¬ (Spells "" s ∧ Spells "+" s) := by
  refine ⟨?_, fun h => h.1.not_plus h.2⟩
  rw [check_eq_ok, names_iff]
  constructor
  · rintro ⟨sign, rfl | rfl, h⟩
    · exact .inl h
    · exact .inr h
  · rintro (h | h)
    · exact ⟨"", .inl rfl, h⟩
    · exact ⟨"+", .inr rfl, h⟩

/-- **A length with a plus sign is accepted.** -/
theorem signed_length_accepted :
    check "10.0.0.0/+16" = .ok () ∧ ¬ Spells "" "10.0.0.0/+16" := by
  refine ⟨by decide +kernel, fun h => ?_⟩
  have hcut : Text.cut? '/' "10.0.0.0/+16" = some ("10.0.0.0", "+16") := by decide +kernel
  have hdigit := (h.isNumeral_of_cut hcut).2 '+' (by decide)
  cases hdigit

end Cidr

end CloudProvider
