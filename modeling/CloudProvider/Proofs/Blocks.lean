import CloudProvider.Cidr
import CloudProvider.Proofs.Digits
import Mathlib.Data.List.TakeDrop
import Mathlib.Data.List.TakeWhile
import Mathlib.Tactic.SplitIfs

/-!
# Texts of blocks

An address has one text. A block is that of its first address, a slash and a length.

* **`Ipv4.ofText?_eq_some`**: a text writes an address just if it is the text of the address.
* `Cidr.Names`, **`Cidr.check_eq_ok`**: the texts that write a block by its first address.
-/

namespace CloudProvider

/-! ## Texts in two -/

namespace Text

theorem cut?_eq_some {sep : Char} {s before after : String} :
    cut? sep s = some (before, after) ↔
      sep ∉ before.toList ∧ s = before ++ String.singleton sep ++ after := by
  rw [cut?, List.span_eq_takeWhile_dropWhile]
  constructor
  · intro h
    split at h
    · cases h
    · rename_i first c rest hspan
      obtain ⟨hfirst, hrest⟩ := Prod.mk.inj hspan
      obtain ⟨rfl, rfl⟩ := Prod.mk.inj (Option.some.inj h)
      obtain rfl : c = sep := by
        have hhead := List.head?_dropWhile_not (fun d => d ≠ sep) s.toList
        rw [hrest] at hhead
        simpa using hhead
      refine ⟨fun hmem => ?_, ?_⟩
      · rw [String.toList_ofList, ← hfirst] at hmem
        simpa using List.mem_takeWhile_imp hmem
      · have hall := List.takeWhile_append_dropWhile (p := fun d => decide (d ≠ c)) (l := s.toList)
        rw [hfirst, hrest] at hall
        rw [← String.toList_inj, ← hall]
        simp
  · rintro ⟨hbefore, rfl⟩
    have hpass : ∀ d ∈ before.toList, decide (d ≠ sep) = true :=
      fun d hd => decide_eq_true fun heq => hbefore (heq ▸ hd)
    rw [String.toList_append, String.toList_append, List.append_assoc,
      List.takeWhile_append_of_pos hpass, List.dropWhile_append_of_pos hpass]
    simp

end Text

/-! ## Addresses -/

namespace Ipv4

theorem octet?_eq_some {cs : List Char} {n : Nat} :
    octet? cs = some n ↔ n < 256 ∧ cs = Nat.toDigits 10 n := by
  constructor
  · intro h
    rw [octet?] at h
    split_ifs at h with hshape
    obtain ⟨hn, hlt⟩ := Option.filter_eq_some_iff.mp h
    refine ⟨of_decide_eq_true hlt, ?_⟩
    by_cases hzero : cs.head? = some '0'
    · -- A leading zero is the whole number.
      obtain ⟨rest, rfl⟩ : ∃ rest, cs = '0' :: rest := by
        cases cs with
        | nil => cases hzero
        | cons c rest => exact ⟨rest, by rw [Option.some.inj hzero]⟩
      have hrest : rest = [] := by
        by_contra hne
        refine hshape (.inl ⟨rfl, fun hlength => hne ?_⟩)
        exact List.length_eq_zero_iff.mp (Nat.succ.inj hlength)
      subst hrest
      obtain rfl : 0 = n := Option.some.inj hn
      rfl
    · exact (Text.toDigits_of_decimal? hzero hn).symm
  · rintro ⟨hn, rfl⟩
    have hall : ∀ n < 256, octet? (Nat.toDigits 10 n) = some n := by decide +kernel
    exact hall n hn

theorem ofOctets_eq_iff {a : Ipv4} {p q s t : Nat} (hp : p < 256) (hq : q < 256) (hs : s < 256)
    (ht : t < 256) : ofOctets p q s t = a ↔
      p = a.value.toNat >>> 24 ∧ q = (a.value.toNat >>> 16) % 256 ∧
        s = (a.value.toNat >>> 8) % 256 ∧ t = a.value.toNat % 256 := by
  obtain ⟨value⟩ := a
  have hvalue : value.toNat < 2 ^ 32 := value.toNat_lt
  rw [ofOctets, Ipv4.mk.injEq, ← UInt32.toNat_inj, UInt32.toNat_ofNat']
  simp only [Nat.shiftRight_eq_div_pow]
  omega

/-- **A text writes an address** just if it is its text. -/
theorem ofText?_eq_some {s : String} {a : Ipv4} : ofText? s = some a ↔ s = a.text := by
  constructor
  · intro h
    rw [ofText?] at h
    split at h
    · rename_i p q r t hpieces
      simp only [Option.bind_eq_some_iff, Option.map_eq_some_iff, octet?_eq_some] at h
      obtain ⟨a₁, ⟨h₁, rfl⟩, a₂, ⟨h₂, rfl⟩, a₃, ⟨h₃, rfl⟩, a₄, ⟨h₄, rfl⟩, ha⟩ := h
      obtain ⟨rfl, rfl, rfl, rfl⟩ := (ofOctets_eq_iff h₁ h₂ h₃ h₄).mp ha
      rw [← String.toList_inj, ← Text.intercalate_piecesOf '.' s.toList, hpieces, text,
        String.toList_intercalate]
      simp only [List.map_cons, List.map_nil, Nat.toString_eq_ofList_toDigits, String.toList_ofList]
      rfl
    · cases h
  · rintro rfl
    have hvalue : a.value.toNat < 2 ^ 32 := a.value.toNat_lt
    have hpieces : Text.piecesOf '.' a.text.toList =
        [a.value.toNat >>> 24, (a.value.toNat >>> 16) % 256, (a.value.toNat >>> 8) % 256,
          a.value.toNat % 256].map (Nat.toDigits 10) := by
      rw [Text.piecesOf_eq_splitOn, text, String.toList_intercalate]
      have hdot : (".").toList = ['.'] := rfl
      rw [hdot, List.splitOn_intercalate]
      · simp
      · simp only [List.map_cons, List.map_nil, List.forall_mem_cons]
        exact ⟨Text.not_mem_toString _ rfl, Text.not_mem_toString _ rfl,
          Text.not_mem_toString _ rfl, Text.not_mem_toString _ rfl, fun _ h => nomatch h⟩
      · exact List.cons_ne_nil _ _
    have hoctet : ∀ n < 256, octet? (Nat.toDigits 10 n) = some n :=
      fun n hn => octet?_eq_some.mpr ⟨hn, rfl⟩
    have hfirst : a.value.toNat >>> 24 < 256 := by
      rw [Nat.shiftRight_eq_div_pow]
      omega
    rw [ofText?, hpieces]
    simp only [List.map_cons, List.map_nil, hoctet _ hfirst,
      hoctet _ (Nat.mod_lt _ (by decide : 0 < 256)), Option.bind_some, Option.map_some]
    exact congrArg some ((ofOctets_eq_iff hfirst (Nat.mod_lt _ (by decide))
      (Nat.mod_lt _ (by decide)) (Nat.mod_lt _ (by decide))).mpr ⟨rfl, rfl, rfl, rfl⟩)

theorem slash_not_mem_text (a : Ipv4) : '/' ∉ a.text.toList := by
  have hdigits (n : Nat) : '/' ∉ Nat.toDigits 10 n := fun h =>
    absurd (Nat.isDigit_of_mem_toDigits (by decide) (by decide) h) (by decide)
  rw [text, String.toList_intercalate]
  simp [List.intercalate, hdigits]

theorem testBit_mask (length i : Nat) :
    (mask length).toNat.testBit i = (decide (32 - length ≤ i) && decide (i < 32)) := by
  rw [mask]
  split_ifs with h
  · have hones : (0xFFFFFFFF : UInt32).toNat = 2 ^ 32 - 1 := rfl
    have hdropped : (UInt32.ofNat (32 - length)).toNat % 32 = 32 - length := by
      rw [UInt32.toNat_ofNat_of_lt' (by simp [UInt32.size]; omega), Nat.mod_eq_of_lt h]
    rw [UInt32.toNat_shiftLeft, hdropped, hones]
    simp only [Nat.testBit_mod_two_pow, Nat.testBit_shiftLeft, Nat.testBit_two_pow_sub_one]
    grind
  · have hbehind (hi : 32 - length ≤ i) : 32 ≤ i := by omega
    simpa using hbehind

/-- **The first bits of an address**: it without the remainder. -/
theorem toNat_network (a : Ipv4) (length : Nat) :
    (a.network length).value.toNat = a.value.toNat - a.value.toNat % 2 ^ (32 - length) := by
  have hrest : a.value.toNat - a.value.toNat % 2 ^ (32 - length) =
      a.value.toNat >>> (32 - length) <<< (32 - length) := by
    rw [← Nat.div_mul_self_eq_mod_sub_self, Nat.shiftLeft_eq, Nat.shiftRight_eq_div_pow]
  rw [hrest, network, UInt32.toNat_and]
  refine Nat.eq_of_testBit_eq fun i => ?_
  rw [Nat.testBit_and, testBit_mask, Nat.testBit_shiftLeft, Nat.testBit_shiftRight]
  by_cases hi : 32 - length ≤ i
  · have hlarge (h : ¬ i < 32) : a.value.toNat.testBit i = false :=
      Nat.testBit_lt_two_pow (Nat.lt_of_lt_of_le a.value.toNat_lt
        (Nat.pow_le_pow_right (by decide) (Nat.not_lt.mp h)))
    grind
  · simp [hi]

theorem network_eq_self_iff {a : Ipv4} {length : Nat} :
    a.network length = a ↔ 2 ^ (32 - length) ∣ a.value.toNat := by
  have hnetwork := toNat_network a length
  have hmod := Nat.mod_le a.value.toNat (2 ^ (32 - length))
  have heq : a.network length = a ↔ (a.network length).value.toNat = a.value.toNat := by
    rw [UInt32.toNat_inj]
    exact ⟨fun h => by rw [h], fun h => congrArg Ipv4.mk h⟩
  rw [heq, hnetwork, Nat.dvd_iff_mod_eq_zero]
  omega

end Ipv4

/-! ## Blocks -/

namespace Cidr

/-- **Whether a text writes a block by its first address**: the text of an address, a slash and a
length of at most 32, with the bits behind the length all zero. -/
def Names (block : String) : Prop :=
  ∃ (a : Ipv4) (length : String) (n : Nat), block = a.text ++ "/" ++ length ∧
    Text.natural? 32 length = some n ∧ 2 ^ (32 - n) ∣ a.value.toNat

/-- **The check accepts** the blocks that are written by their first address. -/
theorem check_eq_ok {block : String} : check block = .ok () ↔ Names block := by
  constructor
  · intro h
    rw [check] at h
    split at h
    · cases h
    · rename_i address length hcut
      split at h
      · cases h
      · rename_i a ha
        split at h
        · cases h
        · rename_i n hn
          split_ifs at h with hlong hfirst
          obtain ⟨-, hblock⟩ := Text.cut?_eq_some.mp hcut
          obtain rfl := Ipv4.ofText?_eq_some.mp ha
          obtain ⟨hread, -⟩ := Option.filter_eq_some_iff.mp hn
          refine ⟨a, length, n, hblock, ?_, Ipv4.network_eq_self_iff.mp hfirst⟩
          exact Option.filter_eq_some_iff.mpr ⟨hread, decide_eq_true (Nat.not_lt.mp hlong)⟩
  · rintro ⟨a, length, n, rfl, hn, hfirst⟩
    obtain ⟨hread, hle⟩ := Option.filter_eq_some_iff.mp hn
    have hle : n ≤ 32 := of_decide_eq_true hle
    have hcut : Text.cut? '/' (a.text ++ "/" ++ length) = some (a.text, length) :=
      Text.cut?_eq_some.mpr ⟨a.slash_not_mem_text, rfl⟩
    have hlength : Text.natural? (UInt32.size - 1) length = some n :=
      Option.filter_eq_some_iff.mpr ⟨hread, decide_eq_true (Nat.le_trans hle (by decide))⟩
    rw [check]
    simp only [hcut, Ipv4.ofText?_eq_some.mpr rfl, hlength, if_neg (Nat.not_lt.mpr hle),
      if_pos (Ipv4.network_eq_self_iff.mpr hfirst)]

end Cidr

end CloudProvider
