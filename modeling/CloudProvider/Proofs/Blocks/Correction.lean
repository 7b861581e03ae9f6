import CloudProvider.Proofs.Blocks

/-!
# The correction of a block

A text that names a block by an address within it is reported with the block as it has to be
written.

* `Ipv4.network_eq`: the first address of a block, by arithmetic.
* `Cidr.check_blockText`: the check of an address with a length behind it.
* `Cidr.check_eq_hostBits`: where the block that is suggested comes from.
* **`Cidr.check_corrects`**: which addresses are accepted, and what is suggested for the others.
-/

namespace CloudProvider

namespace Ipv4

theorem network_eq (a : Ipv4) (length : Nat) :
    a.network length =
      ⟨UInt32.ofNat (a.value.toNat - a.value.toNat % 2 ^ (32 - length))⟩ := by
  rw [← toNat_network, UInt32.ofNat_toNat]

theorem dvd_toNat_network (a : Ipv4) (length : Nat) :
    2 ^ (32 - length) ∣ (a.network length).value.toNat := by
  rw [toNat_network]
  exact Nat.dvd_sub_mod _

end Ipv4

namespace Cidr

/-- **The check of an address with a length behind it.** -/
theorem check_blockText (a : Ipv4) {length : Nat} (h : length ≤ 32) :
    check (blockText a length) =
      if 2 ^ (32 - length) ∣ a.value.toNat then .ok ()
      else .error (.hostBits (blockText a length) (a.network length) length) := by
  have hcut : Text.cut? '/' (blockText a length) = some (a.text, toString length) :=
    Text.cut?_eq_some.mpr ⟨a.slash_not_mem_text, rfl⟩
  have hlength : Text.natural? (UInt32.size - 1) (toString length) = some length :=
    Text.natural?_toString (Nat.le_trans h (by decide))
  rw [check, hcut]
  simp only [Ipv4.ofText?_eq_some.mpr rfl, hlength, if_neg (Nat.not_lt.mpr h),
    Ipv4.network_eq_self_iff]

theorem check_eq_hostBits {s block : String} {network : Ipv4} {length : Nat}
    (h : check s = .error (.hostBits block network length)) :
    block = s ∧ length ≤ 32 ∧ ∃ a : Ipv4, network = a.network length := by
  rw [check] at h
  split at h
  · cases h
  · split at h
    · cases h
    · rename_i a _
      split at h
      · cases h
      · rename_i n _
        split_ifs at h with hlong hfirst
        · cases h
        · obtain ⟨rfl, rfl, rfl⟩ := Fault.hostBits.inj (Except.error.inj h)
          exact ⟨rfl, Nat.not_lt.mp hlong, a, rfl⟩

theorem check_network (a : Ipv4) {length : Nat} (h : length ≤ 32) :
    check (blockText (a.network length) length) = .ok () := by
  rw [check_blockText _ h, if_pos (a.dvd_toNat_network length)]

/-- **Blocks are checked and corrected by the arithmetic of addresses.** An address with a length
behind it is accepted just if it is a multiple of the size of the block; otherwise the message
suggests the address less its remainder, which is accepted. So is the suggestion for any other text
that is rejected for its host bits. -/
theorem check_corrects :
    (∀ (a : Ipv4) (length : Nat), length ≤ 32 →
      let block := blockText a length
      let size := 2 ^ (32 - length)
      let suggestion := blockText ⟨UInt32.ofNat (a.value.toNat - a.value.toNat % size)⟩ length
      (check block = .ok () ↔ size ∣ a.value.toNat) ∧
      (¬ size ∣ a.value.toNat → (check block).mapError Fault.message =
        .error s!"'{block}' is not a network address, expected {suggestion}") ∧
      check suggestion = .ok ()) ∧
    ∀ (s block : String) (network : Ipv4) (length : Nat),
      check s = .error (.hostBits block network length) →
      ∃ suggestion, (check s).mapError Fault.message =
        .error s!"'{s}' is not a network address, expected {suggestion}" ∧
        check suggestion = .ok () := by
  refine ⟨fun a length h => ?_, fun s block network length h => ?_⟩
  · intro block size suggestion
    have hblock : check block = if size ∣ a.value.toNat then .ok ()
        else .error (.hostBits block (a.network length) length) := check_blockText a h
    have hsuggestion : suggestion = blockText (a.network length) length := by
      rw [Ipv4.network_eq]
    refine ⟨?_, fun hsize => ?_, ?_⟩
    · rw [hblock]
      by_cases hsize : size ∣ a.value.toNat
      · simp [hsize]
      · simp [hsize]
    · rw [hblock, if_neg hsize, hsuggestion]
      rfl
    · rw [hsuggestion]
      exact check_network a h
  · obtain ⟨rfl, hlength, a, rfl⟩ := check_eq_hostBits h
    refine ⟨blockText (a.network length) length, ?_, check_network a hlength⟩
    rw [h]
    rfl

/-- A block named by an address within it, and one with a padded length. -/
theorem check_of_address_within :
    16 ≤ 32 ∧ blockText ⟨0x0A080307⟩ 16 = "10.8.3.7/16" ∧ ¬ 2 ^ (32 - 16) ∣ 0x0A080307 ∧
      (check "10.8.3.7/16").mapError Fault.message =
        .error "'10.8.3.7/16' is not a network address, expected 10.8.0.0/16" ∧
      check "10.8.0.0/16" = .ok () ∧
      check "10.8.3.7/016" = .error (.hostBits "10.8.3.7/016" ⟨0x0A080000⟩ 16) ∧
      ∃ suggestion, (check "10.8.3.7/016").mapError Fault.message =
        .error s!"'10.8.3.7/016' is not a network address, expected {suggestion}" ∧
        check suggestion = .ok () := by
  have hlength : 16 ≤ 32 := by decide
  have hblock : blockText ⟨0x0A080307⟩ 16 = "10.8.3.7/16" := by decide +kernel
  have hsuggestion : blockText ⟨0x0A080000⟩ 16 = "10.8.0.0/16" := by decide +kernel
  have hsize : ¬ 2 ^ (32 - 16) ∣ 0x0A080307 := by decide
  have hzero : check "10.8.3.7/016" = .error (.hostBits "10.8.3.7/016" ⟨0x0A080000⟩ 16) := by
    decide +kernel
  obtain ⟨hsized, hany⟩ := check_corrects
  obtain ⟨-, hmessage, hok⟩ := hsized ⟨0x0A080307⟩ 16 hlength
  refine ⟨hlength, hblock, hsize, ?_, ?_, hzero, hany _ _ _ _ hzero⟩
  · have h := hmessage hsize
    rw [hblock] at h
    rw [h]
    decide +kernel
  · rw [← hsuggestion]
    exact hok

end Cidr

end CloudProvider
