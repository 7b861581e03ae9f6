import CloudProvider.Http.Transport

/-!
# How bodies are cut short

Messages show 200 bytes of a body at most. The cut is searched for backwards from there, and as no
character takes more than four bytes the search is over after three steps at the latest.

* `Text.IsLongestFront`: what it is for a text to be the longest front of another within so many
  bytes.
* `Text.lastPos_le`, `Text.le_lastPos`, `Text.lt_lastPos_add_four`: where the search ends.
* `Text.isLongestFront_lastPos`: what stands before that position.
* **`Http.excerpt_exact`**: what is shown of a body.
-/

namespace CloudProvider

namespace Text

variable {s : String} {m n : Nat}

/-! ## The search -/

theorem lastPos_le (s : String) (n : Nat) : (lastPos s n).offset.byteIdx ≤ n := by
  induction n with
  | zero => exact Nat.le_refl 0
  | succ n ih =>
    rw [lastPos]
    split
    · exact Nat.le_refl (n + 1)
    · exact Nat.le_succ_of_le ih

theorem le_lastPos (hm : String.Pos.Raw.IsValid s ⟨m⟩) (hmn : m ≤ n) :
    m ≤ (lastPos s n).offset.byteIdx := by
  induction n with
  | zero => exact hmn
  | succ n ih =>
    rw [lastPos]
    split
    · exact hmn
    · rename_i h
      have hne : m ≠ n + 1 := by
        rintro rfl
        exact h hm
      exact ih (by omega)

theorem exists_append_of_le (cs : List Char) (hn : n ≤ (String.ofList cs).utf8ByteSize) :
    ∃ front rest, String.ofList cs = front ++ rest ∧
      front.utf8ByteSize ≤ n ∧ n < front.utf8ByteSize + 4 := by
  induction cs generalizing n with
  | nil => exact ⟨"", "", rfl, Nat.zero_le n, Nat.lt_of_le_of_lt hn (by decide)⟩
  | cons c cs ih =>
    rw [String.ofList_cons, String.utf8ByteSize_append, String.utf8ByteSize_singleton] at hn
    rw [String.ofList_cons]
    by_cases hc : c.utf8Size ≤ n
    · obtain ⟨front, rest, heq, hle, hlt⟩ := ih (n := n - c.utf8Size) (by omega)
      refine ⟨String.singleton c ++ front, rest, by rw [heq, String.append_assoc], ?_, ?_⟩
      · rw [String.utf8ByteSize_append, String.utf8ByteSize_singleton]
        omega
      · rw [String.utf8ByteSize_append, String.utf8ByteSize_singleton]
        omega
    · -- The front ends before a character that does not fit: byte `n` is one of its four at most.
      have hfour := c.utf8Size_le_four
      exact ⟨"", _, String.empty_append.symm, Nat.zero_le n, by simp; omega⟩

theorem lt_lastPos_add_four (hn : n ≤ s.utf8ByteSize) :
    n < (lastPos s n).offset.byteIdx + 4 := by
  rw [← String.ofList_toList (s := s)] at hn
  obtain ⟨front, rest, heq, hle, hlt⟩ := exists_append_of_le s.toList hn
  rw [String.ofList_toList] at heq
  have hvalid : String.Pos.Raw.IsValid s ⟨front.utf8ByteSize⟩ :=
    String.Pos.Raw.isValid_iff_exists_append.mpr ⟨front, rest, heq, rfl⟩
  have hpos := le_lastPos hvalid hle
  omega

/-! ## What stands before the cut -/

/-- **Whether a text is the longest front of another** that takes at most `n` bytes. A front is made
of whole characters. -/
structure IsLongestFront (s : String) (n : Nat) (front : String) : Prop where
  exists_append : ∃ rest, s = front ++ rest
  size_le : front.utf8ByteSize ≤ n
  longest : ∀ other rest, s = other ++ rest → other.utf8ByteSize ≤ n →
    other.utf8ByteSize ≤ front.utf8ByteSize

/-- **The search finds the longest front.** -/
theorem isLongestFront_lastPos (s : String) (n : Nat) :
    IsLongestFront s n (s.sliceTo (lastPos s n)).copy where
  exists_append := ⟨_, (lastPos s n).splits.eq_append⟩
  size_le := by
    rw [String.Slice.utf8ByteSize_copy, String.utf8ByteSize_sliceTo]
    exact lastPos_le s n
  longest other rest heq hle := by
    rw [String.Slice.utf8ByteSize_copy, String.utf8ByteSize_sliceTo]
    exact le_lastPos (String.Pos.Raw.isValid_iff_exists_append.mpr ⟨other, rest, heq, rfl⟩) hle

end Text

namespace Http

/-- **What is shown of a body.** One of at most 200 bytes is shown as it is. Of a longer one the
search for the cut ends between the bytes 197 and 200 and not within a character; the longest front
within 200 bytes is shown, and behind it the length of the body. -/
theorem excerpt_exact (body : String) :
    (body.utf8ByteSize ≤ 200 → excerpt body = body) ∧
    (200 < body.utf8ByteSize →
      let stop := (Text.lastPos body 200).offset
      (197 ≤ stop.byteIdx ∧ stop.byteIdx ≤ 200) ∧ stop.IsValid body ∧
      ∃ front, Text.IsLongestFront body 200 front ∧ front.utf8ByteSize = stop.byteIdx ∧
        excerpt body = front ++ "... [truncated, " ++ toString body.utf8ByteSize ++
          " bytes total]") := by
  constructor
  · intro h
    rw [excerpt, excerptLength, if_neg (Nat.not_lt.mpr h)]
  · intro h
    have hlt := Text.lt_lastPos_add_four (Nat.le_of_lt h)
    refine ⟨⟨by omega, Text.lastPos_le body 200⟩, (Text.lastPos body 200).isValid, _,
      Text.isLongestFront_lastPos body 200, ?_, ?_⟩
    · rw [String.Slice.utf8ByteSize_copy, String.utf8ByteSize_sliceTo]
    · rw [excerpt, excerptLength, if_pos h]
      rfl

/-- A hundred characters of three bytes, and a short body. -/
theorem excerpt_of_wide_body :
    200 < (String.ofList (List.replicate 100 '网')).utf8ByteSize ∧
    (∃ front, Text.IsLongestFront (String.ofList (List.replicate 100 '网')) 200 front ∧
      front.utf8ByteSize = 198 ∧
      excerpt (String.ofList (List.replicate 100 '网')) =
        front ++ "... [truncated, 300 bytes total]") ∧
    "not found".utf8ByteSize ≤ 200 ∧ excerpt "not found" = "not found" := by
  have hlong : 200 < (String.ofList (List.replicate 100 '网')).utf8ByteSize := by decide +kernel
  have hshort : "not found".utf8ByteSize ≤ 200 := by decide
  have hstop :
      (Text.lastPos (String.ofList (List.replicate 100 '网')) 200).offset.byteIdx = 198 := by
    decide +kernel
  obtain ⟨-, -, front, hfront, hsize, hexcerpt⟩ := (excerpt_exact _).2 hlong
  refine ⟨hlong, ⟨front, hfront, hsize.trans hstop, ?_⟩, hshort, (excerpt_exact _).1 hshort⟩
  rw [hexcerpt, String.append_assoc, String.append_assoc]
  exact congrArg (front ++ ·) (by decide +kernel)

end Http

end CloudProvider
