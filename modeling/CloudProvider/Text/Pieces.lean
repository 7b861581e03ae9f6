/-!
# Texts cut at a separator

* `pieces`: what stands between the occurrences of a separator.
* `cut?`: a text in two at the first occurrence of a separator.
* `intercalate_piecesOf`: joining the pieces gives the text back.
* `pieces_intercalate`, `length_pieces_intercalate`: the pieces of parts that were joined.
* `pieces_eq_iff`: the parts that a text is joined from.
-/

namespace CloudProvider.Text

/-- The pieces of a list of characters between the occurrences of `sep`. -/
def piecesOf (sep : Char) : List Char → List (List Char)
  | [] => [[]]
  | c :: cs =>
    if c = sep then [] :: piecesOf sep cs
    else
      match piecesOf sep cs with
      | [] => [[c]]
      | p :: ps => (c :: p) :: ps

/-- The pieces of a text between the occurrences of `sep`: one more than there are occurrences. -/
def pieces (sep : Char) (s : String) : List String :=
  (piecesOf sep s.toList).map String.ofList

/-- What stands before and after the first occurrence of `sep`, if there is one. -/
def cut? (sep : Char) (s : String) : Option (String × String) :=
  match s.toList.span (· ≠ sep) with
  | (_, []) => none
  | (before, _ :: after) => some (String.ofList before, String.ofList after)

/-! ## Laws -/

theorem piecesOf_ne_nil (sep : Char) (cs : List Char) : piecesOf sep cs ≠ [] := by
  induction cs with
  | nil => simp [piecesOf]
  | cons c cs ih =>
    by_cases h : c = sep
    · simp [piecesOf, h]
    · cases hp : piecesOf sep cs with
      | nil => exact absurd hp ih
      | cons p ps => simp [piecesOf, h, hp]

theorem not_mem_of_mem_piecesOf {sep : Char} {cs p : List Char} (hp : p ∈ piecesOf sep cs) :
    sep ∉ p := by
  induction cs generalizing p with
  | nil => simp_all [piecesOf]
  | cons c cs ih =>
    by_cases h : c = sep
    · simp only [piecesOf, h, if_true, List.mem_cons] at hp
      rcases hp with rfl | hp
      · simp
      · exact ih hp
    · cases hq : piecesOf sep cs with
      | nil => exact absurd hq (piecesOf_ne_nil sep cs)
      | cons q qs =>
        simp only [piecesOf, h, if_false, hq, List.mem_cons] at hp
        rcases hp with rfl | hp
        · have := ih (p := q) (by simp [hq])
          simp only [List.mem_cons, not_or]
          exact ⟨fun e => h e.symm, this⟩
        · exact ih (by simp [hq, hp])

/-- Joining the pieces with the separator gives the text back. -/
theorem intercalate_piecesOf (sep : Char) (cs : List Char) :
    [sep].intercalate (piecesOf sep cs) = cs := by
  induction cs with
  | nil => simp [piecesOf, List.intercalate]
  | cons c cs ih =>
    cases hq : piecesOf sep cs with
    | nil => exact absurd hq (piecesOf_ne_nil sep cs)
    | cons q qs =>
      rw [hq] at ih
      by_cases h : c = sep
      · simp only [piecesOf, h, if_true, hq]
        rw [← ih]
        simp [List.intercalate, List.intersperse]
      · simp only [piecesOf, h, if_false, hq]
        rw [← ih]
        cases qs <;> simp [List.intercalate, List.intersperse]

variable {sep : Char} {glue : String} {parts : List String}

theorem piecesOf_eq_splitOn (sep : Char) (cs : List Char) : piecesOf sep cs = cs.splitOn sep := by
  induction cs with
  | nil => rfl
  | cons c cs ih =>
    rw [List.splitOn, List.splitOnP_cons_eq_if_modifyHead, ← List.splitOn, ← ih, piecesOf]
    by_cases h : c = sep
    · simp [h]
    · cases hq : piecesOf sep cs with
      | nil => exact absurd hq (piecesOf_ne_nil sep cs)
      | cons q qs => simp [h]

/-- **Parts without the separator are the pieces** of the text that they are joined to. -/
theorem pieces_intercalate (hglue : glue.toList = [sep]) (hne : parts ≠ [])
    (h : ∀ p ∈ parts, sep ∉ p.toList) : pieces sep (glue.intercalate parts) = parts := by
  rw [pieces, piecesOf_eq_splitOn, String.toList_intercalate, hglue, List.splitOn_intercalate]
  · simp
  · simpa using h
  · simpa using hne

/-- **The pieces of a text** are the parts without the separator that it is joined from. -/
theorem pieces_eq_iff {s : String} (hglue : glue.toList = [sep]) :
    pieces sep s = parts ↔
      parts ≠ [] ∧ s = glue.intercalate parts ∧ ∀ p ∈ parts, sep ∉ p.toList := by
  constructor
  · rintro rfl
    refine ⟨?_, ?_, ?_⟩
    · rw [pieces, ne_eq, List.map_eq_nil_iff]
      exact piecesOf_ne_nil sep s.toList
    · have hmap : (piecesOf sep s.toList).map (String.toList ∘ String.ofList) =
          piecesOf sep s.toList := by
        simp
      rw [← String.toList_inj, String.toList_intercalate, hglue, pieces, List.map_map, hmap,
        intercalate_piecesOf]
    · intro p hp
      obtain ⟨cs, hcs, rfl⟩ := List.mem_map.mp hp
      rw [String.toList_ofList]
      exact not_mem_of_mem_piecesOf hcs
  · rintro ⟨hne, rfl, h⟩
    exact pieces_intercalate hglue hne h

theorem length_pieces (sep : Char) (s : String) :
    (pieces sep s).length = s.toList.count sep + 1 := by
  rw [pieces, List.length_map]
  induction s.toList with
  | nil => rfl
  | cons c cs ih =>
    by_cases h : c = sep
    · simp [piecesOf, h, ih]
    · cases hq : piecesOf sep cs with
      | nil => exact absurd hq (piecesOf_ne_nil sep cs)
      | cons q qs => simp [piecesOf, h, hq, ← ih]

theorem count_intercalate (hglue : glue.toList = [sep]) (hne : parts ≠ []) :
    (glue.intercalate parts).toList.count sep + 1 =
      parts.length + (parts.flatMap String.toList).count sep := by
  induction parts with
  | nil => exact absurd rfl hne
  | cons p rest ih =>
    cases rest with
    | nil => simp [Nat.add_comm]
    | cons q rest =>
      have ih := ih (List.cons_ne_nil q rest)
      rw [String.intercalate_cons_of_ne_nil (List.cons_ne_nil q rest)]
      simp only [String.toList_append, List.count_append, hglue, List.count_singleton_self,
        List.flatMap_cons, List.length_cons] at ih ⊢
      omega

/-- **There are as many pieces as parts** just if no part holds the separator. -/
theorem length_pieces_intercalate (hglue : glue.toList = [sep]) (hne : parts ≠ []) :
    (pieces sep (glue.intercalate parts)).length = parts.length ↔
      ∀ p ∈ parts, sep ∉ p.toList := by
  rw [length_pieces, count_intercalate hglue hne, Nat.add_eq_left, List.count_eq_zero,
    List.mem_flatMap]
  exact not_exists.trans (forall_congr' fun p => not_and)

end CloudProvider.Text
