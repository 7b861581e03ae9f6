import CloudProvider.Proofs.Finding

/-!
# Identifiers of accounts and of privileges

The identifier of an account is made of two names and that of privileges of three, with `#` between
them. As no name is empty or holds that character, a text has one reading at most.

* `CompositeId.Joins`: what it is for a text to be joined from some names.
* `CompositeId.Joins.unique`, `CompositeId.parts?_eq_some_iff_joins`: the names of a text.
* **`CompositeId.parts_exact`**: the texts that are read, and what each of them gives.
-/

namespace CloudProvider.CompositeId

/-- **Whether a text is joined from so many names**, none of which is empty or holds the
separator. -/
structure Joins (count : Nat) (names : List String) (s : String) : Prop where
  length_eq : names.length = count
  ne_empty : ∀ p ∈ names, p ≠ ""
  not_mem : ∀ p ∈ names, '#' ∉ p.toList
  text_eq : text names = s

variable {count : Nat} {names names' : List String} {s shape a b c : String}

/-! ## The names of a text -/

theorem pieces_eq_iff : Text.pieces '#' s = names ↔
    names ≠ [] ∧ s = text names ∧ ∀ p ∈ names, '#' ∉ p.toList :=
  Text.pieces_eq_iff rfl

theorem length_pieces_text (hne : names ≠ []) :
    (Text.pieces '#' (text names)).length = names.length ↔ ∀ p ∈ names, '#' ∉ p.toList :=
  Text.length_pieces_intercalate rfl hne

theorem Joins.pieces_eq (h : Joins count names s) (hcount : count ≠ 0) :
    Text.pieces '#' s = names := by
  have hne : names ≠ [] := by
    rintro rfl
    exact hcount h.length_eq.symm
  exact pieces_eq_iff.mpr ⟨hne, h.text_eq.symm, h.not_mem⟩

/-- **A text is joined from one list of names.** -/
theorem Joins.unique (h : Joins count names s) (h' : Joins count names' s) : names = names' := by
  by_cases hcount : count = 0
  · subst hcount
    rw [List.length_eq_zero_iff.mp h.length_eq, List.length_eq_zero_iff.mp h'.length_eq]
  · exact (h.pieces_eq hcount).symm.trans (h'.pieces_eq hcount)

/-- **The parts of an identifier** are what it is joined from. -/
theorem parts?_eq_some_iff_joins (hcount : count ≠ 0) :
    parts? count s = some names ↔ Joins count names s := by
  rw [parts?_eq_some]
  constructor
  · rintro ⟨hpieces, hlength, hempty⟩
    obtain ⟨-, rfl, hnot⟩ := pieces_eq_iff.mp hpieces
    exact ⟨hlength, List.forall_mem_ne'.mpr hempty, hnot, rfl⟩
  · intro h
    exact ⟨h.pieces_eq hcount, h.length_eq, List.forall_mem_ne'.mp h.ne_empty⟩

theorem parts?_eq_none (hcount : count ≠ 0) (h : ∀ names, ¬ Joins count names s) :
    parts? count s = none := by
  refine Option.eq_none_iff_forall_ne_some.mpr fun names hparts => ?_
  exact h names ((parts?_eq_some_iff_joins hcount).mp hparts)

/-! ## Two names and three -/

theorem two_eq_ok_iff : two s shape = .ok (a, b) ↔ Joins 2 [a, b] s := by
  rw [← parts?_eq_some_iff_joins (by decide), two]
  constructor
  · intro h
    split at h
    · next hparts =>
      cases h
      exact hparts
    · cases h
  · intro h
    rw [h]

theorem three_eq_ok_iff : three s shape = .ok (a, b, c) ↔ Joins 3 [a, b, c] s := by
  rw [← parts?_eq_some_iff_joins (by decide), three]
  constructor
  · intro h
    split at h
    · next hparts =>
      cases h
      exact hparts
    · cases h
  · intro h
    rw [h]

theorem two_text (ha : a ≠ "") (hb : b ≠ "") (h : ∀ p ∈ [a, b], '#' ∉ p.toList) :
    two (text [a, b]) shape = .ok (a, b) :=
  two_eq_ok_iff.mpr ⟨rfl, by simp [ha, hb], h, rfl⟩

theorem three_text (ha : a ≠ "") (hb : b ≠ "") (hc : c ≠ "")
    (h : ∀ p ∈ [a, b, c], '#' ∉ p.toList) : three (text [a, b, c]) shape = .ok (a, b, c) :=
  three_eq_ok_iff.mpr ⟨rfl, by simp [ha, hb, hc], h, rfl⟩

/-- **Identifiers are parsed exactly.** What is read from a text are the two names, or the three,
that it is joined from, which no other names are; a text that is not joined from so many is invalid.
Names that are not empty and do not hold the separator are read back from the text that they are
joined to. -/
theorem parts_exact (s shape : String) :
    (∀ a b, two s shape = .ok (a, b) ↔ Joins 2 [a, b] s) ∧
    (∀ a b c, three s shape = .ok (a, b, c) ↔ Joins 3 [a, b, c] s) ∧
    (∀ count names names', Joins count names s → Joins count names' s → names = names') ∧
    ((∀ names, ¬ Joins 2 names s) →
      two s shape = .error (.invalid s!"identifier '{s}' must look like {shape}")) ∧
    ((∀ names, ¬ Joins 3 names s) →
      three s shape = .error (.invalid s!"identifier '{s}' must look like {shape}")) ∧
    (∀ a b, (∀ p ∈ [a, b], p ≠ "" ∧ '#' ∉ p.toList) → two (text [a, b]) shape = .ok (a, b)) ∧
    (∀ a b c, (∀ p ∈ [a, b, c], p ≠ "" ∧ '#' ∉ p.toList) →
      three (text [a, b, c]) shape = .ok (a, b, c)) := by
  refine ⟨fun a b => two_eq_ok_iff, fun a b c => three_eq_ok_iff,
    fun count names names' h h' => h.unique h', fun h => ?_, fun h => ?_, fun a b h => ?_,
    fun a b c h => ?_⟩
  · rw [two, parts?_eq_none (by decide) h]
    rfl
  · rw [three, parts?_eq_none (by decide) h]
    rfl
  · exact two_text (h a (by simp)).1 (h b (by simp)).1 fun p hp => (h p hp).2
  · exact three_text (h a (by simp)).1 (h b (by simp)).1 (h c (by simp)).1
      fun p hp => (h p hp).2

/-- The identifier of an account, and two texts that are none. -/
theorem parts_of_account_text :
    Joins 2 ["cdb-1", "app"] "cdb-1#app" ∧
    two "cdb-1#app" Mysql.Account.idShape = .ok ("cdb-1", "app") ∧
    (∀ names, Joins 2 names "cdb-1#app" → ["cdb-1", "app"] = names) ∧
    two "cdb-1#" Mysql.Account.idShape =
      .error (.invalid "identifier 'cdb-1#' must look like <mysql_id>#<name>") ∧
    three "cdb-1#app" "<a>#<b>#<c>" =
      .error (.invalid "identifier 'cdb-1#app' must look like <a>#<b>#<c>") ∧
    three (text ["cdb-1", "app", "shop"]) "<a>#<b>#<c>" = .ok ("cdb-1", "app", "shop") := by
  have hjoins : Joins 2 ["cdb-1", "app"] "cdb-1#app" :=
    ⟨rfl, by decide, by decide, by decide +kernel⟩
  have hempty : ∀ names, ¬ Joins 2 names "cdb-1#" := by
    intro names h
    have hpieces : Text.pieces '#' "cdb-1#" = ["cdb-1", ""] := by decide +kernel
    obtain rfl := (h.pieces_eq (by decide)).symm.trans hpieces
    exact h.ne_empty "" (by decide) rfl
  have hfew : ∀ names, ¬ Joins 3 names "cdb-1#app" := by
    intro names h
    obtain rfl := (h.pieces_eq (by decide)).symm.trans (hjoins.pieces_eq (by decide))
    exact absurd h.length_eq (by decide)
  obtain ⟨-, -, -, htwo, -, hback, -⟩ := parts_exact "cdb-1#" Mysql.Account.idShape
  obtain ⟨-, -, hunique, -, hthree, -, hback'⟩ := parts_exact "cdb-1#app" "<a>#<b>#<c>"
  refine ⟨hjoins, ?_, fun names h => hunique 2 _ names hjoins h, htwo hempty, hthree hfew,
    hback' "cdb-1" "app" "shop" (by decide)⟩
  rw [← hjoins.text_eq]
  exact hback "cdb-1" "app" (by decide)

end CloudProvider.CompositeId
