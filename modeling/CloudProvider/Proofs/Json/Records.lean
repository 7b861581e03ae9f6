import CloudProvider.Json.Document.Record
import CloudProvider.Proofs.Attributes
import CloudProvider.Proofs.Json.Texts

/-!
# Records read from the texts of a value

* `Document.Spells.surface`: a value without parts is what a document of it shows.
* `Document.MembersSpell.firstUnder`: the member under a name is one of the value under that name.
* `Row.read_column`, `Row.read_seq`: the record that columns make of the values they read.
* **`Row.ofDocument_object`**: a record is read from an object whose columns have each one value at
  most, whatever other members there are.
-/

namespace CloudProvider

namespace Document

variable {d : Document} {j : Json}

/-- **A value without parts is what its document shows.** -/
theorem Spells.surface (h : d.Spells j) (harr : ∀ items, j ≠ .arr items)
    (hobj : ∀ members, j ≠ .obj members) : d.surface = .ok j := by
  cases h with
  | null | bool | text => rfl
  | number h => simp [Document.surface, h]
  | array => exact absurd rfl (harr _)
  | object => exact absurd rfl (hobj _)

theorem value?_ne_obj (n : Numeral) (members : List (String × Json)) :
    n.value? ≠ some (.obj members) := by
  have hfloat : n.double?.map Json.float ≠ some (.obj members) := by
    cases n.double? <;> simp
  simp only [Numeral.value?]
  split_ifs <;> first | exact hfloat | simp

theorem Spells.exists_object {members : List (String × Json)} (h : d.Spells (.obj members)) :
    ∃ ms, d = .object ms ∧ MembersSpell ms members := by
  cases h with
  | number h => exact absurd h (value?_ne_obj _ _)
  | object h => exact ⟨_, rfl, h⟩

theorem MembersSpell.firstUnder {ms : List (Option String × Document)}
    {members : List (String × Json)} (h : MembersSpell ms members) (name : String) :
    Option.Rel Document.Spells (Row.firstUnder ms name) (Fields.get? members name) := by
  rw [Row.firstUnder]
  induction ms generalizing members with
  | nil =>
    cases h
    exact .none
  | cons m ms ih =>
    cases h with
    | @cons own d j _ members h hrest =>
      rw [List.lookup_cons, Fields.get?_cons]
      by_cases hname : name = own
      · have heq : (some name == some own) = true := by simpa using hname
        rw [if_pos hname, heq]
        exact .some h
      · have hne : (some name == some own) = false := by simpa using hname
        rw [if_neg hname, hne]
        exact ih hrest

end Document

namespace Row

variable {α β J : Type} {value : String → Option J}

/-! ## Columns -/

theorem read_seq_eq_ok {f : Row J (α → β)} {x : Row J α} {b : β} :
    (f <*> x).read value = .ok b ↔
      ∃ g a, f.read value = .ok g ∧ x.read value = .ok a ∧ g a = b := by
  simp only [Seq.seq]
  cases f.read value with
  | error fs => cases x.read value <;> simp
  | ok g => cases x.read value <;> simp

theorem read_seq {f : Row J (α → β)} {x : Row J α} {g : α → β} {a : α}
    (hf : f.read value = .ok g) (hx : x.read value = .ok a) : (f <*> x).read value = .ok (g a) :=
  read_seq_eq_ok.mpr ⟨g, a, hf, hx, rfl⟩

theorem read_map (g : α → β) {x : Row J α} {a : α} (hx : x.read value = .ok a) :
    (g <$> x).read value = .ok (g a) :=
  read_seq (f := pure g) rfl hx

theorem read_column {name : String} {item : J → Except Issue α} {absent a : α}
    (h : (value name).elim (.ok absent) item = .ok a) :
    (column name item absent).read value = .ok a := by
  simp only [column]
  cases hvalue : value name with
  | none => simpa [hvalue] using h
  | some j =>
    have hitem : item j = .ok a := by simpa [hvalue] using h
    simp only [hitem, Except.mapError]

/-! ## Objects -/

theorem issueOfMembers?_eq_none (row : Row Document α) {ms : List (Option String × Document)}
    {members : List (String × Json)} (h : Document.MembersSpell ms members) (seen : List String)
    (honce : ((Fields.keys members).filter (· ∈ row.columns)).Nodup)
    (hseen : ∀ name ∈ Fields.keys members, name ∈ row.columns → name ∉ seen) :
    row.issueOfMembers? [] seen ms = none := by
  induction ms generalizing members seen with
  | nil => rfl
  | cons m ms ih =>
    obtain @⟨_, _⟩ | @⟨name, d, j, _, members, h, hmembers⟩ := h
    rw [Fields.keys, List.map_cons] at honce hseen
    obtain ⟨hname, hrest⟩ := List.forall_mem_cons.mp hseen
    rw [issueOfMembers?]
    by_cases hcolumn : name ∈ row.columns
    · rw [List.filter_cons_of_pos (by simpa using hcolumn)] at honce
      obtain ⟨hnew, honce⟩ := List.nodup_cons.mp honce
      rw [if_neg (not_not_intro hcolumn), if_neg (hname hcolumn), List.lookup_nil, Option.none_or]
      refine ih hmembers _ honce fun other hother hknown => ?_
      have hne : other ≠ name := by
        rintro rfl
        exact hnew (List.mem_filter.mpr ⟨hother, by simpa using hcolumn⟩)
      exact List.not_mem_cons_of_ne_of_not_mem hne (hrest other hother hknown)
    · rw [List.filter_cons_of_neg (by simpa using hcolumn)] at honce
      rw [if_pos hcolumn, if_pos h.isWhole]
      exact ih hmembers _ honce hrest

/-- **A record is read from an object** with each column once at most. -/
theorem ofDocument_object (name : String) {row : Row Document α}
    {ms : List (Option String × Document)} {members : List (String × Json)} {a : α}
    (h : Document.MembersSpell ms members)
    (honce : ((Fields.keys members).filter (· ∈ row.columns)).Nodup)
    (hread : row.read (firstUnder ms) = .ok a) :
    row.ofDocument name (.object ms) = .ok a := by
  have hissue := issueOfMembers?_eq_none row h [] honce fun _ _ _ => List.not_mem_nil
  rw [ofDocument, ofMembers, hread, hissue]

theorem ofText_of_spread {name : String} {row : Row Document α} {d : Document} {s : String} {a : α}
    (hd : d.isWhole = true) (hs : Token.Spread d.tokens s.toList)
    (h : row.ofDocument name d = .ok a) : row.ofText name s = .ok a := by
  rw [ofText, Document.read_of_spread hd hs]
  simp [h, bind, Except.bind, pure, Except.pure]

end Row

end CloudProvider
