import CloudProvider.Proofs.Blocks
import CloudProvider.Proofs.Identifier

/-!
# Identifiers of route entries

The identifier of a route entry is a number in decimal and the id of a table, with the only dot
between them. Leading zeros are all that two texts of one identifier can differ in.

* `RouteEntryId.Spells`: what it is for a text to consist of some digits and the id of a table.
* **`RouteEntryId.ofText_exact`**: the texts that are read, and what each of them gives.
-/

namespace CloudProvider

namespace RouteEntryId

/-! ## Texts of identifiers -/

/-- **Whether a text consists of some digits and the id of a table**, with a dot between them. The
digits write a number of 64 bits, and the id of the table has no dot. -/
structure Spells (s digits table : String) : Prop where
  eq : s = digits ++ "." ++ table
  digits_ne : digits ≠ ""
  isDigit : ∀ c ∈ digits.toList, c.isDigit = true
  number_lt : Text.number digits < 2 ^ 64
  table_ne : table ≠ ""
  dot_not_mem : '.' ∉ table.toList

variable {s digits table : String}

theorem spells_iff : Spells s digits table ↔ Text.pieces '.' s = [digits, table] ∧ table ≠ "" ∧
    (Text.decimal? digits.toList).filter (· < UInt64.size) = some (Text.number digits) := by
  have hdot {c : Char} (hc : c.isDigit = true) : c ≠ '.' := by
    rintro rfl
    cases hc
  have hglue : (".").toList = ['.'] := rfl
  rw [Text.pieces_eq_iff hglue, Option.filter_eq_some_iff, Text.decimal?_eq_some,
    List.forall_mem_cons, List.forall_mem_singleton, decide_eq_true_eq]
  constructor
  · rintro ⟨rfl, hne, hdigits, hlt, htable, hdotless⟩
    have hdigitless : '.' ∉ digits.toList := fun h => hdot (hdigits _ h) rfl
    exact ⟨⟨List.cons_ne_nil _ _, rfl, hdigitless, hdotless⟩, htable, ⟨hne, hdigits, rfl⟩, hlt⟩
  · rintro ⟨⟨-, heq, -, hdotless⟩, htable, ⟨hne, hdigits, -⟩, hlt⟩
    exact ⟨heq, hne, hdigits, hlt, htable, hdotless⟩

theorem parse_eq_ok {id : RouteEntryId} : parse s = .ok id ↔
    ∃ digits table, Spells s digits table ∧ id = ⟨UInt64.ofNat (Text.number digits), table⟩ := by
  simp only [spells_iff]
  constructor
  · intro h
    rw [parse] at h
    split at h
    · rename_i digits table hpieces
      split_ifs at h with htable
      split at h
      · rename_i n hn
        obtain rfl := (Text.decimal?_eq_some.mp (Option.filter_eq_some_iff.mp hn).1).2.2
        exact ⟨digits, table, ⟨hpieces, htable, hn⟩, (Except.ok.inj h).symm⟩
      · cases h
    · cases h
  · rintro ⟨digits, table, ⟨hpieces, htable, hn⟩, rfl⟩
    simp only [parse, hpieces, if_neg htable, hn]

theorem text_eq_append (id : RouteEntryId) :
    id.text = toString id.entry.toNat ++ "." ++ id.routeTable := text_eq id

theorem Spells.toNat_entry (h : Spells s digits table) :
    (UInt64.ofNat (Text.number digits)).toNat = Text.number digits :=
  UInt64.toNat_ofNat_of_lt h.number_lt

/-- **The text of what is read** has the number in place of the digits. -/
theorem Spells.text_eq (h : Spells s digits table) :
    text ⟨UInt64.ofNat (Text.number digits), table⟩ =
      toString (Text.number digits) ++ "." ++ table := by
  rw [text_eq_append, h.toNat_entry]

theorem Spells.text_eq_iff (h : Spells s digits table) :
    text ⟨UInt64.ofNat (Text.number digits), table⟩ = s ↔ ¬ Text.IsPadded digits := by
  rw [h.text_eq, h.eq, String.append_left_inj, String.append_left_inj,
    Text.toString_number_eq_iff h.digits_ne h.isDigit]

theorem exists_zeros_of_parse {id : RouteEntryId} (h : parse s = .ok id) :
    ∃ k, s = Text.zeros k ++ id.text := by
  obtain ⟨digits, table, hs, rfl⟩ := parse_eq_ok.mp h
  obtain ⟨k, hk⟩ := Text.exists_padding hs.digits_ne hs.isDigit
  refine ⟨k, ?_⟩
  calc s = digits ++ "." ++ table := hs.eq
    _ = Text.zeros k ++ toString (Text.number digits) ++ "." ++ table := by rw [← hk]
    _ = Text.zeros k ++ (toString (Text.number digits) ++ "." ++ table) := by
      simp only [String.append_assoc]
    _ = Text.zeros k ++ text ⟨UInt64.ofNat (Text.number digits), table⟩ := by rw [hs.text_eq]

theorem ofText_eq_ok_iff {id : RouteEntryId} : ofText s = .ok id ↔ parse s = .ok id := by
  rw [ofText]
  cases parse s <;> simp [Except.mapError]

/-- **Identifiers are parsed exactly.** A text is read just if it consists of a number of 64 bits
and the id of a table, and it gives these; any other text is invalid. An identifier is read back
from its text. What is read has another text only if there are superfluous zeros, which are also all
that two texts of one identifier differ in. -/
theorem ofText_exact (s : String) :
    ((∃ id, ofText s = .ok id) ↔ ∃ digits table, Spells s digits table) ∧
    (∀ digits table, Spells s digits table →
      let id : RouteEntryId := ⟨UInt64.ofNat (Text.number digits), table⟩
      ofText s = .ok id ∧ id.entry.toNat = Text.number digits ∧
        (id.text = s ↔ ¬ Text.IsPadded digits)) ∧
    ((¬ ∃ digits table, Spells s digits table) →
      ∃ message, ofText s = .error ⟨.invalid message, none⟩) ∧
    (∀ id : RouteEntryId, id.routeTable ≠ "" → '.' ∉ id.routeTable.toList →
      ofText id.text = .ok id) ∧
    (∀ s' id, ofText s = .ok id → ofText s' = .ok id →
      ∃ k k', s = Text.zeros k ++ id.text ∧ s' = Text.zeros k' ++ id.text) := by
  have hread : (∃ id, ofText s = .ok id) ↔ ∃ digits table, Spells s digits table := by
    simp only [ofText_eq_ok_iff, parse_eq_ok]
    constructor
    · rintro ⟨_, digits, table, h, -⟩
      exact ⟨digits, table, h⟩
    · rintro ⟨digits, table, h⟩
      exact ⟨_, digits, table, h, rfl⟩
  refine ⟨hread, fun digits table h => ?_, fun h => ?_, fun id => ofText_text, ?_⟩
  · exact ⟨ofText_eq_ok_iff.mpr (parse_eq_ok.mpr ⟨digits, table, h, rfl⟩), h.toNat_entry,
      h.text_eq_iff⟩
  · cases hs : ofText s with
    | ok id => exact absurd (hread.mp ⟨id, hs⟩) h
    | error e =>
      obtain ⟨-, message, rfl⟩ := ofText_eq_error hs
      exact ⟨message, rfl⟩
  · intro s' id h h'
    obtain ⟨k, hk⟩ := exists_zeros_of_parse (ofText_eq_ok_iff.mp h)
    obtain ⟨k', hk'⟩ := exists_zeros_of_parse (ofText_eq_ok_iff.mp h')
    exact ⟨k, k', hk, hk'⟩

/-- Two texts of one identifier, and a number that is too large. -/
theorem ofText_of_padded_text :
    ofText "007.rtb-1" = .ok ⟨7, "rtb-1"⟩ ∧ text ⟨7, "rtb-1"⟩ ≠ "007.rtb-1" ∧
      ofText (text ⟨7, "rtb-1"⟩) = .ok ⟨7, "rtb-1"⟩ ∧
      ∃ message, ofText "18446744073709551616.rtb-1" = .error ⟨.invalid message, none⟩ := by
  have hspells : Spells "007.rtb-1" "007" "rtb-1" :=
    ⟨rfl, by decide, List.all_eq_true.mp rfl, by decide, by decide, by decide⟩
  have hlarge : ¬ ∃ digits table, Spells "18446744073709551616.rtb-1" digits table := by
    rintro ⟨digits, table, h⟩
    have hpieces : Text.pieces '.' "18446744073709551616.rtb-1" =
        ["18446744073709551616", "rtb-1"] := by decide +kernel
    obtain ⟨rfl, -⟩ := List.cons.inj ((spells_iff.mp h).1.symm.trans hpieces)
    exact absurd h.number_lt (by decide +kernel)
  obtain ⟨-, hread, -, hback, -⟩ := ofText_exact "007.rtb-1"
  obtain ⟨hok, -, htext⟩ := hread _ _ hspells
  refine ⟨hok, fun heq => htext.mp heq ⟨"07", by decide, rfl⟩, ?_, ?_⟩
  · exact hback ⟨7, "rtb-1"⟩ (by decide) (by decide)
  · exact (ofText_exact "18446744073709551616.rtb-1").2.2.1 hlarge

end RouteEntryId

end CloudProvider
