import CloudProvider.Proofs.Conformity

/-!
# What is reported of attributes

Whatever is wrong with attributes is reported once, under the name of the attribute, and with the
place within its value.

* `AttributeType.Faulty`: what may be reported of a value that is not of a type.
* `AttributeType.faulty_of_check`, **`AttributeType.exists_faulty_iff`**: what is reported is one of
  these, and there is one just if the value is not of the type.
* `Schema.Lacks`, `Schema.Strays`: attributes that are missing, and attributes that do not conform.
* **`Schema.violations_exact`**: what is reported of attributes.
-/

namespace CloudProvider

/-! ## Faults of values -/

namespace AttributeType

/-- The kind of the values of a type. A format decides by itself. -/
def kind? : AttributeType → Option String
  | .text | .oneOf _ | .textBetween _ _ => some "String"
  | .int | .intBetween _ _ => some "Int"
  | .bool => some "Bool"
  | .format _ => none
  | .list _ | .listBetween _ _ _ => some "List"
  | .map _ => some "Map"

/-- **What may be reported of a value** that is not of a type. Of a list it is the first item that
is not of the type of the items, with what may be reported of this item; of a map it is any entry
whose value is not of the type of the values. -/
inductive Faulty : AttributeType → Value → TypeError → Prop
  | kind {t : AttributeType} {v : Value} {k : String} :
      t.kind? = some k → v.kindName ≠ k → Faulty t v (.mismatch t.name v.kindName)
  | variant {variants : List String} {s : String} :
      s ∉ variants → Faulty (.oneOf variants) (.text s) (.noVariant s variants)
  | characters {min max : UInt64} {s : String} :
      s.length < min.toNat ∨ max.toNat < s.length →
        Faulty (.textBetween min max) (.text s)
          (.outOfRange s!"length of '{s}'" (Int64.ofNat s.length) min.toInt64 max.toInt64)
  | range {min max n : Int64} :
      n < min ∨ max < n → Faulty (.intBetween min max) (.int n) (.outOfRange "value" n min max)
  | format {f : Format} {v : Value} {message : String} :
      f.check v = .error message → Faulty (.format f) v (.badFormat message)
  | length {item : AttributeType} {min max : UInt64} {vs : List Value} :
      vs.length < min.toNat ∨ max.toNat < vs.length →
        Faulty (.listBetween item min max) (.list vs)
          (.outOfRange "list length" (Int64.ofNat vs.length) min.toInt64 max.toInt64)
  | item {item : AttributeType} {vs : List Value} {i : Nat} {v : Value} {e : TypeError} :
      vs[i]? = some v → (∀ u ∈ vs.take i, item.Conforms u) → Faulty item v e →
        Faulty (.list item) (.list vs) (.item i e)
  | itemBetween {item : AttributeType} {min max : UInt64} {vs : List Value} {i : Nat} {v : Value}
      {e : TypeError} :
      min.toNat ≤ vs.length → vs.length ≤ max.toNat →
      vs[i]? = some v → (∀ u ∈ vs.take i, item.Conforms u) → Faulty item v e →
        Faulty (.listBetween item min max) (.list vs) (.item i e)
  | entry {item : AttributeType} {entries : List (String × Value)} {key : String} {v : Value}
      {e : TypeError} :
      (key, v) ∈ entries → Faulty item v e → Faulty (.map item) (.map entries) (.entry key e)

theorem check_of_kind {t : AttributeType} {v : Value} {k : String} (ht : t.kind? = some k)
    (hv : v.kindName ≠ k) : t.check v = .error (.mismatch t.name v.kindName) := by
  cases t <;> cases v <;> simp_all [kind?, Value.kindName, check]

theorem faulty_of_kind {t : AttributeType} {v : Value} {k : String} {e : TypeError}
    (ht : t.kind? = some k) (hv : v.kindName ≠ k) (h : t.check v = .error e) : t.Faulty v e := by
  rw [check_of_kind ht hv] at h
  obtain rfl := Except.error.inj h
  exact .kind ht hv

theorem checkLength_eq_error {what : String} {length : Nat} {min max : UInt64} {e : TypeError}
    (h : checkLength what length min max = .error e) :
    (length < min.toNat ∨ max.toNat < length) ∧
      e = .outOfRange what (Int64.ofNat length) min.toInt64 max.toInt64 := by
  rw [checkLength] at h
  split_ifs at h with hrange
  exact ⟨hrange, (Except.error.inj h).symm⟩

/-- **Items are checked** up to the first faulty one. -/
theorem checkItems_eq_error {check : Value → Except TypeError Unit} {k : Nat} {vs : List Value}
    {e : TypeError} (h : checkItems check k vs = .error e) :
    ∃ i v inner, vs[i]? = some v ∧ (∀ u ∈ vs.take i, check u = .ok ()) ∧
      check v = .error inner ∧ e = .item (k + i) inner := by
  induction vs generalizing k with
  | nil => cases h
  | cons v vs ih =>
    rw [checkItems] at h
    cases hv : check v with
    | error inner =>
      rw [hv] at h
      exact ⟨0, v, inner, rfl, by simp, hv, (Except.error.inj h).symm⟩
    | ok _ =>
      rw [hv] at h
      obtain ⟨i, u, inner, hu, hbefore, hinner, rfl⟩ := ih h
      refine ⟨i + 1, u, inner, by simpa using hu, ?_, hinner, ?_⟩
      · simpa [hv] using hbefore
      · rw [Nat.add_assoc, Nat.add_comm 1]

theorem checkEntries_eq_error {check : Value → Except TypeError Unit}
    {entries : List (String × Value)} {e : TypeError} (h : checkEntries check entries = .error e) :
    ∃ key v inner, (key, v) ∈ entries ∧ check v = .error inner ∧ e = .entry key inner := by
  induction entries with
  | nil => cases h
  | cons m rest ih =>
    obtain ⟨key, v⟩ := m
    rw [checkEntries] at h
    cases hv : check v with
    | error inner =>
      rw [hv] at h
      exact ⟨key, v, inner, List.mem_cons_self, hv, (Except.error.inj h).symm⟩
    | ok _ =>
      rw [hv] at h
      obtain ⟨key', u, inner, hu, hinner, rfl⟩ := ih h
      exact ⟨key', u, inner, List.mem_cons_of_mem _ hu, hinner, rfl⟩

/-- **What the check reports** may be reported. -/
theorem faulty_of_check {t : AttributeType} {v : Value} {e : TypeError} (h : t.check v = .error e) :
    t.Faulty v e := by
  induction t generalizing v e with
  | text => cases v with
    | text s => cases h
    | _ => exact faulty_of_kind rfl (by simp [Value.kindName]) h
  | int => cases v with
    | int n => cases h
    | _ => exact faulty_of_kind rfl (by simp [Value.kindName]) h
  | bool => cases v with
    | bool b => cases h
    | _ => exact faulty_of_kind rfl (by simp [Value.kindName]) h
  | oneOf variants => cases v with
    | text s =>
      rw [check] at h
      split_ifs at h with hs
      obtain rfl := Except.error.inj h
      exact .variant hs
    | _ => exact faulty_of_kind rfl (by simp [Value.kindName]) h
  | textBetween min max => cases v with
    | text s =>
      obtain ⟨hrange, rfl⟩ := checkLength_eq_error h
      exact .characters hrange
    | _ => exact faulty_of_kind rfl (by simp [Value.kindName]) h
  | intBetween min max => cases v with
    | int n =>
      rw [check] at h
      split_ifs at h with hrange
      obtain rfl := Except.error.inj h
      exact .range hrange
    | _ => exact faulty_of_kind rfl (by simp [Value.kindName]) h
  | format f =>
    rw [check] at h
    cases hf : f.check v with
    | ok _ =>
      rw [hf] at h
      cases h
    | error message =>
      rw [hf] at h
      obtain rfl := Except.error.inj h
      exact .format hf
  | list item ih => cases v with
    | list vs =>
      obtain ⟨i, v, inner, hv, hbefore, hinner, rfl⟩ := checkItems_eq_error h
      rw [Nat.zero_add]
      exact .item hv (fun u hu => check_eq_ok.mp (hbefore u hu)) (ih hinner)
    | _ => exact faulty_of_kind rfl (by simp [Value.kindName]) h
  | listBetween item min max ih => cases v with
    | list vs =>
      rw [check] at h
      cases hlength : checkLength "list length" vs.length min max with
      | error e' =>
        rw [hlength] at h
        obtain rfl := Except.error.inj h
        obtain ⟨hrange, rfl⟩ := checkLength_eq_error hlength
        exact .length hrange
      | ok _ =>
        rw [hlength] at h
        obtain ⟨hmin, hmax⟩ := checkLength_eq_ok.mp hlength
        obtain ⟨i, v, inner, hv, hbefore, hinner, rfl⟩ := checkItems_eq_error h
        rw [Nat.zero_add]
        exact .itemBetween hmin hmax hv (fun u hu => check_eq_ok.mp (hbefore u hu)) (ih hinner)
    | _ => exact faulty_of_kind rfl (by simp [Value.kindName]) h
  | map item ih => cases v with
    | map entries =>
      obtain ⟨key, v, inner, hv, hinner, rfl⟩ := checkEntries_eq_error h
      exact .entry hv (ih hinner)
    | _ => exact faulty_of_kind rfl (by simp [Value.kindName]) h

theorem Faulty.not_conforms {t : AttributeType} {v : Value} {e : TypeError} (h : t.Faulty v e) :
    ¬ t.Conforms v := by
  intro hconforms
  induction h with
  | kind ht hv =>
    have hcheck := check_of_kind ht hv
    rw [check_eq_ok.mpr hconforms] at hcheck
    cases hcheck
  | variant hs =>
    cases hconforms with
    | oneOf hs' => exact hs hs'
  | characters hrange =>
    cases hconforms with
    | textBetween hmin hmax => omega
  | range hrange =>
    cases hconforms with
    | intBetween hmin hmax =>
      rcases hrange with h | h
      · exact Int64.not_lt.mpr hmin h
      · exact Int64.not_lt.mpr hmax h
  | format hf =>
    have hcheck := check_eq_ok.mpr hconforms
    rw [check, hf] at hcheck
    cases hcheck
  | length hrange =>
    cases hconforms with
    | listBetween hmin hmax _ => omega
  | item hv _ _ ih =>
    cases hconforms with
    | list hitems => exact ih (hitems _ (List.mem_of_getElem? hv))
  | itemBetween _ _ hv _ _ ih =>
    cases hconforms with
    | listBetween _ _ hitems => exact ih (hitems _ (List.mem_of_getElem? hv))
  | entry hv _ ih =>
    cases hconforms with
    | map hentries => exact ih (hentries _ hv)

/-- **There is something to report of a value** unless it is of the type. -/
theorem exists_faulty_iff {t : AttributeType} {v : Value} :
    (∃ e, t.Faulty v e) ↔ ¬ t.Conforms v := by
  constructor
  · rintro ⟨e, h⟩
    exact h.not_conforms
  · intro hnot
    cases h : t.check v with
    | ok _ => exact absurd (check_eq_ok.mp h) hnot
    | error e => exact ⟨e, faulty_of_check h⟩

end AttributeType

/-! ## Faults of attributes -/

/-- The attribute whose value a type error is about. -/
def TypeError.attribute? : TypeError → Option String
  | .attribute name _ => some name
  | _ => none

theorem TypeError.attribute?_eq_some {e : TypeError} {name : String} :
    e.attribute? = some name ↔ ∃ inner, e = .attribute name inner := by
  cases e <;> simp [attribute?]

namespace Schema

variable {schema : Schema} {attributes : Attributes} {key : String}

/-- **Whether an attribute is missing**: it is required, has no default and is not given. -/
def Lacks (schema : Schema) (attributes : Attributes) (key : String) : Prop :=
  ∃ a, (key, a) ∈ schema.attributes ∧ a.required = true ∧ a.default = none ∧ key ∉ attributes.keys

/-- **Whether an attribute does not conform**: it is declared and given, and its value is not of its
type. -/
def Strays (schema : Schema) (attributes : Attributes) (key : String) : Prop :=
  ∃ a v, (key, a) ∈ schema.attributes ∧ (key, v) ∈ attributes ∧ ¬ a.type.Conforms v

theorem missing_mem_violations (h : schema.attributes.keys.Nodup)
    (hkey : schema.Lacks attributes key) : .missing key ∈ schema.violations attributes := by
  obtain ⟨a, ha, hrequired, hdefault, hgiven⟩ := hkey
  exact (mem_violations h).mpr (.missing ha hrequired hdefault hgiven)

theorem attribute_mem_violations (h : schema.attributes.keys.Nodup)
    (hkey : schema.Strays attributes key) :
    ∃ e, .attribute key e ∈ schema.violations attributes := by
  obtain ⟨a, v, ha, hv, hconforms⟩ := hkey
  cases he : a.type.check v with
  | ok _ => exact absurd (AttributeType.check_eq_ok.mp he) hconforms
  | error e => exact ⟨e, (mem_violations h).mpr (.nonconforming ha hv he)⟩

theorem attribute_unique (h : schema.attributes.keys.Nodup) (hgiven : attributes.keys.Nodup)
    {e f : TypeError} (he : .attribute key e ∈ schema.violations attributes)
    (hf : .attribute key f ∈ schema.violations attributes) : e = f := by
  rw [mem_violations h] at he hf
  cases he with
  | nonconforming ha hv he =>
    cases hf with
    | nonconforming ha' hv' hf =>
      obtain rfl := Option.some.inj
        ((Fields.get?_of_mem h ha).symm.trans (Fields.get?_of_mem h ha'))
      obtain rfl := Option.some.inj
        ((Fields.get?_of_mem hgiven hv).symm.trans (Fields.get?_of_mem hgiven hv'))
      exact Except.error.inj (he.symm.trans hf)

theorem filter_violations (h : schema.attributes.keys.Nodup) (hgiven : attributes.keys.Nodup)
    (hkey : schema.Strays attributes key) :
    ∃ e, (schema.violations attributes).filter (fun e => e.attribute? = some key) =
      [.attribute key e] := by
  obtain ⟨e, he⟩ := attribute_mem_violations h hkey
  refine ⟨e, ?_⟩
  have hall : ∀ f ∈ (schema.violations attributes).filter (fun f => f.attribute? = some key),
      .attribute key e = f := by
    intro f hf
    obtain ⟨hmem, hname⟩ := List.mem_filter.mp hf
    obtain ⟨f, rfl⟩ := TypeError.attribute?_eq_some.mp (of_decide_eq_true hname)
    rw [attribute_unique h hgiven he hmem]
  have hmem : .attribute key e ∈
      (schema.violations attributes).filter (fun f => f.attribute? = some key) :=
    List.mem_filter.mpr ⟨he, by simp [TypeError.attribute?]⟩
  have hcount := List.count_eq_one_of_mem ((violations_nodup h hgiven).filter _) hmem
  rw [List.count_eq_length.mpr hall] at hcount
  obtain ⟨f, hf⟩ := List.length_eq_one_iff.mp hcount
  rw [hf, List.mem_singleton] at hmem
  rw [hf, hmem]

/-- **The violations are what is wrong, each once.** There are none just if the schema allows the
attributes. A missing attribute is reported once; of an attribute that does not conform one fault is
reported, with its place within the value; and nothing else is reported. Faults, those within values
among them, are of values that are not of their types and of no others. The reports come by their
wording. -/
theorem violations_exact (h : schema.attributes.keys.Nodup) (hgiven : attributes.keys.Nodup) :
    let es := schema.violations attributes
    (es = [] ↔ schema.Admits attributes) ∧
    (∀ key, schema.Lacks attributes key → es.count (.missing key) = 1) ∧
    (∀ key, schema.Strays attributes key →
      ∃ e, es.filter (fun e => e.attribute? = some key) = [.attribute key e]) ∧
    (∀ e ∈ es, (∃ key, schema.Lacks attributes key ∧ e = .missing key) ∨
      ∃ key a v inner, (key, a) ∈ schema.attributes ∧ (key, v) ∈ attributes ∧
        ¬ a.type.Conforms v ∧ a.type.Faulty v inner ∧ e = .attribute key inner) ∧
    (∀ (t : AttributeType) (v : Value), (∃ inner, t.Faulty v inner) ↔ ¬ t.Conforms v) ∧
    (es.map TypeError.message).Pairwise (· ≤ ·) := by
  intro es
  refine ⟨violations_eq_nil_iff_admits h, fun key hkey => ?_,
    fun key hkey => filter_violations h hgiven hkey, fun e he => ?_,
    fun _ _ => AttributeType.exists_faulty_iff, violations_sorted _ _⟩
  · exact List.count_eq_one_of_mem (violations_nodup h hgiven) (missing_mem_violations h hkey)
  · rcases (mem_violations h).mp he with ⟨ha, hrequired, hdefault, hnone⟩ | ⟨ha, hv, hcheck⟩
    · exact .inl ⟨_, ⟨_, ha, hrequired, hdefault, hnone⟩, rfl⟩
    · have hfaulty := AttributeType.faulty_of_check hcheck
      exact .inr ⟨_, _, _, _, ha, hv, hfaulty.not_conforms, hfaulty, rfl⟩

/-- A schema with maps within a list. -/
def weighted : Schema where
  resourceType := "pool"
  attributes :=
    [("name", { name := "name", type := .textBetween 1 60, required := true }),
     ("weights", { name := "weights", type := .list (.map (.intBetween 0 100)) }),
     ("zone", { name := "zone", type := .oneOf ["a", "b"], required := true,
                default := some (.text "a") })]

/-- Attributes with a weight that is too large. -/
def overweight : Attributes :=
  [("note", .bool true),
   ("weights", .list [.map [("db", .int 40)], .map [("db", .int 7), ("web", .int 101)], .int 5])]

/-- A weight that is too large, and a name that is missing. -/
theorem violations_of_overweight :
    let es := weighted.violations overweight
    weighted.attributes.keys.Nodup ∧ overweight.keys.Nodup ∧
      weighted.Lacks overweight "name" ∧ es.count (.missing "name") = 1 ∧
      weighted.Strays overweight "weights" ∧
      es.filter (fun e => e.attribute? = some "weights") =
        [.attribute "weights" (.item 1 (.entry "web" (.outOfRange "value" 101 0 100)))] := by
  intro es
  have hschema : weighted.attributes.keys.Nodup := by decide +kernel
  have hgiven : overweight.keys.Nodup := by decide +kernel
  have hlacks : weighted.Lacks overweight "name" :=
    ⟨_, .head _, rfl, rfl, by decide +kernel⟩
  have hcheck : (AttributeType.list (.map (.intBetween 0 100))).check
      (.list [.map [("db", .int 40)], .map [("db", .int 7), ("web", .int 101)], .int 5]) =
        .error (.item 1 (.entry "web" (.outOfRange "value" 101 0 100))) := by decide +kernel
  have hstrays : weighted.Strays overweight "weights" :=
    ⟨_, _, .tail _ (.head _), .tail _ (.head _),
      (AttributeType.faulty_of_check hcheck).not_conforms⟩
  obtain ⟨-, hmissing, hattribute, -⟩ := violations_exact hschema hgiven
  obtain ⟨e, he⟩ := hattribute "weights" hstrays
  have hmem : _ ∈ weighted.violations overweight := (mem_violations hschema).mpr
    (.nonconforming (.tail _ (.head _)) (.tail _ (.head _)) hcheck)
  have hreported : _ ∈ (weighted.violations overweight).filter
      (fun e => e.attribute? = some "weights") := List.mem_filter.mpr ⟨hmem, rfl⟩
  rw [he, List.mem_singleton] at hreported
  rw [← hreported] at he
  exact ⟨hschema, hgiven, hlacks, hmissing _ hlacks, hstrays, he⟩

end Schema

end CloudProvider
