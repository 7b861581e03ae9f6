import CloudProvider.Proofs.Attributes
import CloudProvider.Proofs.Blocks
import Mathlib.Data.List.Nodup

/-!
# Attributes that conform

What the checks of values and of attributes accept, without regard to how they check it.

* `AttributeType.Conforms`, **`AttributeType.check_eq_ok`**: the values of a type.
* `Schema.Admits`, **`Schema.violations_eq_nil_iff_admits`**: the attributes that a schema allows.
* `Schema.Violates`, `Schema.mem_violations`: what can be wrong with attributes.
* `Schema.Lists`, **`Provider.prepare_eq_error`**: the text that tells it.
-/

namespace CloudProvider

/-! ## Values under keys -/

namespace Fields

variable {α β : Type} {fs : Fields α} {key : String}

theorem get?_eq_none_iff : fs.get? key = none ↔ key ∉ fs.keys := by
  refine ⟨fun h hkey => ?_, Fields.get?_eq_none⟩
  obtain ⟨⟨k, a⟩, hmem, rfl⟩ := List.mem_map.mp hkey
  have hnone := List.lookup_eq_none_iff.mp h (k, a) hmem
  simp at hnone

theorem nodup_filterMap (h : fs.keys.Nodup) {f : String × α → Option β}
    (hf : ∀ p q b, f p = some b → f q = some b → p.1 = q.1) : (List.filterMap f fs).Nodup := by
  refine List.pairwise_filterMap.mpr ((List.pairwise_map.mp h).imp fun hne b hb c hc heq => ?_)
  exact hne (hf _ _ b hb (heq ▸ hc))

theorem keys_insert_perm (h : key ∉ fs.keys) (a : α) :
    (fs.insert key a).keys.Perm (key :: fs.keys) := by
  induction fs with
  | nil => exact .refl _
  | cons f rest ih =>
    obtain ⟨k, b⟩ := f
    obtain ⟨hne, hrest⟩ := not_or.mp (mt List.mem_cons.mpr h)
    rw [insert]
    by_cases hlt : key < k
    · rw [if_pos hlt]
      exact .refl _
    · rw [if_neg hlt, if_neg hne]
      exact ((ih hrest).cons k).trans (.swap key k _)

end Fields

/-! ## Values of a type -/

namespace AttributeType

/-- **The values of a type.** Items of lists and values of maps are of a type themselves. -/
inductive Conforms : AttributeType → Value → Prop
  | text (s : String) : Conforms .text (.text s)
  | int (n : Int64) : Conforms .int (.int n)
  | bool (b : Bool) : Conforms .bool (.bool b)
  | oneOf {variants : List String} {s : String} :
      s ∈ variants → Conforms (.oneOf variants) (.text s)
  | textBetween {min max : UInt64} {s : String} :
      min.toNat ≤ s.length → s.length ≤ max.toNat → Conforms (.textBetween min max) (.text s)
  | intBetween {min max n : Int64} :
      min ≤ n → n ≤ max → Conforms (.intBetween min max) (.int n)
  | cidr {s : String} : Cidr.Names s → Conforms (.format .cidr) (.text s)
  | privileges {ps : List String} :
      ps ≠ [] → (∀ p ∈ ps, p ∈ Mysql.databasePrivileges) →
        Conforms (.format .privileges) (.texts ps)
  | list {item : AttributeType} {vs : List Value} :
      (∀ v ∈ vs, Conforms item v) → Conforms (.list item) (.list vs)
  | listBetween {item : AttributeType} {min max : UInt64} {vs : List Value} :
      min.toNat ≤ vs.length → vs.length ≤ max.toNat → (∀ v ∈ vs, Conforms item v) →
        Conforms (.listBetween item min max) (.list vs)
  | map {item : AttributeType} {entries : List (String × Value)} :
      (∀ m ∈ entries, Conforms item m.2) → Conforms (.map item) (.map entries)

theorem checkEntries_eq_ok {check : Value → Except TypeError Unit}
    {entries : List (String × Value)} :
    checkEntries check entries = .ok () ↔ ∀ m ∈ entries, check m.2 = .ok () := by
  induction entries with
  | nil => simp [checkEntries]
  | cons m rest ih =>
    rw [List.forall_mem_cons, ← ih, checkEntries]
    cases check m.2 with
    | error e => simp [Except.mapError, bind, Except.bind]
    | ok a => simp [Except.mapError, bind, Except.bind]

theorem checkPrivileges_texts (ps : List String) :
    Format.checkPrivileges (ps.map .text) = .ok () ↔ ∀ p ∈ ps, p ∈ Mysql.databasePrivileges := by
  induction ps with
  | nil => simp [Format.checkPrivileges]
  | cons p ps ih =>
    rw [List.map_cons, Format.checkPrivileges, List.forall_mem_cons]
    split_ifs with hp
    · rw [ih, and_iff_right hp]
    · exact iff_of_false (fun h => by cases h) fun h => hp h.1

theorem except_mapError_eq_ok {ε ε' α : Type} {x : Except ε α} {f : ε → ε'} {a : α} :
    x.mapError f = .ok a ↔ x = .ok a := by
  cases x <;> simp [Except.mapError]

theorem conforms_of_check {t : AttributeType} {v : Value} (h : t.check v = .ok ()) :
    t.Conforms v := by
  induction t generalizing v with
  | text =>
    obtain ⟨s, rfl⟩ := check_text.mp h
    exact .text s
  | int =>
    cases v with
    | int n => exact .int n
    | _ => cases h
  | bool =>
    obtain ⟨b, rfl⟩ := check_bool.mp h
    exact .bool b
  | oneOf variants =>
    obtain ⟨s, rfl, hs⟩ := check_oneOf.mp h
    exact .oneOf hs
  | textBetween min max =>
    obtain ⟨s, rfl, hmin, hmax⟩ := check_textBetween.mp h
    exact .textBetween hmin hmax
  | intBetween min max =>
    obtain ⟨n, rfl⟩ := check_intBetween h
    rw [check] at h
    split_ifs at h with hrange
    obtain ⟨hmin, hmax⟩ := not_or.mp hrange
    exact .intBetween (Int64.not_lt.mp hmin) (Int64.not_lt.mp hmax)
  | format f =>
    cases f with
    | cidr =>
      obtain ⟨s, rfl, -⟩ := check_cidr h
      exact .cidr (Cidr.check_eq_ok.mp (except_mapError_eq_ok.mp (except_mapError_eq_ok.mp h)))
    | privileges =>
      obtain ⟨ps, rfl⟩ := check_privileges h
      cases ps with
      | nil => cases h
      | cons p ps =>
        have hps := (checkPrivileges_texts (p :: ps)).mp (except_mapError_eq_ok.mp h)
        exact .privileges (List.cons_ne_nil p ps) hps
  | list item ih =>
    cases v with
    | list vs => exact .list fun v hv => ih (checkItems_eq_ok.mp h v hv)
    | _ => cases h
  | listBetween item min max ih =>
    cases v with
    | list vs =>
      obtain ⟨_, hlength, hitems⟩ := except_bind_eq_ok.mp h
      obtain ⟨hmin, hmax⟩ := checkLength_eq_ok.mp hlength
      exact .listBetween hmin hmax fun v hv => ih (checkItems_eq_ok.mp hitems v hv)
    | _ => cases h
  | map item ih =>
    cases v with
    | map entries => exact .map fun m hm => ih (checkEntries_eq_ok.mp h m hm)
    | _ => cases h

/-- **The check accepts just the values of the type.** -/
theorem check_eq_ok {t : AttributeType} {v : Value} : t.check v = .ok () ↔ t.Conforms v := by
  refine ⟨conforms_of_check, fun h => ?_⟩
  induction h with
  | text s => rfl
  | int n => rfl
  | bool b => rfl
  | oneOf hs => exact check_oneOf.mpr ⟨_, rfl, hs⟩
  | textBetween hmin hmax => exact check_textBetween.mpr ⟨_, rfl, hmin, hmax⟩
  | intBetween hmin hmax =>
    rw [check, if_neg (not_or.mpr ⟨Int64.not_lt.mpr hmin, Int64.not_lt.mpr hmax⟩)]
  | cidr hs =>
    rw [check, Format.check, Cidr.check_eq_ok.mpr hs]
    rfl
  | @privileges ps hne hps =>
    cases ps with
    | nil => exact absurd rfl hne
    | cons p ps =>
      exact except_mapError_eq_ok.mpr ((checkPrivileges_texts (p :: ps)).mpr hps)
  | list _ ih => exact checkItems_eq_ok.mpr ih
  | listBetween hmin hmax _ ih =>
    exact except_bind_eq_ok.mpr ⟨(), checkLength_eq_ok.mpr ⟨hmin, hmax⟩, checkItems_eq_ok.mpr ih⟩
  | map _ ih => exact checkEntries_eq_ok.mpr ih

end AttributeType

/-! ## Attributes of a schema -/

namespace Schema

variable {schema : Schema} {attributes : Attributes}

/-- **The attributes that a schema allows**: every required one without a default is given, and
every declared one that is given is of its type. -/
structure Admits (schema : Schema) (attributes : Attributes) : Prop where
  given : ∀ key a, (key, a) ∈ schema.attributes → a.required = true → a.default = none →
    key ∈ attributes.keys
  conforming : ∀ key a v, (key, a) ∈ schema.attributes → (key, v) ∈ attributes → a.type.Conforms v

/-- What is wrong with attributes: one is missing, or one is not of its type. -/
inductive Violates (schema : Schema) (attributes : Attributes) : TypeError → Prop
  | missing {key : String} {a : Attribute} : (key, a) ∈ schema.attributes → a.required = true →
      a.default = none → key ∉ attributes.keys → Violates schema attributes (.missing key)
  | nonconforming {key : String} {a : Attribute} {v : Value} {e : TypeError} :
      (key, a) ∈ schema.attributes → (key, v) ∈ attributes → a.type.check v = .error e →
        Violates schema attributes (.attribute key e)

theorem mem_missing {e : TypeError} : e ∈ schema.missing attributes ↔
    ∃ key a, (key, a) ∈ schema.attributes ∧ a.required = true ∧ a.default = none ∧
      key ∉ attributes.keys ∧ e = .missing key := by
  rw [missing, List.mem_filterMap]
  constructor
  · rintro ⟨⟨key, a⟩, ha, he⟩
    obtain ⟨⟨hrequired, hkey, hdefault⟩, he⟩ := Option.ite_none_right_eq_some.mp he
    exact ⟨key, a, ha, hrequired, Option.isNone_iff_eq_none.mp hdefault,
      Fields.get?_eq_none_iff.mp (Option.isNone_iff_eq_none.mp hkey), (Option.some.inj he).symm⟩
  · rintro ⟨key, a, ha, hrequired, hdefault, hkey, rfl⟩
    refine ⟨(key, a), ha, if_pos ⟨hrequired, ?_, ?_⟩⟩
    · exact Option.isNone_iff_eq_none.mpr (Fields.get?_eq_none_iff.mpr hkey)
    · exact Option.isNone_iff_eq_none.mpr hdefault

theorem eq_attribute_of_fault {key : String} {v : Value} {e : TypeError}
    (h : (match schema.attributes.get? key with
      | none => none
      | some a =>
        match a.type.check v with
        | .ok () => none
        | .error e => some (TypeError.attribute key e)) = some e) :
    ∃ a inner, schema.attributes.get? key = some a ∧ a.type.check v = .error inner ∧
      e = .attribute key inner := by
  split at h
  · cases h
  · split at h
    · cases h
    · exact ⟨_, _, by assumption, by assumption, (Option.some.inj h).symm⟩

theorem mem_nonconforming (h : schema.attributes.keys.Nodup) {e : TypeError} :
    e ∈ schema.nonconforming attributes ↔
      ∃ key a v inner, (key, a) ∈ schema.attributes ∧ (key, v) ∈ attributes ∧
        a.type.check v = .error inner ∧ e = .attribute key inner := by
  rw [nonconforming, List.mem_filterMap]
  constructor
  · rintro ⟨⟨key, v⟩, hv, he⟩
    obtain ⟨a, inner, ha, hinner, rfl⟩ := eq_attribute_of_fault he
    exact ⟨key, a, v, inner, Fields.mem_of_get? ha, hv, hinner, rfl⟩
  · rintro ⟨key, a, v, inner, ha, hv, hinner, rfl⟩
    refine ⟨(key, v), hv, ?_⟩
    dsimp only
    rw [Fields.get?_of_mem h ha]
    dsimp only
    rw [hinner]

/-- **The violations are what is wrong.** -/
theorem mem_violations (h : schema.attributes.keys.Nodup) {e : TypeError} :
    e ∈ schema.violations attributes ↔ schema.Violates attributes e := by
  rw [violations, List.mem_mergeSort, List.mem_append, mem_missing, mem_nonconforming h]
  constructor
  · rintro (⟨key, a, ha, hrequired, hdefault, hkey, rfl⟩ | ⟨key, a, v, inner, ha, hv, hc, rfl⟩)
    · exact .missing ha hrequired hdefault hkey
    · exact .nonconforming ha hv hc
  · rintro (⟨ha, hrequired, hdefault, hkey⟩ | ⟨ha, hv, hc⟩)
    · exact .inl ⟨_, _, ha, hrequired, hdefault, hkey, rfl⟩
    · exact .inr ⟨_, _, _, _, ha, hv, hc, rfl⟩

/-- **Nothing is wrong with attributes** just if the schema allows them. -/
theorem violations_eq_nil_iff_admits (h : schema.attributes.keys.Nodup) :
    schema.violations attributes = [] ↔ schema.Admits attributes := by
  simp only [List.eq_nil_iff_forall_not_mem, mem_violations h]
  constructor
  · intro hnone
    refine ⟨fun key a ha hrequired hdefault => ?_, fun key a v ha hv => ?_⟩
    · by_contra hkey
      exact hnone _ (.missing ha hrequired hdefault hkey)
    · cases hc : a.type.check v with
      | ok _ => exact AttributeType.check_eq_ok.mp hc
      | error e => exact absurd (.nonconforming ha hv hc) (hnone _)
  · rintro hadmits e (⟨ha, hrequired, hdefault, hkey⟩ | ⟨ha, hv, hc⟩)
    · exact hkey (hadmits.given _ _ ha hrequired hdefault)
    · cases hc.symm.trans (AttributeType.check_eq_ok.mpr (hadmits.conforming _ _ _ ha hv))

/-! ## How violations are told -/

theorem violations_sorted (schema : Schema) (attributes : Attributes) :
    ((schema.violations attributes).map TypeError.message).Pairwise (· ≤ ·) := by
  rw [List.pairwise_map]
  refine (List.pairwise_mergeSort (fun e f g hef hfg => ?_) (fun e f => ?_) _).imp ?_
  · exact decide_eq_true (String.le_trans (of_decide_eq_true hef) (of_decide_eq_true hfg))
  · rw [Bool.or_eq_true, decide_eq_true_iff, decide_eq_true_iff]
    exact String.le_total _ _
  · exact of_decide_eq_true

theorem violations_nodup (h : schema.attributes.keys.Nodup) (ha : attributes.keys.Nodup) :
    (schema.violations attributes).Nodup := by
  rw [violations, (List.mergeSort_perm _ _).nodup_iff, List.nodup_append']
  refine ⟨?_, ?_, fun e hmissing hnonconforming => ?_⟩
  · refine Fields.nodup_filterMap h fun p q e hp hq => ?_
    obtain ⟨-, hp⟩ := Option.ite_none_right_eq_some.mp hp
    obtain ⟨-, hq⟩ := Option.ite_none_right_eq_some.mp hq
    exact TypeError.missing.inj (Option.some.inj (hp.trans hq.symm))
  · refine Fields.nodup_filterMap ha fun p q e hp hq => ?_
    obtain ⟨_, _, -, -, rfl⟩ := eq_attribute_of_fault hp
    obtain ⟨_, _, -, -, heq⟩ := eq_attribute_of_fault hq
    exact (TypeError.attribute.inj heq).1
  · obtain ⟨_, _, _, _, _, _, rfl⟩ := mem_missing.mp hmissing
    obtain ⟨_, _, _, _, _, _, _, he⟩ := (mem_nonconforming h).mp hnonconforming
    cases he

theorem keys_fill_nodup (h : attributes.keys.Nodup) (f : Attribute → Option Value) :
    (schema.fill f attributes).keys.Nodup := by
  rw [fill]
  generalize schema.attributes = declared
  induction declared generalizing attributes with
  | nil => exact h
  | cons d rest ih =>
    obtain ⟨name, a⟩ := d
    rw [List.foldl_cons]
    refine ih ?_
    dsimp only
    split_ifs with hgiven
    · exact h
    · cases f a with
      | none => exact h
      | some v =>
        rw [Option.not_isSome_iff_eq_none, Fields.get?_eq_none_iff] at hgiven
        exact (Fields.keys_insert_perm hgiven v).nodup_iff.mpr (List.nodup_cons.mpr ⟨hgiven, h⟩)

/-- **Whether a text lists what is wrong** with attributes and the defaults: a message for each
violation, sorted, with semicolons between them. -/
def Lists (schema : Schema) (given : Attributes) (text : String) : Prop :=
  ∃ es : List TypeError,
    (∀ e, e ∈ es ↔ schema.Violates (schema.withDefaults given) e) ∧
    (given.keys.Nodup → es.Nodup) ∧
    (es.map TypeError.message).Pairwise (· ≤ ·) ∧
    text = "; ".intercalate (es.map TypeError.message)

theorem lists_violations (h : schema.attributes.keys.Nodup) (given : Attributes) :
    schema.Lists given ("; ".intercalate
      ((schema.violations (schema.withDefaults given)).map TypeError.message)) :=
  ⟨_, fun _ => mem_violations h, fun hgiven => violations_nodup h (keys_fill_nodup hgiven _),
    violations_sorted schema _, rfl⟩

end Schema

namespace Provider

variable {schema : Schema} {r : Resource}

/-- **A resource that is not allowed is not prepared.** -/
theorem prepare_eq_error (h : schema.attributes.keys.Nodup) {e : Error}
    (he : prepare schema r = .error e) :
    ¬ schema.Admits (schema.withDefaults r.attributes) ∧
      ∃ text, e = .invalid text ∧ schema.Lists r.attributes text := by
  refine ⟨fun hadmits => ?_, ?_⟩
  · have hok := prepare_eq_ok.mpr ⟨(Schema.violations_eq_nil_iff_admits h).mpr hadmits, rfl⟩
    cases hok.symm.trans he
  · have hlists := Schema.lists_violations h r.attributes
    rw [prepare] at he
    dsimp only at he
    split at he
    · cases he
    · exact ⟨_, (Except.error.inj he).symm, hlists⟩

end Provider

end CloudProvider
