import CloudProvider.Proofs.Exec
import CloudProvider.Provider
import Mathlib.Data.List.Induction

/-!
# Attributes and their schema

* **`Schema.get?_fill`**: what attributes have once those that are not given are filled in.
* `Schema.conforms`, `Schema.isSome_of_required`: what no violation means for one attribute.
* `Schema.replacements_eq_nil`: when nothing needs a new resource.
* `Provider.carryOver_eq_self`: nothing is carried over when every attribute is read back.
* `Provider.exec_logFailure`: to log what happens changes nothing about it.
-/

namespace CloudProvider

namespace Fields

variable {α : Type}

theorem mem_of_get? {fs : Fields α} {key : String} {a : α} (h : fs.get? key = some a) :
    (key, a) ∈ fs := by
  induction fs with
  | nil => cases h
  | cons f rest ih =>
    obtain ⟨k, b⟩ := f
    rw [get?_cons] at h
    by_cases hk : key = k
    · rw [if_pos hk] at h
      obtain rfl := Option.some.inj h
      exact hk ▸ List.mem_cons_self
    · rw [if_neg hk] at h
      exact List.mem_cons_of_mem _ (ih h)

theorem get?_of_mem {fs : Fields α} (h : fs.keys.Nodup) {key : String} {a : α}
    (ha : (key, a) ∈ fs) : fs.get? key = some a := by
  induction fs with
  | nil => exact absurd ha List.not_mem_nil
  | cons f rest ih =>
    obtain ⟨k, b⟩ := f
    obtain ⟨hk, hrest⟩ := List.nodup_cons.mp h
    rw [get?_cons]
    rcases List.mem_cons.mp ha with heq | hmem
    · obtain ⟨rfl, rfl⟩ := Prod.mk.inj heq
      exact if_pos rfl
    · have hkey : key ∈ Fields.keys rest := List.mem_map_of_mem (f := Prod.fst) hmem
      have hne : key ≠ k := fun heq => hk (heq ▸ hkey)
      rw [if_neg hne, ih hrest hmem]

theorem get?_ofList_of_mem {pairs : List (String × α)} (h : (pairs.map Prod.fst).Nodup)
    {key : String} {a : α} (ha : (key, a) ∈ pairs) : (ofList pairs).get? key = some a := by
  induction pairs using List.reverseRecOn with
  | nil => exact absurd ha List.not_mem_nil
  | append_singleton pairs p ih =>
    obtain ⟨k, b⟩ := p
    rw [List.map_append, List.nodup_append] at h
    obtain ⟨hpairs, -, hnew⟩ := h
    rw [ofList_append, get?_insert]
    rcases List.mem_append.mp ha with hmem | hmem
    · have hkey : key ∈ pairs.map Prod.fst := List.mem_map_of_mem hmem
      rw [if_neg (hnew key hkey k (List.mem_singleton_self k)), ih hpairs hmem]
    · obtain ⟨rfl, rfl⟩ := Prod.mk.inj (List.mem_singleton.mp hmem)
      exact if_pos rfl

theorem get?_eq_none {fs : Fields α} {key : String} (h : key ∉ fs.keys) : fs.get? key = none := by
  cases hget : fs.get? key with
  | none => rfl
  | some a => exact absurd (List.mem_map_of_mem (f := Prod.fst) (mem_of_get? hget)) h

end Fields

/-! ## Values that conform to a type -/

theorem Value.texts?_texts (items : List String) : (Value.texts items).texts? = some items := by
  simp [texts, texts?, List.filterMap_map, Function.comp_def, text?]

namespace Resource

variable {r : Resource} {key : String}

theorem text?_of_get? {s : String} (h : r.attributes.get? key = some (.text s)) (hs : s ≠ "") :
    r.text? key = some s := by
  rw [text?, h]
  simp [Value.text?, hs]

theorem required_of_text? {s : String} (h : r.text? key = some s) : r.required key = .ok s := by
  rw [required, h]

theorem texts?_of_get? {items : List String} (h : r.attributes.get? key = some (.texts items)) :
    r.texts? key = some items := by
  rw [texts?, h, Option.bind_some, Value.texts?_texts]

end Resource

namespace AttributeType

theorem checkLength_eq_ok {what : String} {length : Nat} {min max : UInt64} :
    checkLength what length min max = .ok () ↔ min.toNat ≤ length ∧ length ≤ max.toNat := by
  rw [checkLength]
  by_cases h : length < min.toNat ∨ max.toNat < length
  · rw [if_pos h]
    constructor
    · intro hok
      cases hok
    · omega
  · rw [if_neg h]
    exact ⟨fun _ => by omega, fun _ => rfl⟩

theorem checkItems_eq_ok {check : Value → Except TypeError Unit} {index : Nat} {vs : List Value} :
    checkItems check index vs = .ok () ↔ ∀ v ∈ vs, check v = .ok () := by
  induction vs generalizing index with
  | nil => simp [checkItems]
  | cons v vs ih =>
    rw [List.forall_mem_cons, ← @ih (index + 1), checkItems]
    cases check v with
    | error e => simp [Except.mapError, bind, Except.bind]
    | ok a => simp [Except.mapError, bind, Except.bind]

theorem check_textBetween {min max : UInt64} {v : Value} :
    (textBetween min max).check v = .ok () ↔
      ∃ s, v = .text s ∧ min.toNat ≤ s.length ∧ s.length ≤ max.toNat := by
  cases v <;> simp [check, checkLength_eq_ok]

theorem check_bool {v : Value} : bool.check v = .ok () ↔ ∃ b, v = .bool b := by
  cases v <;> simp [check]

theorem check_intBetween {min max : Int64} {v : Value} (h : (intBetween min max).check v = .ok ()) :
    ∃ n, v = .int n := by
  cases v with
  | int n => exact ⟨n, rfl⟩
  | text s => cases h
  | bool b => cases h
  | list items => cases h
  | map entries => cases h

theorem check_oneOf {variants : List String} {v : Value} :
    (oneOf variants).check v = .ok () ↔ ∃ s, v = .text s ∧ s ∈ variants := by
  cases v <;> simp [check]

theorem check_privileges {v : Value} (h : (format .privileges).check v = .ok ()) :
    ∃ items, v = Value.texts items := by
  cases v with
  | list vs =>
    have hitems : Format.checkPrivileges vs = .ok () := by
      cases vs with
      | nil => cases h
      | cons v vs =>
        cases hc : Format.checkPrivileges (v :: vs) with
        | ok a => rfl
        | error e =>
          rw [check, Format.check, hc] at h
          · cases h
          · exact List.cons_ne_nil v vs
    clear h
    induction vs with
    | nil => exact ⟨[], rfl⟩
    | cons v vs ih =>
      cases v with
      | text p =>
        rw [Format.checkPrivileges] at hitems
        split_ifs at hitems
        obtain ⟨items, hvs⟩ := ih hitems
        exact ⟨p :: items, by rw [Value.list.inj hvs]; rfl⟩
      | int n => cases hitems
      | bool b => cases hitems
      | list items => cases hitems
      | map entries => cases hitems
  | text s => cases h
  | int n => cases h
  | bool b => cases h
  | map entries => cases h

theorem check_listBetween_text {min max : UInt64} {v : Value} :
    (listBetween text min max).check v = .ok () ↔
      ∃ items, v = Value.texts items ∧ min.toNat ≤ items.length ∧ items.length ≤ max.toNat := by
  cases v with
  | text s => simp [check, Value.texts]
  | int n => simp [check, Value.texts]
  | bool b => simp [check, Value.texts]
  | list vs =>
    have hitems : checkItems text.check 0 vs = .ok () ↔
        ∃ items : List String, vs = items.map .text := by
      rw [checkItems_eq_ok]
      simp only [check_text]
      constructor
      · intro h
        induction vs with
        | nil => exact ⟨[], rfl⟩
        | cons v vs ih =>
          obtain ⟨s, rfl⟩ := h v List.mem_cons_self
          obtain ⟨items, rfl⟩ := ih fun v hv => h v (List.mem_cons_of_mem _ hv)
          exact ⟨s :: items, rfl⟩
      · rintro ⟨items, rfl⟩ v hv
        obtain ⟨s, -, rfl⟩ := List.mem_map.mp hv
        exact ⟨s, rfl⟩
    rw [check]
    constructor
    · intro h
      obtain ⟨_, hlength, h⟩ := except_bind_eq_ok.mp h
      obtain ⟨items, rfl⟩ := hitems.mp h
      rw [checkLength_eq_ok, List.length_map] at hlength
      exact ⟨items, rfl, hlength⟩
    · rintro ⟨items, hv, hlength⟩
      obtain rfl := Value.list.inj hv
      refine except_bind_eq_ok.mpr ⟨(), checkLength_eq_ok.mpr ?_, hitems.mpr ⟨items, rfl⟩⟩
      rwa [List.length_map]
  | map entries => simp [check, Value.texts]

theorem check_cidr {v : Value} (h : (format .cidr).check v = .ok ()) :
    ∃ s, v = .text s ∧ s ≠ "" := by
  cases v with
  | text s =>
    refine ⟨s, rfl, fun hs => ?_⟩
    rw [hs] at h
    cases h
  | int n => cases h
  | bool b => cases h
  | list items => cases h
  | map entries => cases h

end AttributeType

/-! ## Attributes that conform to a schema -/

theorem LifecycleKind.schema_nodup (kind : LifecycleKind) :
    kind.schema.attributes.keys.Nodup := by
  cases kind <;> decide +kernel

namespace Schema

variable {schema : Schema} {attributes : Attributes} {key : String} {a : Attribute}

theorem get?_ofAttributes {type : String} {description : Option String}
    {declared : List Attribute} (h : (declared.map Attribute.name).Nodup) (ha : a ∈ declared) :
    (ofAttributes type description declared).attributes.get? a.name = some a := by
  refine Fields.get?_ofList_of_mem ?_ (List.mem_map_of_mem ha)
  rwa [List.map_map]

/-- Declarations filled in one after the other. -/
theorem get?_fillFrom (f : Attribute → Option Value) {declared : Fields Attribute}
    (h : declared.keys.Nodup) (attributes : Attributes) (key : String) :
    Fields.get? (declared.foldl (fun (given : Attributes) (name, a) =>
      if (given.get? name).isSome then given
      else match f a with
        | some v => given.insert name v
        | none => given) attributes) key =
      (attributes.get? key).or ((declared.get? key).bind f) := by
  induction declared generalizing attributes with
  | nil => simp
  | cons d rest ih =>
    obtain ⟨name, a⟩ := d
    obtain ⟨hname, hrest⟩ := List.nodup_cons.mp h
    rw [List.foldl_cons, ih hrest, Fields.get?_cons]
    by_cases hkey : key = name
    · subst hkey
      have hnone : Fields.get? rest key = none := Fields.get?_eq_none hname
      cases hgiven : attributes.get? key with
      | some v => simp [hgiven]
      | none => cases hf : f a <;> simp [hgiven, hnone, hf]
    · rw [if_neg hkey]
      cases hgiven : attributes.get? name with
      | some v => simp [hgiven]
      | none => cases hf : f a <;> simp [hgiven, hf, hkey]

/-- **What attributes have once the others are filled in.** -/
theorem get?_fill (h : schema.attributes.keys.Nodup) (f : Attribute → Option Value)
    (attributes : Attributes) (key : String) :
    (schema.fill f attributes).get? key =
      (attributes.get? key).or ((schema.attributes.get? key).bind f) :=
  get?_fillFrom f h attributes key

theorem violations_eq_nil :
    schema.violations attributes = [] ↔
      schema.missing attributes = [] ∧ schema.nonconforming attributes = [] := by
  rw [violations, ← List.length_eq_zero_iff, List.length_mergeSort, List.length_eq_zero_iff,
    List.append_eq_nil_iff]

/-- **A declared attribute conforms to its type**, if nothing is wrong. -/
theorem conforms (h : schema.violations attributes = []) {v : Value}
    (ha : schema.attributes.get? key = some a) (hv : attributes.get? key = some v) :
    a.type.check v = .ok () := by
  have hnone := List.filterMap_eq_nil_iff.mp (violations_eq_nil.mp h).2 (key, v)
    (Fields.mem_of_get? hv)
  dsimp only at hnone
  rw [ha] at hnone
  dsimp only at hnone
  split at hnone
  · assumption
  · cases hnone

/-- **A required attribute without a default is given.** -/
theorem isSome_of_required (h : schema.violations attributes = [])
    (ha : schema.attributes.get? key = some a) (hrequired : a.required = true)
    (hdefault : a.default = none) : (attributes.get? key).isSome = true := by
  have hnone := List.filterMap_eq_nil_iff.mp (violations_eq_nil.mp h).1 (key, a)
    (Fields.mem_of_get? ha)
  cases hv : attributes.get? key with
  | some v => rfl
  | none => simp [hrequired, hdefault, hv] at hnone

/-- **Nothing needs a new resource** if nothing differs that cannot be changed. -/
theorem replacements_eq_nil {current desired : Attributes} :
    schema.replacements current desired = [] ↔
      ∀ d ∈ schema.attributes, d.2.forceNew = true →
        ∀ v, desired.get? d.1 = some v → current.get? d.1 = some v := by
  rw [replacements, List.filterMap_eq_nil_iff]
  refine forall_congr' fun ⟨name, a⟩ => imp_congr_right fun _ => ?_
  dsimp only
  cases hv : desired.get? name with
  | none => simp
  | some v =>
    by_cases hsame : current.get? name = some v
    · simp [hsame]
    · simp [hsame]

end Schema

theorem LifecycleKind.get?_withDefaults {kind : LifecycleKind} {key : String} {a : Attribute}
    (ha : (key, a) ∈ kind.schema.attributes) (hdefault : a.default.isNone = true)
    (attributes : Attributes) :
    (kind.schema.withDefaults attributes).get? key = attributes.get? key := by
  rw [Schema.withDefaults, Schema.get?_fill kind.schema_nodup,
    Fields.get?_of_mem kind.schema_nodup ha, Option.bind_some,
    Option.isNone_iff_eq_none.mp hdefault, Option.or_none]

namespace Provider

variable {schema : Schema} {r : Resource}

/-! ## Checks -/

theorem lifecycleKind_eq_ok {id : ResourceId} {kind : LifecycleKind} :
    lifecycleKind id = .ok kind ↔ LifecycleKind.ofName? id.type = some kind := by
  rw [lifecycleKind]
  cases LifecycleKind.ofName? id.type <;> simp

theorem prepare_eq_ok {prepared : Resource} :
    prepare schema r = .ok prepared ↔
      schema.violations (schema.withDefaults r.attributes) = [] ∧
        prepared = { r with attributes := schema.withDefaults r.attributes } := by
  rw [prepare]
  dsimp only
  cases schema.violations (schema.withDefaults r.attributes) with
  | nil => simp [eq_comm]
  | cons e rest => simp

theorem prepareFor_eq {lifecycle : Lifecycle} (h : ∀ r, lifecycle.check r = .ok ()) :
    prepareFor schema lifecycle r = prepare schema r := by
  rw [prepareFor]
  cases prepare schema r with
  | error e => rfl
  | ok prepared =>
    simp only [bind, Except.bind, h]
    rfl

theorem checkReplacements_eq_ok {current : State} :
    checkReplacements schema current r = .ok () ↔
      schema.replacements current.attributes r.attributes = [] := by
  rw [checkReplacements]
  cases schema.replacements current.attributes r.attributes <;> simp

/-! ## Attributes right after a change -/

theorem carryOver_eq_self (h : ∀ d ∈ schema.attributes, d.2.writeOnly = false)
    (attributes : Attributes) : carryOver schema r attributes = attributes := by
  rw [carryOver]
  generalize schema.attributes = declared at h
  induction declared with
  | nil => rfl
  | cons d rest ih =>
    obtain ⟨name, a⟩ := d
    have ha : a.writeOnly = false := h (name, a) List.mem_cons_self
    simp only [List.foldl_cons, ha, Bool.false_eq_true, if_false]
    exact ih fun d hd => h d (List.mem_cons_of_mem _ hd)

/-! ## What is logged -/

section Logged

open Operation

variable {σ : Type} {remote : Dialogue.Remote σ Call Reply} {s : σ}

@[simp]
theorem exec_event {level : Level} {message : String} {id : ResourceId}
    {more : List (String × String)} :
    exec remote s (event level message id more) = (.ok (), s) := rfl

theorem exec_logFailure {α : Type} {message : String} {id : ResourceId} {op : Api α} :
    exec remote s (logFailure message id op) = exec remote s op := by
  rw [logFailure, exec_bind_ok exec_outcome]
  obtain ⟨outcome, s'⟩ := exec remote s op
  cases outcome with
  | ok a => rfl
  | error e => rfl

end Logged

end Provider

end CloudProvider
