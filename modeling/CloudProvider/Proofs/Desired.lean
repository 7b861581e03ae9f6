import CloudProvider.Proofs.Attributes

/-!
# What an update is to change

An update is to bring about the attributes that can be changed in place and whose desired value
differs from the current one.

* `LifecycleKind.Changed`: whether an attribute is to change.
* `LifecycleKind.mutable`: the attributes that can be changed in place, with their types.
* **`changed_iff`**: what is to change, by those attributes.
* `exists_of_mutable`, `exists_text`, …: the desired values that prepared attributes have.
-/

namespace CloudProvider

/-! ## What is to change -/

/-- Whether a value stands for none. -/
def Value.isEmpty : Value → Bool
  | .text s => s = ""
  | .list items => items.isEmpty
  | .map entries => entries.isEmpty
  | .int _ | .bool _ => false

namespace LifecycleKind

/-- The attributes that can be changed in place, and that the remote fills in where none are
desired. -/
def filledIn : LifecycleKind → List String
  | .vpc => ["dns_servers"]
  | .subnet => ["route_table_id"]
  | _ => []

/-- **Whether an attribute is to change**: it can be changed in place, it is not left to the remote,
and the desired value is not the current one. -/
def Changed (kind : LifecycleKind) (current : State) (desired : Attributes) (key : String) : Prop :=
  (∃ a, (key, a) ∈ kind.schema.attributes ∧ a.forceNew = false ∧
    (a.computed = true →
      key ∈ kind.filledIn ∧ ∃ v, desired.get? key = some v ∧ v.isEmpty = false)) ∧
  desired.get? key ≠ current.get? key

/-- The attributes that can be changed in place, with their types. -/
def mutable : LifecycleKind → List (String × AttributeType)
  | .vpc => [("name", Catalog.nameType), ("is_multicast", .bool),
      ("dns_servers", .listBetween .text 1 4)]
  | .subnet => [("name", Catalog.nameType), ("is_multicast", .bool), ("route_table_id", .text)]
  | .routeTable => [("name", Catalog.nameType)]
  | .routeEntry => []
  | .account => [("password", .textBetween 8 64), ("description", .textBetween 1 200)]
  | .privilege => [("privileges", .format .privileges)]
  | .backupPolicy => [("retention_period", .intBetween 7 732),
      ("backup_model", .oneOf Catalog.backupMethods), ("backup_time", .oneOf Catalog.backupWindows)]

theorem mem_mutable (kind : LifecycleKind) : ∀ d ∈ kind.schema.attributes, d.2.forceNew = false →
    (d.2.computed = true → d.1 ∈ kind.filledIn) → (d.1, d.2.type) ∈ kind.mutable := by
  cases kind <;> decide +kernel

/-- What can be changed in place is declared so. -/
theorem exists_of_mem_mutable (kind : LifecycleKind) : ∀ m ∈ kind.mutable,
    ∃ d ∈ kind.schema.attributes, d.1 = m.1 ∧ d.2.type = m.2 ∧ d.2.forceNew = false ∧
      (d.2.computed = true → m.1 ∈ kind.filledIn) ∧
      (m.1 ∉ kind.filledIn → d.2.required = true ∨ d.2.default.isSome = true) := by
  cases kind <;> decide +kernel

theorem computed_of_mem_filledIn (kind : LifecycleKind) : ∀ d ∈ kind.schema.attributes,
    d.1 ∈ kind.filledIn → d.2.computed = true := by
  cases kind <;> decide +kernel

end LifecycleKind

/-! ## What is desired -/

section Desired

variable {kind : LifecycleKind} {current : State} {desired r : Resource} {key : String}
  {type : AttributeType} {v : Value}

theorem conforms_of_mutable (hr : Provider.prepare kind.schema desired = .ok r)
    (hm : (key, type) ∈ kind.mutable) (hv : r.attributes.get? key = some v) :
    type.check v = .ok () := by
  obtain ⟨hnone, rfl⟩ := Provider.prepare_eq_ok.mp hr
  obtain ⟨⟨name, a⟩, ha, hname, rfl, -⟩ := kind.exists_of_mem_mutable _ hm
  obtain rfl : key = name := hname.symm
  exact Schema.conforms hnone (Fields.get?_of_mem kind.schema_nodup ha) hv

theorem exists_of_mutable (hr : Provider.prepare kind.schema desired = .ok r)
    (hm : (key, type) ∈ kind.mutable) (hkey : key ∉ kind.filledIn) :
    ∃ v, r.attributes.get? key = some v ∧ type.check v = .ok () := by
  have hgiven : (r.attributes.get? key).isSome = true := by
    obtain ⟨hnone, rfl⟩ := Provider.prepare_eq_ok.mp hr
    obtain ⟨⟨name, a⟩, ha, hname, -, -, -, hneeded⟩ := kind.exists_of_mem_mutable _ hm
    obtain rfl : key = name := hname.symm
    have ha := Fields.get?_of_mem kind.schema_nodup ha
    cases hdefault : a.default with
    | none =>
      have hrequired : a.required = true := (hneeded hkey).resolve_right (by simp [hdefault])
      exact Schema.isSome_of_required hnone ha hrequired hdefault
    | some v =>
      dsimp only
      rw [Schema.withDefaults, Schema.get?_fill kind.schema_nodup, ha, Option.bind_some, hdefault,
        Option.isSome_or, Option.isSome_some, Bool.or_true]
  obtain ⟨v, hv⟩ := Option.isSome_iff_exists.mp hgiven
  exact ⟨v, hv, conforms_of_mutable hr hm hv⟩

/-- **What is to change** is what has another desired value. -/
theorem changed_iff (hr : Provider.prepare kind.schema desired = .ok r) :
    kind.Changed current r.attributes key ↔ ∃ type v, (key, type) ∈ kind.mutable ∧
      r.attributes.get? key = some v ∧ (key ∈ kind.filledIn → v.isEmpty = false) ∧
      current.get? key ≠ some v := by
  constructor
  · rintro ⟨⟨a, ha, hforce, hgiven⟩, hne⟩
    have hm := kind.mem_mutable _ ha hforce fun hc => (hgiven hc).1
    by_cases hkey : key ∈ kind.filledIn
    · obtain ⟨-, v, hv, hempty⟩ := hgiven (kind.computed_of_mem_filledIn _ ha hkey)
      exact ⟨a.type, v, hm, hv, fun _ => hempty, fun h => hne (hv.trans h.symm)⟩
    · obtain ⟨v, hv, -⟩ := exists_of_mutable hr hm hkey
      exact ⟨a.type, v, hm, hv, fun h => absurd h hkey, fun h => hne (hv.trans h.symm)⟩
  · rintro ⟨type, v, hm, hv, hempty, hne⟩
    obtain ⟨⟨name, a⟩, ha, hname, -, hforce, hfilled, -⟩ := kind.exists_of_mem_mutable _ hm
    obtain rfl : key = name := hname.symm
    refine ⟨⟨a, ha, hforce, fun hc => ⟨hfilled hc, v, hv, hempty (hfilled hc)⟩⟩, ?_⟩
    exact fun h => hne (h.symm.trans hv)

theorem changed_iff_of_get? (hr : Provider.prepare kind.schema desired = .ok r)
    (hm : (key, type) ∈ kind.mutable) (hv : r.attributes.get? key = some v) :
    kind.Changed current r.attributes key ↔
      (key ∈ kind.filledIn → v.isEmpty = false) ∧ current.get? key ≠ some v := by
  rw [changed_iff hr]
  constructor
  · rintro ⟨_, v', -, hv', h⟩
    obtain rfl := Option.some.inj (hv.symm.trans hv')
    exact h
  · exact fun h => ⟨type, v, hm, hv, h⟩

/-! ## Desired values by type -/

theorem exists_text {min max : UInt64} (hr : Provider.prepare kind.schema desired = .ok r)
    (hm : (key, .textBetween min max) ∈ kind.mutable) (hkey : key ∉ kind.filledIn)
    (hmin : min ≠ 0) :
    ∃ s, r.attributes.get? key = some (.text s) ∧ r.text? key = some s := by
  obtain ⟨v, hv, hc⟩ := exists_of_mutable hr hm hkey
  obtain ⟨s, rfl, hlength, -⟩ := AttributeType.check_textBetween.mp hc
  have hs : s ≠ "" := by
    rintro rfl
    exact hmin (UInt64.toNat.inj (Nat.le_zero.mp hlength))
  exact ⟨s, hv, Resource.text?_of_get? hv hs⟩

theorem exists_variant {variants : List String}
    (hr : Provider.prepare kind.schema desired = .ok r)
    (hm : (key, .oneOf variants) ∈ kind.mutable) (hkey : key ∉ kind.filledIn)
    (hvariants : "" ∉ variants) :
    ∃ s, r.attributes.get? key = some (.text s) ∧ r.text? key = some s := by
  obtain ⟨v, hv, hc⟩ := exists_of_mutable hr hm hkey
  obtain ⟨s, rfl, hs⟩ := AttributeType.check_oneOf.mp hc
  exact ⟨s, hv, Resource.text?_of_get? hv fun h => hvariants (h ▸ hs)⟩

theorem exists_bool (hr : Provider.prepare kind.schema desired = .ok r)
    (hm : (key, .bool) ∈ kind.mutable) (hkey : key ∉ kind.filledIn) :
    ∃ b, r.attributes.get? key = some (.bool b) ∧ ∀ fallback, r.boolOr key fallback = b := by
  obtain ⟨v, hv, hc⟩ := exists_of_mutable hr hm hkey
  obtain ⟨b, rfl⟩ := AttributeType.check_bool.mp hc
  exact ⟨b, hv, fun fallback => by rw [Resource.boolOr, Resource.bool?, hv]; rfl⟩

theorem exists_int {min max : Int64} (hr : Provider.prepare kind.schema desired = .ok r)
    (hm : (key, .intBetween min max) ∈ kind.mutable) (hkey : key ∉ kind.filledIn) :
    ∃ n, r.attributes.get? key = some (.int n) ∧ r.int? key = some n := by
  obtain ⟨v, hv, hc⟩ := exists_of_mutable hr hm hkey
  obtain ⟨n, rfl⟩ := AttributeType.check_intBetween hc
  exact ⟨n, hv, by rw [Resource.int?, hv]; rfl⟩

end Desired

end CloudProvider
