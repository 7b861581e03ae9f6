import CloudProvider.Proofs.Conformity
import Mathlib.Data.List.Induction

/-!
# The shape of what a schema declares

A remote entity is given with a value for every attribute that can be read back, and nothing else.

* `Fields.Ascending`, `Fields.ascending_insert`: keys in order, each once.
* `Shape`, `Value.HasShape`: the kind of a value at the top, and of the items of a list.
* **`AttributeType.Conforms.hasShape`**, **`AttributeType.hasShape_zero`**: values of a type, and
  the one that stands for none, have its shape.
* `Schema.Reports`: whether attributes are some of those that can be read back.
* `Schema.IsComplete`: whether they are all of them, with what has been written.
* **`Schema.Reports.complete`**, **`Schema.IsComplete.carryOver`**: how they become so.
-/

namespace CloudProvider

/-! ## Keys in order -/

namespace Fields

variable {α : Type} {fs : Fields α} {key : String}

/-- **Whether keys are in ascending order**, so that none is there twice. -/
def Ascending (fs : Fields α) : Prop := fs.keys.Pairwise (· < ·)

theorem isSome_get?_iff : (fs.get? key).isSome = true ↔ key ∈ fs.keys := by
  rw [← not_iff_not, ← Fields.get?_eq_none_iff, Bool.not_eq_true, Option.isSome_eq_false_iff,
    Option.isNone_iff_eq_none]

theorem mem_keys_insert {k : String} {a : α} :
    k ∈ (fs.insert key a).keys ↔ k = key ∨ k ∈ fs.keys := by
  rw [← isSome_get?_iff, ← isSome_get?_iff, get?_insert]
  by_cases h : k = key
  · simp [h]
  · simp [h]

/-- **A value that is set is put in its place.** -/
theorem ascending_insert (h : fs.Ascending) (key : String) (a : α) :
    (fs.insert key a).Ascending := by
  induction fs with
  | nil => exact List.pairwise_singleton _ _
  | cons f rest ih =>
    obtain ⟨k, b⟩ := f
    obtain ⟨hk, hrest⟩ := List.pairwise_cons.mp h
    rw [insert]
    by_cases hlt : key < k
    · rw [if_pos hlt]
      refine List.pairwise_cons.mpr ⟨fun j hj => ?_, h⟩
      rcases List.mem_cons.mp hj with rfl | hj
      · exact hlt
      · exact String.lt_trans hlt (hk j hj)
    · rw [if_neg hlt]
      by_cases heq : key = k
      · rw [if_pos heq]
        exact List.pairwise_cons.mpr ⟨heq ▸ hk, hrest⟩
      · rw [if_neg heq]
        refine List.pairwise_cons.mpr ⟨fun j hj => ?_, ih hrest⟩
        rcases mem_keys_insert.mp hj with rfl | hj
        · show k < j
          by_contra hnot
          exact heq (String.le_antisymm (String.not_lt.mp hnot) (String.not_lt.mp hlt))
        · exact hk j hj

theorem ascending_foldl {β : Type} {step : Fields α → β → Fields α}
    (hstep : ∀ fs b, Ascending fs → Ascending (step fs b)) (bs : List β) (h : fs.Ascending) :
    Ascending (bs.foldl step fs) := by
  induction bs generalizing fs with
  | nil => exact h
  | cons b bs ih => exact ih (hstep fs b h)

theorem ascending_ofList (pairs : List (String × α)) : (ofList pairs).Ascending :=
  ascending_foldl (fun _ p h => ascending_insert h p.1 p.2) pairs List.Pairwise.nil

theorem mem_of_get?_ofList {pairs : List (String × α)} {a : α}
    (h : (ofList pairs).get? key = some a) : (key, a) ∈ pairs := by
  induction pairs using List.reverseRecOn with
  | nil => cases h
  | append_singleton pairs p ih =>
    obtain ⟨k, b⟩ := p
    rw [ofList_append, get?_insert] at h
    by_cases hkey : key = k
    · rw [if_pos hkey] at h
      obtain rfl := Option.some.inj h
      exact List.mem_append_right _ (List.mem_singleton.mpr (by rw [hkey]))
    · rw [if_neg hkey] at h
      exact List.mem_append_left _ (ih h)

end Fields

/-! ## Shapes of values -/

/-- The kind of a value at the top. Of a list it tells the kind of the items as well. -/
inductive Shape where
  | text
  | int
  | bool
  | list (item : Shape)
  | map
  deriving DecidableEq

/-- **The values of a shape.** -/
inductive Value.HasShape : Shape → Value → Prop
  | text (s : String) : HasShape .text (.text s)
  | int (n : Int64) : HasShape .int (.int n)
  | bool (b : Bool) : HasShape .bool (.bool b)
  | list {item : Shape} {vs : List Value} (h : ∀ v ∈ vs, HasShape item v) :
      HasShape (.list item) (.list vs)
  | map (entries : List (String × Value)) : HasShape .map (.map entries)

theorem Value.hasShape_texts (items : List String) : HasShape (.list .text) (.texts items) := by
  refine .list fun v hv => ?_
  obtain ⟨s, -, rfl⟩ := List.mem_map.mp hv
  exact .text s

namespace AttributeType

/-- The shape of the values of a type. -/
def shape : AttributeType → Shape
  | .text | .oneOf _ | .textBetween _ _ | .format .cidr => .text
  | .int | .intBetween _ _ => .int
  | .bool => .bool
  | .format .privileges => .list .text
  | .list item | .listBetween item _ _ => .list item.shape
  | .map _ => .map

/-- **A value of a type has its shape.** -/
theorem Conforms.hasShape {t : AttributeType} {v : Value} (h : t.Conforms v) :
    v.HasShape t.shape := by
  induction h with
  | text s => exact .text s
  | int n => exact .int n
  | bool b => exact .bool b
  | oneOf _ => exact .text _
  | textBetween _ _ => exact .text _
  | intBetween _ _ => exact .int _
  | cidr _ => exact .text _
  | privileges _ _ => exact Value.hasShape_texts _
  | list _ ih => exact .list ih
  | listBetween _ _ _ ih => exact .list ih
  | map _ _ => exact .map _

/-- **The value that stands for none has the shape.** -/
theorem hasShape_zero (t : AttributeType) : t.zero.HasShape t.shape := by
  cases t with
  | text | oneOf _ | textBetween _ _ => exact .text ""
  | int | intBetween _ _ => exact .int 0
  | bool => exact .bool false
  | format f =>
    cases f with
    | cidr => exact .text ""
    | privileges => exact .list nofun
  | list _ | listBetween _ _ _ => exact .list nofun
  | map _ => exact .map []

end AttributeType

/-! ## What a schema declares -/

namespace Schema

variable {schema : Schema} {attributes written : Attributes}

/-- Whether a schema declares an attribute of some shape that can be read back. -/
def declares (schema : Schema) (key : String) (shape : Shape) : Bool :=
  (schema.attributes.get? key).any fun a => !a.writeOnly && a.type.shape = shape

/-- **Whether attributes are some of those that can be read back**, each with a value of the shape
of its type. -/
structure Reports (schema : Schema) (attributes : Attributes) : Prop where
  ascending : attributes.Ascending
  declared {key : String} {v : Value} (h : attributes.get? key = some v) :
    ∃ shape, schema.declares key shape = true ∧ v.HasShape shape

/-- **Whether attributes are complete**: all those that can be read back and no others, but for
those of the others that have been written. These have the values that have been written, and each
value has the shape of its type. -/
structure IsComplete (schema : Schema) (written attributes : Attributes) : Prop where
  ascending : attributes.Ascending
  names (key : String) : key ∈ attributes.keys ↔
    ∃ a, (key, a) ∈ schema.attributes ∧ (a.writeOnly = true → key ∈ written.keys)
  kept {key : String} {a : Attribute} (ha : (key, a) ∈ schema.attributes)
    (hw : a.writeOnly = true) : attributes.get? key = written.get? key
  shapes {key : String} {a : Attribute} {v : Value} (ha : (key, a) ∈ schema.attributes)
    (hv : attributes.get? key = some v) : v.HasShape a.type.shape

theorem reports_ofList {pairs : List (String × Value)}
    (h : ∀ p ∈ pairs, ∃ shape, schema.declares p.1 shape = true ∧ p.2.HasShape shape) :
    schema.Reports (.ofList pairs) where
  ascending := Fields.ascending_ofList pairs
  declared hv := h _ (Fields.mem_of_get?_ofList hv)

theorem Reports.insert (h : schema.Reports attributes) {key : String} {v : Value} {shape : Shape}
    (hkey : schema.declares key shape = true) (hv : v.HasShape shape) :
    schema.Reports (attributes.insert key v) where
  ascending := Fields.ascending_insert h.ascending key v
  declared {k w} hw := by
    rw [Fields.get?_insert] at hw
    by_cases hk : k = key
    · rw [if_pos hk] at hw
      obtain rfl := Option.some.inj hw
      exact ⟨shape, hk ▸ hkey, hv⟩
    · rw [if_neg hk] at hw
      exact h.declared hw

/-! ### Completion -/

section Complete

variable (hnodup : schema.attributes.keys.Nodup)

include hnodup

theorem declares_iff {key : String} {a : Attribute} (ha : (key, a) ∈ schema.attributes)
    {shape : Shape} :
    schema.declares key shape = true ↔ a.writeOnly = false ∧ a.type.shape = shape := by
  rw [declares, Fields.get?_of_mem hnodup ha, Option.any_some]
  simp

theorem get?_complete (attributes : Attributes) {key : String} {a : Attribute}
    (ha : (key, a) ∈ schema.attributes) :
    (schema.complete attributes).get? key =
      (attributes.get? key).or (if a.writeOnly then none else some a.type.zero) := by
  rw [complete, get?_fill hnodup, Fields.get?_of_mem hnodup ha, Option.bind_some]

/-- **What is reported is completed** with a value for all that can be read. -/
theorem Reports.complete (h : schema.Reports attributes) :
    schema.IsComplete [] (schema.complete attributes) where
  ascending := by
    refine Fields.ascending_foldl (fun fs d hfs => ?_) schema.attributes h.ascending
    obtain ⟨name, a⟩ := d
    dsimp only
    split_ifs
    · exact hfs
    · exact hfs
    · exact Fields.ascending_insert hfs name a.type.zero
  names key := by
    rw [← Fields.isSome_get?_iff]
    constructor
    · intro hsome
      cases ha : schema.attributes.get? key with
      | none =>
        rw [Schema.complete, get?_fill hnodup, ha, Option.bind_none, Option.or_none] at hsome
        obtain ⟨v, hv⟩ := Option.isSome_iff_exists.mp hsome
        obtain ⟨shape, hdeclares, -⟩ := h.declared hv
        rw [declares, ha] at hdeclares
        cases hdeclares
      | some a =>
        have hmem := Fields.mem_of_get? ha
        refine ⟨a, hmem, fun hw => ?_⟩
        rw [get?_complete hnodup attributes hmem, if_pos hw, Option.or_none] at hsome
        obtain ⟨v, hv⟩ := Option.isSome_iff_exists.mp hsome
        obtain ⟨shape, hdeclares, -⟩ := h.declared hv
        rw [((declares_iff hnodup hmem).mp hdeclares).1] at hw
        cases hw
    · rintro ⟨a, ha, hread⟩
      have hw : a.writeOnly = false :=
        Bool.eq_false_iff.mpr fun hw => absurd (hread hw) List.not_mem_nil
      rw [get?_complete hnodup attributes ha, hw]
      cases attributes.get? key <;> rfl
  kept {key a} ha hw := by
    rw [get?_complete hnodup attributes ha, if_pos hw, Option.or_none, Fields.get?_nil]
    cases hv : attributes.get? key with
    | none => rfl
    | some v =>
      obtain ⟨shape, hdeclares, -⟩ := h.declared hv
      rw [((declares_iff hnodup ha).mp hdeclares).1] at hw
      cases hw
  shapes {key a v} ha hv := by
    rw [get?_complete hnodup attributes ha] at hv
    cases hgiven : attributes.get? key with
    | some w =>
      rw [hgiven, Option.some_or] at hv
      obtain rfl := Option.some.inj hv
      obtain ⟨shape, hdeclares, hshape⟩ := h.declared hgiven
      rw [((declares_iff hnodup ha).mp hdeclares).2]
      exact hshape
    | none =>
      rw [hgiven, Option.none_or] at hv
      split_ifs at hv
      rw [← Option.some.inj hv]
      exact a.type.hasShape_zero

theorem get?_carryOver (desired : Resource) (attributes : Attributes) (key : String) :
    (Provider.carryOver schema desired attributes).get? key =
      ((schema.attributes.get? key).bind fun a =>
        if a.writeOnly then desired.attributes.get? key else none).or (attributes.get? key) := by
  rw [Provider.carryOver]
  generalize schema.attributes = declared at hnodup
  induction declared generalizing attributes with
  | nil => rfl
  | cons d rest ih =>
    obtain ⟨name, a⟩ := d
    obtain ⟨hname, hrest⟩ := List.nodup_cons.mp hnodup
    rw [List.foldl_cons, ih _ hrest, Fields.get?_cons]
    by_cases hkey : key = name
    · subst hkey
      have hnone : Fields.get? rest key = none := Fields.get?_eq_none hname
      rw [hnone, if_pos rfl, Option.bind_none, Option.none_or, Option.bind_some]
      dsimp only
      split_ifs
      · cases hv : desired.attributes.get? key with
        | none => rfl
        | some v => simp
      · rfl
    · rw [if_neg hkey]
      congr 1
      dsimp only
      split_ifs
      · cases desired.attributes.get? name with
        | none => rfl
        | some v => rw [Fields.get?_insert, if_neg hkey]
      · rfl

/-- **What has been written is carried over** to complete attributes. -/
theorem IsComplete.carryOver (h : schema.IsComplete [] attributes) {desired : Resource}
    (hshape : ∀ key a v, (key, a) ∈ schema.attributes → a.writeOnly = true →
      desired.attributes.get? key = some v → v.HasShape a.type.shape) :
    schema.IsComplete desired.attributes (Provider.carryOver schema desired attributes) where
  ascending := by
    refine Fields.ascending_foldl (fun fs d hfs => ?_) schema.attributes h.ascending
    obtain ⟨name, a⟩ := d
    dsimp only
    split_ifs
    · cases desired.attributes.get? name with
      | none => exact hfs
      | some v => exact Fields.ascending_insert hfs name v
    · exact hfs
  names key := by
    rw [← Fields.isSome_get?_iff, get?_carryOver hnodup, Option.isSome_or, Bool.or_eq_true,
      Fields.isSome_get?_iff, h.names]
    constructor
    · rintro (hcarried | ⟨a, ha, hread⟩)
      · obtain ⟨v, hv⟩ := Option.isSome_iff_exists.mp hcarried
        obtain ⟨a, ha, hv⟩ := Option.bind_eq_some_iff.mp hv
        split_ifs at hv
        refine ⟨a, Fields.mem_of_get? ha, fun _ => ?_⟩
        exact Fields.isSome_get?_iff.mp (Option.isSome_iff_exists.mpr ⟨v, hv⟩)
      · exact ⟨a, ha, fun hw => absurd (hread hw) List.not_mem_nil⟩
    · rintro ⟨a, ha, hwritten⟩
      cases hw : a.writeOnly with
      | false => exact .inr ⟨a, ha, fun hw' => absurd (hw.symm.trans hw') Bool.false_ne_true⟩
      | true =>
        refine .inl ?_
        rw [Fields.get?_of_mem hnodup ha, Option.bind_some, if_pos hw]
        exact Fields.isSome_get?_iff.mpr (hwritten hw)
  kept {key a} ha hw := by
    rw [get?_carryOver hnodup, Fields.get?_of_mem hnodup ha, Option.bind_some, if_pos hw,
      h.kept ha hw, Fields.get?_nil, Option.or_none]
  shapes {key a v} ha hv := by
    rw [get?_carryOver hnodup, Fields.get?_of_mem hnodup ha, Option.bind_some] at hv
    split_ifs at hv with hw
    · rw [h.kept ha hw, Fields.get?_nil, Option.or_none] at hv
      exact hshape key a v ha hw hv
    · exact h.shapes ha hv

end Complete

theorem IsComplete.congr {written' : Attributes} (h : schema.IsComplete written attributes)
    (heq : ∀ key a, (key, a) ∈ schema.attributes → a.writeOnly = true →
      written.get? key = written'.get? key) : schema.IsComplete written' attributes where
  ascending := h.ascending
  names key := by
    rw [h.names]
    refine exists_congr fun a => and_congr_right fun ha => forall_congr' fun hw => ?_
    rw [← Fields.isSome_get?_iff, ← Fields.isSome_get?_iff, heq key a ha hw]
  kept ha hw := (h.kept ha hw).trans (heq _ _ ha hw)
  shapes := h.shapes

end Schema

end CloudProvider
