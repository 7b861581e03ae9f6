import CloudProvider.Proofs.Alike
import CloudProvider.Proofs.Attributes

/-!
# Accounts that differ in their password

The password of an account is desired like any other attribute. Two accounts that are desired alike
but for it are prepared alike but for it, as long as both passwords conform.

* `Fields.override`: every value under a key replaced.
* `Schema.withDefaults_override`, `Schema.violations_override`: checks with another value.
* `Resource.withPassword`: a desired account with a password.
* **`Provider.prepared_alike`**: two such accounts are prepared alike.
-/

namespace CloudProvider

/-! ## Values replaced -/

namespace Fields

variable {α : Type} {fs : Fields α} {key : String}

/-- Every value under a key replaced. -/
def override (fs : Fields α) (key : String) (a : α) : Fields α :=
  List.map (fun f => (f.1, if f.1 = key then a else f.2)) fs

theorem get?_override (fs : Fields α) (key : String) (a : α) (k : String) :
    (fs.override key a).get? k = if k = key then (fs.get? k).map fun _ => a else fs.get? k := by
  rw [override, get?_map fun j b => if j = key then a else b]
  by_cases hk : k = key
  · simp only [hk, if_true]
  · simp only [hk, if_false, Option.map_id']

theorem override_insert (fs : Fields α) (key : String) (a : α) (k : String) (b : α) :
    (fs.insert k b).override key a =
      (fs.override key a).insert k (if k = key then a else b) :=
  map_insert (fun j c => if j = key then a else c) fs k b

theorem override_override (fs : Fields α) (key : String) (a b : α) :
    (fs.override key a).override key b = fs.override key b := by
  simp only [override, List.map_map]
  refine List.map_congr_left fun f _ => ?_
  by_cases hf : f.1 = key <;> simp [hf]

theorem get?_erase (fs : Fields α) {key k : String} (hk : k ≠ key) :
    (fs.erase key).get? k = fs.get? k := by
  induction fs with
  | nil => rfl
  | cons f rest ih =>
    obtain ⟨j, b⟩ := f
    rw [get?_cons]
    by_cases hj : j = key
    · have hcons : erase ((j, b) :: rest) key = erase rest key :=
        List.filter_cons_of_neg (by simp [hj])
      rw [hcons, ih, if_neg fun h => hk (h.trans hj)]
    · have hcons : erase ((j, b) :: rest) key = (j, b) :: erase rest key :=
        List.filter_cons_of_pos (by simp [hj])
      rw [hcons, get?_cons, ih]

theorem override_erase (fs : Fields α) (key : String) (a : α) :
    (fs.erase key).override key a = fs.erase key := by
  refine (List.map_congr_left fun f hf => ?_).trans (List.map_id _)
  have hne : f.1 ≠ key := of_decide_eq_true (List.mem_filter.mp hf).2
  exact Prod.ext rfl (if_neg hne)

end Fields

/-! ## Checks with another value -/

namespace Schema

variable {schema : Schema} {attributes : Attributes} {key : String} {v w : Value}

theorem withDefaults_override (h : (attributes.get? key).isSome = true) (v : Value) :
    schema.withDefaults (attributes.override key v) =
      (schema.withDefaults attributes).override key v := by
  rw [withDefaults, withDefaults, fill, fill]
  generalize schema.attributes = declared
  induction declared generalizing attributes with
  | nil => rfl
  | cons d rest ih =>
    obtain ⟨name, a⟩ := d
    rw [List.foldl_cons, List.foldl_cons]
    have hgiven : ((attributes.override key v).get? name).isSome =
        (attributes.get? name).isSome := by
      rw [Fields.get?_override]
      split_ifs <;> simp
    dsimp only
    rw [hgiven]
    by_cases hname : (attributes.get? name).isSome = true
    · rw [if_pos hname, if_pos hname]
      exact ih h
    · rw [if_neg hname, if_neg hname]
      cases a.default with
      | none => exact ih h
      | some u =>
        have hne : name ≠ key := by
          rintro rfl
          exact hname h
        have hinsert := Fields.override_insert attributes key v name u
        rw [if_neg hne] at hinsert
        dsimp only
        rw [← hinsert]
        refine ih ?_
        rw [Fields.get?_insert]
        split_ifs
        · rfl
        · exact h

theorem missing_override (attributes : Attributes) (key : String) (v : Value) :
    schema.missing (attributes.override key v) = schema.missing attributes := by
  rw [missing, missing]
  refine List.filterMap_congr fun d _ => ?_
  have hgiven : ((attributes.override key v).get? d.1).isNone = (attributes.get? d.1).isNone := by
    rw [Fields.get?_override]
    split_ifs <;> simp
  dsimp only
  rw [hgiven]

/-- **Values that conform make no difference** to what is wrong. -/
theorem violations_override {a : Attribute} (ha : schema.attributes.get? key = some a)
    (hv : a.type.check v = .ok ()) (hw : a.type.check w = .ok ()) (attributes : Attributes) :
    schema.violations (attributes.override key v) =
      schema.violations (attributes.override key w) := by
  have hnonconforming : schema.nonconforming (attributes.override key v) =
      schema.nonconforming (attributes.override key w) := by
    simp only [nonconforming, Fields.override, List.filterMap_map]
    refine List.filterMap_congr fun f _ => ?_
    by_cases hf : f.1 = key
    · simp [hf, ha, hv, hw]
    · simp [hf]
  rw [violations, violations, missing_override, missing_override, hnonconforming]

end Schema

/-! ## Desired accounts -/

/-- Whether the schema of accounts admits a password. -/
def Catalog.IsPassword (p : String) : Prop := 8 ≤ p.length ∧ p.length ≤ 64

instance (p : String) : Decidable (Catalog.IsPassword p) := inferInstanceAs (Decidable (_ ∧ _))

/-- How the schema of accounts declares a password. -/
def Catalog.passwordAttribute : Attribute :=
  { name := "password", type := .textBetween 8 64, required := true, writeOnly := true }

theorem Catalog.get?_password : accountSchema.attributes.get? "password" = some passwordAttribute :=
  rfl

theorem Catalog.check_password {p : String} :
    passwordAttribute.type.check (.text p) = .ok () ↔ IsPassword p := by
  have hcheck : (AttributeType.textBetween 8 64).check (.text p) = .ok () ↔
      ∃ s, Value.text p = .text s ∧ 8 ≤ s.length ∧ s.length ≤ 64 := AttributeType.check_textBetween
  rw [passwordAttribute, hcheck, IsPassword]
  simp only [Value.text.injEq, exists_eq_left']

namespace Resource

/-- A desired account with a password. -/
def withPassword (r : Resource) (p : String) : Resource :=
  { r with attributes := (r.attributes.erase "password").insert "password" (.text p) }

/-- **Whether two desired accounts are alike but for their passwords.** -/
structure AlikeBut (p p' : String) (r r' : Resource) : Prop where
  id : r.id = r'.id
  others : ∀ key, key ≠ "password" → r.attributes.get? key = r'.attributes.get? key
  password : r.attributes.get? "password" = some (.text p)
  password' : r'.attributes.get? "password" = some (.text p')

variable {r r' : Resource} {p p' : String}

namespace AlikeBut

theorem text?_eq (h : AlikeBut p p' r r') {key : String} (hkey : key ≠ "password") :
    r.text? key = r'.text? key := by
  rw [text?, text?, h.others key hkey]

theorem required_eq (h : AlikeBut p p' r r') {key : String} (hkey : key ≠ "password") :
    r.required key = r'.required key := by
  rw [required, required, h.text?_eq hkey]

end AlikeBut

theorem get?_withPassword (r : Resource) (p : String) :
    (r.withPassword p).attributes.get? "password" = some (.text p) := by
  rw [withPassword, Fields.get?_insert, if_pos rfl]

theorem attributes_withPassword (r : Resource) (p p' : String) :
    (r.withPassword p').attributes =
      (r.withPassword p).attributes.override "password" (.text p') := by
  rw [withPassword, withPassword, Fields.override_insert, Fields.override_erase, if_pos rfl]

theorem withDefaults_withPassword (r : Resource) (p p' : String) :
    Catalog.accountSchema.withDefaults (r.withPassword p').attributes =
      (Catalog.accountSchema.withDefaults (r.withPassword p).attributes).override "password"
        (.text p') := by
  rw [attributes_withPassword r p p', Schema.withDefaults_override]
  rw [get?_withPassword]
  rfl

end Resource

namespace Provider

open Catalog

variable {p p' : String}

theorem violations_withPassword (r : Resource) (hp : IsPassword p) (hp' : IsPassword p') :
    accountSchema.violations (accountSchema.withDefaults (r.withPassword p).attributes) =
      accountSchema.violations (accountSchema.withDefaults (r.withPassword p').attributes) := by
  rw [r.withDefaults_withPassword p' p, r.withDefaults_withPassword p p',
    Fields.override_override]
  exact Schema.violations_override get?_password (check_password.mpr hp) (check_password.mpr hp') _

theorem get?_withDefaults_withPassword (r : Resource) (p : String) :
    (accountSchema.withDefaults (r.withPassword p).attributes).get? "password" =
      some (.text p) := by
  have hnodup : accountSchema.attributes.keys.Nodup := LifecycleKind.schema_nodup .account
  rw [Schema.withDefaults, Schema.get?_fill hnodup, r.get?_withPassword]
  rfl

/-- **Accounts that are desired alike are prepared alike**, but for their passwords. -/
theorem prepared_alike (r : Resource) (hp : IsPassword p) (hp' : IsPassword p') :
    SameOutcome (Resource.AlikeBut p p') (prepare accountSchema (r.withPassword p))
      (prepare accountSchema (r.withPassword p')) := by
  rw [prepare, prepare]
  dsimp only
  rw [← violations_withPassword r hp hp']
  cases accountSchema.violations (accountSchema.withDefaults (r.withPassword p).attributes) with
  | nil =>
    refine .ok ⟨rfl, fun key hkey => ?_, get?_withDefaults_withPassword r p,
      get?_withDefaults_withPassword r p'⟩
    dsimp only
    rw [r.withDefaults_withPassword p p', Fields.get?_override, if_neg hkey]
  | cons e rest => exact .error _

end Provider

end CloudProvider
