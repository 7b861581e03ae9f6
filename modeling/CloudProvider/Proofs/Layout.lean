import CloudProvider.Proofs.Answer
import CloudProvider.Proofs.Conformity
import CloudProvider.Proofs.Json.Records
import CloudProvider.Proofs.Inventory
import CloudProvider.Proofs.Password

/-!
# What an answer may leave out

The remote writes one entity in several ways. It may leave out a member that has its default, put
null for an empty list, and add members of its own. All of these are read as the same.

* `Layout`: what the members of a value are, at every depth.
* `Layout.Edit`, `Layout.Alike`: one edit of a value that changes nothing, and any number of them.
* `Layout.Tolerant`: whether a reader does not tell alike values apart.
* `Row.Follows`: the columns of a record, each with its layout.
* **`Layout.tolerant_list`**, **`Row.Follows.tolerant`**: lists and records are read tolerantly if
  their parts are.
-/

namespace CloudProvider

/-! ## Layouts -/

/-- **How a value is laid out.** -/
inductive Layout where
  | text
  | number
  | flag
  /-- A list, for which null may stand when it is empty. -/
  | list (item : Layout)
  /-- An object with members of some names. -/
  | record (fields : List (String × Layout))

namespace Layout

/-- The values that a member need not be given for. -/
def defaults : Layout → List Json
  | .text => [.str ""]
  | .number => [.int 0]
  | .flag => [.bool false]
  | .list _ => [.arr [], .null]
  | .record _ => []

/-- **One edit of a value**: null for an empty list, a member left out that has its default, or a
member added that has no meaning, at any depth. A record may also be given by an array, which has
its members in their order and may end early. -/
inductive Edit : Layout → Json → Json → Prop
  | empty (item : Layout) : Edit (.list item) (.arr []) .null
  | item {item : Layout} {front back : List Json} {j j' : Json} (h : Edit item j j') :
      Edit (.list item) (.arr (front ++ j :: back)) (.arr (front ++ j' :: back))
  | member {fields : List (String × Layout)} {members : Fields Json} {name : String}
      {layout : Layout} {j j' : Json} (hfield : (name, layout) ∈ fields)
      (hj : members.get? name = some j) (h : Edit layout j j') :
      Edit (.record fields) (.obj members) (.obj (members.insert name j'))
  | leaveOut {fields : List (String × Layout)} {members : Fields Json} {name : String}
      {layout : Layout} {j : Json} (hfield : (name, layout) ∈ fields)
      (hj : members.get? name = some j) (h : j ∈ layout.defaults) :
      Edit (.record fields) (.obj members) (.obj (members.erase name))
  | add {fields : List (String × Layout)} {members : Fields Json} {name : String} {j : Json}
      (h : name ∉ fields.map Prod.fst) :
      Edit (.record fields) (.obj members) (.obj (members.insert name j))
  | place {fields : List (String × Layout)} {items : List Json} {i : Nat} {name : String}
      {layout : Layout} {j j' : Json} (hfield : fields[i]? = some (name, layout))
      (hj : items[i]? = some j) (h : Edit layout j j') :
      Edit (.record fields) (.arr items) (.arr (items.set i j'))
  | endEarly {fields : List (String × Layout)} {front : List Json} {name : String}
      {layout : Layout} {j : Json} (hfield : fields[front.length]? = some (name, layout))
      (h : j ∈ layout.defaults) :
      Edit (.record fields) (.arr (front ++ [j])) (.arr front)

/-- **Whether two values differ in edits only**, made in the one or the other. -/
def Alike (layout : Layout) : Json → Json → Prop := Relation.EqvGen layout.Edit

/-- **Whether a reader does not tell apart what an edit makes of a value.** -/
def Tolerant {α : Type} (layout : Layout) (decode : Json → Except Issue α) : Prop :=
  ∀ j j', layout.Edit j j' → ∀ a, decode j = .ok a ↔ decode j' = .ok a

variable {α β : Type} {layout : Layout} {decode : Json → Except Issue α} {name : String}

theorem Tolerant.of_alike (h : Tolerant layout decode) {j j' : Json} (hj : layout.Alike j j')
    (a : α) : decode j = .ok a ↔ decode j' = .ok a := by
  induction hj with
  | rel j j' hedit => exact h j j' hedit a
  | refl j => exact Iff.rfl
  | symm j j' _ ih => exact ih.symm
  | trans j j' j'' _ _ ih ih' => exact ih.trans ih'

theorem tolerant_text : Tolerant .text decode := fun _ _ h => nomatch h

theorem tolerant_number : Tolerant .number decode := fun _ _ h => nomatch h

theorem tolerant_flag : Tolerant .flag decode := fun _ _ h => nomatch h

theorem Tolerant.asItems (h : Tolerant layout decode) {j j' : Json} (hj : layout.Edit j j')
    (front back : List Json) (as : List α) :
    Json.asItems decode (front ++ j :: back) = .ok as ↔
      Json.asItems decode (front ++ j' :: back) = .ok as := by
  rw [Json.asItems_eq_ok, Json.asItems_eq_ok]
  induction front generalizing as with
  | nil => simp only [List.nil_append, List.forall₂_cons_left_iff, h j j' hj]
  | cons k front ih => simp only [List.cons_append, List.forall₂_cons_left_iff, ih]

/-- **A list of items that are read tolerantly.** -/
theorem tolerant_list (h : Tolerant layout decode) :
    Tolerant (.list layout) (Json.asListOrNull decode) := by
  intro j j' hedit a
  cases hedit with
  | empty => exact Iff.rfl
  | item hj => exact h.asItems hj _ _ a

end Layout

/-! ## Columns -/

theorem Fields.get?_erase_self {α : Type} (fs : Fields α) (key : String) :
    (fs.erase key).get? key = none :=
  get?_eq_none (by simp [keys, erase])

/-- Whether what is given under a name may stand for something else there. -/
inductive Layout.Stands (layout : Layout) : Option Json → Option Json → Prop
  | same (value : Option Json) : Stands layout value value
  | edit {j j' : Json} (h : layout.Edit j j') : Stands layout (some j) (some j')
  | none {j : Json} (h : j ∈ layout.defaults) : Stands layout (some j) none

/-- **Whether the columns of a record have some layouts**, and are read tolerantly. -/
structure Row.Follows {α : Type} (row : Row Json α) (fields : List (String × Layout)) : Prop where
  columns : row.columns = fields.map Prod.fst
  read {value value' : String → Option Json} :
    (∀ f ∈ fields, f.2.Stands (value f.1) (value' f.1)) →
      ∀ a, row.read value = .ok a ↔ row.read value' = .ok a

namespace Row

open Layout

variable {α β : Type} {layout : Layout} {decode : Json → Except Issue α} {name : String}
  {fields fields' : List (String × Layout)}

theorem Follows.pure (a : α) : Follows (Pure.pure a : Row Json α) [] :=
  ⟨rfl, fun _ _ => Iff.rfl⟩

theorem Follows.seq {f : Row Json (α → β)} {x : Row Json α} (hf : f.Follows fields)
    (hx : x.Follows fields') : (f <*> x).Follows (fields ++ fields') where
  columns := by
    rw [List.map_append, ← hf.columns, ← hx.columns]
    rfl
  read h b := by
    rw [List.forall_mem_append] at h
    simp only [read_seq_eq_ok, hf.read h.1, hx.read h.2]

theorem Follows.map {x : Row Json α} (hx : x.Follows fields) (g : α → β) :
    (g <$> x).Follows fields :=
  (Follows.pure g).seq hx

theorem follows_column {absent : α} (h : Tolerant layout decode)
    (habsent : ∀ j ∈ layout.defaults, decode j = .ok absent) :
    (column name decode absent).Follows [(name, layout)] where
  columns := rfl
  read {value value'} hvalue a := by
    have hname : layout.Stands (value name) (value' name) := hvalue _ List.mem_cons_self
    simp only [column]
    generalize value name = v, value' name = v' at hname
    cases hname with
    | same => exact Iff.rfl
    | edit hedit => simpa only [AttributeType.except_mapError_eq_ok] using h _ _ hedit a
    | none hdefault => simp only [habsent _ hdefault, Except.mapError]

theorem follows_text : (column name Json.asText "").Follows [(name, .text)] :=
  follows_column tolerant_text (List.forall_mem_singleton.mpr rfl)

theorem follows_int64 : (column name Json.asInt64 0).Follows [(name, .number)] :=
  follows_column tolerant_number (List.forall_mem_singleton.mpr rfl)

theorem follows_nat64 : (column name Json.asNat64 0).Follows [(name, .number)] :=
  follows_column tolerant_number (List.forall_mem_singleton.mpr rfl)

theorem follows_flag : (column name Json.asBool false).Follows [(name, .flag)] :=
  follows_column tolerant_flag (List.forall_mem_singleton.mpr rfl)

theorem follows_list (h : Tolerant layout decode) :
    (column name (Json.asListOrNull decode) []).Follows [(name, .list layout)] :=
  follows_column (tolerant_list h)
    (List.forall_mem_cons.mpr ⟨rfl, List.forall_mem_singleton.mpr rfl⟩)

theorem follows_required (h : Tolerant layout decode) (hdefaults : layout.defaults = []) :
    (required name decode).Follows [(name, layout)] where
  columns := rfl
  read {value value'} hvalue a := by
    have hname : layout.Stands (value name) (value' name) := hvalue _ List.mem_cons_self
    simp only [required]
    generalize value name = v, value' name = v' at hname
    cases hname with
    | same => exact Iff.rfl
    | edit hedit => simpa only [AttributeType.except_mapError_eq_ok] using h _ _ hedit a
    | none hdefault => exact absurd (hdefaults ▸ hdefault) List.not_mem_nil

/-! ## Records -/

theorem lookup_zip {columns : List String} (h : columns.Nodup) {i : Nat}
    (hi : columns[i]? = some name) {J : Type} (items : List J) :
    List.lookup name (columns.zip items) = items[i]? := by
  induction columns generalizing i items with
  | nil => simp at hi
  | cons c columns ih =>
    obtain ⟨hc, hrest⟩ := List.nodup_cons.mp h
    cases items with
    | nil => simp
    | cons j items =>
      rw [List.zip_cons_cons, List.lookup_cons]
      cases i with
      | zero =>
        obtain rfl : c = name := by simpa using hi
        simp
      | succ i =>
        rw [List.getElem?_cons_succ] at hi
        have hne : (name == c) = false := by
          refine beq_eq_false_iff_ne.mpr ?_
          rintro rfl
          exact hc (List.mem_of_getElem? hi)
        simpa [hne] using ih hrest hi items

theorem Follows.read_byPosition {row : Row Json α} (h : row.Follows fields)
    (hnames : (fields.map Prod.fst).Nodup) {items items' : List Json}
    (hitems : ∀ (i : Nat) (f : String × Layout), fields[i]? = some f →
      f.2.Stands items[i]? items'[i]?) (a : α) :
    row.read (row.byPosition items) = .ok a ↔ row.read (row.byPosition items') = .ok a := by
  refine h.read (fun f hf => ?_) a
  obtain ⟨i, hi⟩ := List.getElem?_of_mem hf
  have hname : (fields.map Prod.fst)[i]? = some f.1 := by rw [List.getElem?_map, hi]; rfl
  simp only [byPosition, h.columns, lookup_zip hnames hname]
  exact hitems i f hi

theorem eq_of_nodup_names (hnames : (fields.map Prod.fst).Nodup) {f : String × Layout}
    (hf : f ∈ fields) (hfield : (name, layout) ∈ fields) (hname : f.1 = name) : f.2 = layout :=
  congrArg Prod.snd (List.inj_on_of_nodup_map hnames hf hfield hname)

theorem ofJson_obj_eq_ok {row : Row Json α} {record : String} {members : Fields Json} {a : α} :
    row.ofJson record (.obj members) = .ok a ↔ row.read members.get? = .ok a :=
  AttributeType.except_mapError_eq_ok

theorem ofJson_arr_eq_ok {row : Row Json α} {record : String} {items : List Json} {a : α} :
    row.ofJson record (.arr items) = .ok a ↔
      row.read (row.byPosition items) = .ok a ∧ items.length ≤ row.columns.length := by
  rw [ofJson]
  cases row.read (row.byPosition items) with
  | error fs => simp
  | ok b =>
    by_cases hlength : row.columns.length < items.length
    · simp [hlength]
    · simp [hlength, Nat.le_of_not_lt hlength]

/-- **A record whose columns are read tolerantly.** -/
theorem Follows.tolerant {row : Row Json α} (h : row.Follows fields)
    (hnames : (fields.map Prod.fst).Nodup) (record : String) :
    Tolerant (.record fields) (row.ofJson record) := by
  intro j j' hedit a
  -- An object is read by the names of its members, an array by the places of its items.
  cases hedit with
  | @member _ members name layout j j' hfield hj hedit =>
    rw [ofJson_obj_eq_ok, ofJson_obj_eq_ok]
    refine h.read (fun f hf => ?_) a
    rw [Fields.get?_insert]
    split_ifs with hname
    · rw [hname, hj, eq_of_nodup_names hnames hf hfield hname]
      exact .edit hedit
    · exact .same _
  | @leaveOut _ members name layout j hfield hj hdefault =>
    rw [ofJson_obj_eq_ok, ofJson_obj_eq_ok]
    refine h.read (fun f hf => ?_) a
    by_cases hname : f.1 = name
    · rw [hname, hj, Fields.get?_erase_self, eq_of_nodup_names hnames hf hfield hname]
      exact .none hdefault
    · rw [Fields.get?_erase _ hname]
      exact .same _
  | @add _ members name j hnew =>
    rw [ofJson_obj_eq_ok, ofJson_obj_eq_ok]
    refine h.read (fun f hf => ?_) a
    have hname : f.1 ≠ name := fun hname => hnew (hname ▸ List.mem_map_of_mem hf)
    rw [Fields.get?_insert, if_neg hname]
    exact .same _
  | @place _ items i name layout j j' hfield hj hedit =>
    rw [ofJson_arr_eq_ok, ofJson_arr_eq_ok, List.length_set]
    refine and_congr (h.read_byPosition hnames (fun k f hf => ?_) a) Iff.rfl
    by_cases hk : i = k
    · subst hk
      obtain rfl := Option.some.inj (hf.symm.trans hfield)
      rw [List.getElem?_set_self (List.getElem?_eq_some_iff.mp hj).1, hj]
      exact .edit hedit
    · rw [List.getElem?_set_ne hk]
      exact .same _
  | @endEarly _ front name layout j hfield hdefault =>
    rw [ofJson_arr_eq_ok, ofJson_arr_eq_ok]
    have hlength : front.length < fields.length := (List.getElem?_eq_some_iff.mp hfield).1
    refine and_congr (h.read_byPosition hnames (fun i f hf => ?_) a) ?_
    · rw [List.getElem?_append]
      split_ifs with hi
      · exact .same _
      · rw [List.getElem?_eq_none (Nat.le_of_not_lt hi), List.getElem?_singleton]
        split_ifs with hlast
        · obtain rfl : i = front.length := by omega
          obtain rfl := Option.some.inj (hf.symm.trans hfield)
          exact .none hdefault
        · exact .same _
    · rw [h.columns]
      simp
      omega

end Row

end CloudProvider
