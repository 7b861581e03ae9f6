import CloudProvider.Proofs.Shape
import CloudProvider.Value.Json

/-!
# Values and JSON

A value is read back from its JSON. JSON is read as a value unless it holds a number that is no
integer of 64 bits, and loses nothing but its nulls.

* `flatMapM_cons_eq_ok`, `exists_of_flatMapM_eq_error`: the loop that reads the items of an array
  and the members of an object.
* `Json.byParts`, `Value.byParts`: induction over values within values.
* `Json.Holds`, `Json.IsStray`, `Json.withoutNulls`: what stands in a JSON value, the numbers that
  are no integers, and what is left without the nulls.
* `Json.Ordered`, `Value.Ordered`: keys in ascending order at every depth.
* `Value.ofJson_toJson`, `Value.toJson_of_ofJson`: there and back.
* **`Value.conversion_faithful`**: what the two conversions give.
-/

namespace CloudProvider

/-! ## Loops that leave several things for each item -/

section Loop

variable {α β γ ε : Type} {f : α → Except ε (List β)} {a : α} {as : List α} {b : β} {bs : List β}
  {e : ε}

theorem flatMapM_cons_eq_ok : (a :: as).flatMapM f = .ok bs ↔
    ∃ cs ds, f a = .ok cs ∧ as.flatMapM f = .ok ds ∧ bs = cs ++ ds := by
  rw [List.flatMapM_cons]
  cases f a with
  | error e => simp [bind, Except.bind]
  | ok cs => cases as.flatMapM f <;> simp [bind, Except.bind, pure, Except.pure, eq_comm]

theorem flatMapM_cons_eq_error : (a :: as).flatMapM f = .error e ↔
    f a = .error e ∨ (∃ cs, f a = .ok cs) ∧ as.flatMapM f = .error e := by
  rw [List.flatMapM_cons]
  cases f a with
  | error e => simp [bind, Except.bind]
  | ok cs => cases as.flatMapM f <;> simp [bind, Except.bind, pure, Except.pure]

theorem exists_of_flatMapM_eq_error (h : as.flatMapM f = .error e) : ∃ a ∈ as, f a = .error e := by
  induction as with
  | nil => cases h
  | cons a as ih =>
    rcases flatMapM_cons_eq_error.mp h with ha | ⟨-, has⟩
    · exact ⟨a, List.mem_cons_self, ha⟩
    · obtain ⟨a', ha', he⟩ := ih has
      exact ⟨a', List.mem_cons_of_mem a ha', he⟩

theorem exists_flatMapM_eq_error (ha : a ∈ as) (h : f a = .error e) :
    ∃ e, as.flatMapM f = .error e := by
  induction as with
  | nil => cases ha
  | cons a' as ih =>
    cases ha' : f a' with
    | error e' => exact ⟨e', flatMapM_cons_eq_error.mpr (.inl ha')⟩
    | ok cs =>
      rcases List.mem_cons.mp ha with rfl | ha
      · cases ha'.symm.trans h
      · obtain ⟨e', he'⟩ := ih ha
        exact ⟨e', flatMapM_cons_eq_error.mpr (.inr ⟨⟨cs, ha'⟩, he'⟩)⟩

theorem exists_of_mem_flatMapM (h : as.flatMapM f = .ok bs) (hb : b ∈ bs) :
    ∃ a ∈ as, ∃ cs, f a = .ok cs ∧ b ∈ cs := by
  induction as generalizing bs with
  | nil =>
    cases h
    cases hb
  | cons a as ih =>
    obtain ⟨cs, ds, ha, has, rfl⟩ := flatMapM_cons_eq_ok.mp h
    rcases List.mem_append.mp hb with hb | hb
    · exact ⟨a, List.mem_cons_self, cs, ha, hb⟩
    · obtain ⟨a', ha', hcs⟩ := ih has hb
      exact ⟨a', List.mem_cons_of_mem a ha', hcs⟩

theorem flatMapM_map_eq_ok {g : β → α} (h : ∀ b ∈ bs, f (g b) = .ok [b]) :
    (bs.map g).flatMapM f = .ok bs := by
  induction bs with
  | nil => rfl
  | cons b bs ih =>
    obtain ⟨hb, hbs⟩ := List.forall_mem_cons.mp h
    exact flatMapM_cons_eq_ok.mpr ⟨[b], bs, hb, ih hbs, rfl⟩

theorem map_flatMapM {g : β → γ} {k : α → List γ} (h : as.flatMapM f = .ok bs)
    (hk : ∀ a ∈ as, ∀ cs, f a = .ok cs → cs.map g = k a) : bs.map g = as.flatMap k := by
  induction as generalizing bs with
  | nil =>
    cases h
    rfl
  | cons a as ih =>
    obtain ⟨cs, ds, ha, has, rfl⟩ := flatMapM_cons_eq_ok.mp h
    obtain ⟨hka, hkas⟩ := List.forall_mem_cons.mp hk
    rw [List.map_append, List.flatMap_cons, hka cs ha, ih has hkas]

end Loop

/-! ## JSON values within JSON values -/

namespace Json

/-- **Induction over a JSON value**: what holds of an array if it holds of its items, and of an
object if it holds of its members, holds of every value. -/
@[elab_as_elim]
theorem byParts {P : Json → Prop} (null : P .null) (bool : ∀ b, P (.bool b))
    (int : ∀ n, P (.int n)) (float : ∀ x, P (.float x)) (str : ∀ s, P (.str s))
    (arr : ∀ items, (∀ i ∈ items, P i) → P (.arr items))
    (obj : ∀ members, (∀ m ∈ members, P m.2) → P (.obj members)) (j : Json) : P j :=
  @Json.rec P (fun items => ∀ i ∈ items, P i) (fun members => ∀ m ∈ members, P m.2)
    (fun m => P m.2) null bool int float str arr obj (fun _ h => absurd h List.not_mem_nil)
    (fun _ _ hi his => List.forall_mem_cons.mpr ⟨hi, his⟩)
    (fun _ h => absurd h List.not_mem_nil)
    (fun _ _ hm hms => List.forall_mem_cons.mpr ⟨hm, hms⟩) (fun _ _ h => h) j

/-- **Whether a JSON value stands in another one**, at whatever depth. -/
inductive Holds : Json → Json → Prop
  | self (j : Json) : Holds j j
  | item {items : List Json} {i j : Json} : i ∈ items → Holds i j → Holds (.arr items) j
  | member {members : List (String × Json)} {name : String} {i j : Json} :
      (name, i) ∈ members → Holds i j → Holds (.obj members) j

/-- **Whether a JSON value is a number that is no integer of 64 bits.** A number that is written
with a fraction or an exponent is a double and no integer, even if it has nothing behind its point;
so is one that is too large for 64 bits. -/
inductive IsStray : Json → Prop
  | int {n : Int} : ¬ (-0x8000000000000000 ≤ n ∧ n < 0x8000000000000000) → IsStray (.int n)
  | float (x : Double) : IsStray (.float x)

def isNull : Json → Bool
  | .null => true
  | _ => false

theorem isNull_iff {j : Json} : j.isNull = true ↔ j = .null := by
  cases j <;> simp [isNull]

mutual

/-- **A JSON value without nulls**: the items and the members that are null are left out, at every
depth. -/
def withoutNulls : Json → Json
  | .arr items => .arr (itemsWithoutNulls items)
  | .obj members => .obj (membersWithoutNulls members)
  | j => j

def itemsWithoutNulls : List Json → List Json
  | [] => []
  | j :: js => if j.isNull then itemsWithoutNulls js else j.withoutNulls :: itemsWithoutNulls js

def membersWithoutNulls : List (String × Json) → List (String × Json)
  | [] => []
  | (name, j) :: rest =>
    if j.isNull then membersWithoutNulls rest
    else (name, j.withoutNulls) :: membersWithoutNulls rest

end

theorem withoutNulls_arr (items : List Json) : withoutNulls (.arr items) =
    .arr (items.flatMap fun j => if j.isNull then [] else [j.withoutNulls]) := by
  refine congrArg Json.arr (?_ : itemsWithoutNulls items = _)
  induction items with
  | nil => rfl
  | cons j js ih =>
    rw [itemsWithoutNulls, List.flatMap_cons, ih]
    split_ifs <;> rfl

theorem withoutNulls_obj (members : List (String × Json)) : withoutNulls (.obj members) =
    .obj (members.flatMap fun m => if m.2.isNull then [] else [(m.1, m.2.withoutNulls)]) := by
  refine congrArg Json.obj (?_ : membersWithoutNulls members = _)
  induction members with
  | nil => rfl
  | cons m rest ih =>
    rw [membersWithoutNulls, List.flatMap_cons, ih]
    split_ifs <;> rfl

/-- **Whether the members of objects are in ascending order**, at every depth. -/
inductive Ordered : Json → Prop
  | null : Ordered .null
  | bool (b : Bool) : Ordered (.bool b)
  | int (n : Int) : Ordered (.int n)
  | float (x : Double) : Ordered (.float x)
  | str (s : String) : Ordered (.str s)
  | arr {items : List Json} : (∀ i ∈ items, Ordered i) → Ordered (.arr items)
  | obj {members : List (String × Json)} : Fields.Ascending members →
      (∀ m ∈ members, Ordered m.2) → Ordered (.obj members)

end Json

/-! ## Values within values -/

namespace Value

/-- **Induction over a value**: what holds of a list if it holds of its items, and of a map if it
holds of its values, holds of every value. -/
@[elab_as_elim]
theorem byParts {P : Value → Prop} (text : ∀ s, P (.text s)) (int : ∀ n, P (.int n))
    (bool : ∀ b, P (.bool b)) (list : ∀ items, (∀ v ∈ items, P v) → P (.list items))
    (map : ∀ entries, (∀ m ∈ entries, P m.2) → P (.map entries)) (v : Value) : P v :=
  @Value.rec P (fun items => ∀ v ∈ items, P v) (fun entries => ∀ m ∈ entries, P m.2)
    (fun m => P m.2) text int bool list map (fun _ h => absurd h List.not_mem_nil)
    (fun _ _ hv hvs => List.forall_mem_cons.mpr ⟨hv, hvs⟩)
    (fun _ h => absurd h List.not_mem_nil)
    (fun _ _ hm hms => List.forall_mem_cons.mpr ⟨hm, hms⟩) (fun _ _ h => h) v

/-- **Whether the entries of maps are in ascending order**, at every depth. -/
inductive Ordered : Value → Prop
  | text (s : String) : Ordered (.text s)
  | int (n : Int64) : Ordered (.int n)
  | bool (b : Bool) : Ordered (.bool b)
  | list {items : List Value} : (∀ v ∈ items, Ordered v) → Ordered (.list items)
  | map {entries : List (String × Value)} : Fields.Ascending entries →
      (∀ m ∈ entries, Ordered m.2) → Ordered (.map entries)

/-! ## A value as JSON -/

theorem toJson_list (items : List Value) : toJson (.list items) = .arr (items.map toJson) := by
  refine congrArg Json.arr (?_ : itemsToJson items = _)
  induction items with
  | nil => rfl
  | cons v vs ih => exact congrArg (v.toJson :: ·) ih

theorem toJson_map (entries : List (String × Value)) :
    toJson (.map entries) = .obj (entries.map fun m => (m.1, m.2.toJson)) := by
  refine congrArg Json.obj (?_ : entriesToJson entries = _)
  induction entries with
  | nil => rfl
  | cons m rest ih => exact congrArg ((m.1, m.2.toJson) :: ·) ih

theorem Ordered.toJson {v : Value} (h : v.Ordered) : v.toJson.Ordered := by
  induction h with
  | text s => exact .str s
  | int n => exact .int n.toInt
  | bool b => exact .bool b
  | list _ ih =>
    rw [toJson_list]
    refine .arr fun i hi => ?_
    obtain ⟨v, hv, rfl⟩ := List.mem_map.mp hi
    exact ih v hv
  | map hkeys _ ih =>
    rw [toJson_map]
    refine .obj ?_ fun m hm => ?_
    · simpa [Fields.Ascending, Fields.keys, Function.comp_def] using hkeys
    · obtain ⟨entry, hentry, rfl⟩ := List.mem_map.mp hm
      exact ih entry hentry

/-! ## JSON as a value -/

/-- What an item of an array leaves in the list. -/
def itemValues (j : Json) : Except NoInteger (List Value) := do
  return (← ofJson j).toList

/-- What a member of an object leaves in the map. -/
def memberEntries (m : String × Json) : Except NoInteger (List (String × Value)) := do
  return (← ofJson m.2).toList.map fun v => (m.1, v)

theorem ofJson_int (n : Int) : ofJson (.int n) =
    if -0x8000000000000000 ≤ n ∧ n < 0x8000000000000000 then .ok (some (.int (Int64.ofInt n)))
    else .error ⟨toString n⟩ := rfl

theorem ofJson_arr (js : List Json) :
    ofJson (.arr js) = do return some (.list (← js.flatMapM itemValues)) := by
  have hitems : ofItems js = js.flatMapM itemValues := by
    induction js with
    | nil => rfl
    | cons j js ih =>
      rw [ofItems, List.flatMapM_cons, itemValues, ih]
      cases ofJson j <;> rfl
  rw [← hitems]
  rfl

theorem ofJson_obj (members : List (String × Json)) :
    ofJson (.obj members) = do return some (.map (← members.flatMapM memberEntries)) := by
  have hmembers : ofMembers members = members.flatMapM memberEntries := by
    induction members with
    | nil => rfl
    | cons m rest ih =>
      rw [ofMembers, List.flatMapM_cons, memberEntries, ih]
      cases ofJson m.2 <;> rfl
  rw [← hmembers]
  rfl

section Reading

variable {j : Json} {js : List Json} {m : String × Json} {members : List (String × Json)}
  {v : Value} {e : NoInteger}

theorem itemValues_eq_ok {vs : List Value} :
    itemValues j = .ok vs ↔ ∃ o, ofJson j = .ok o ∧ vs = o.toList := by
  rw [itemValues]
  cases ofJson j <;> simp [bind, Except.bind, pure, Except.pure, eq_comm]

theorem itemValues_eq_error : itemValues j = .error e ↔ ofJson j = .error e := by
  rw [itemValues]
  cases ofJson j <;> simp [bind, Except.bind, pure, Except.pure]

theorem memberEntries_eq_ok {entries : List (String × Value)} :
    memberEntries m = .ok entries ↔
      ∃ o, ofJson m.2 = .ok o ∧ entries = o.toList.map fun v => (m.1, v) := by
  rw [memberEntries]
  cases ofJson m.2 <;> simp [bind, Except.bind, pure, Except.pure, eq_comm]

theorem memberEntries_eq_error : memberEntries m = .error e ↔ ofJson m.2 = .error e := by
  rw [memberEntries]
  cases ofJson m.2 <;> simp [bind, Except.bind, pure, Except.pure]

theorem ofJson_arr_eq_some : ofJson (.arr js) = .ok (some v) ↔
    ∃ vs, js.flatMapM itemValues = .ok vs ∧ v = .list vs := by
  rw [ofJson_arr]
  cases js.flatMapM itemValues <;> simp [bind, Except.bind, pure, Except.pure, eq_comm]

theorem ofJson_arr_eq_error :
    ofJson (.arr js) = .error e ↔ js.flatMapM itemValues = .error e := by
  rw [ofJson_arr]
  cases js.flatMapM itemValues <;> simp [bind, Except.bind, pure, Except.pure]

theorem ofJson_obj_eq_some : ofJson (.obj members) = .ok (some v) ↔
    ∃ entries, members.flatMapM memberEntries = .ok entries ∧ v = .map entries := by
  rw [ofJson_obj]
  cases members.flatMapM memberEntries <;> simp [bind, Except.bind, pure, Except.pure, eq_comm]

theorem ofJson_obj_eq_error :
    ofJson (.obj members) = .error e ↔ members.flatMapM memberEntries = .error e := by
  rw [ofJson_obj]
  cases members.flatMapM memberEntries <;> simp [bind, Except.bind, pure, Except.pure]

/-- **A value is read back from its JSON.** -/
theorem ofJson_toJson (v : Value) : ofJson v.toJson = .ok (some v) := by
  induction v using byParts with
  | text s => rfl
  | int n =>
    have hmin := n.le_toInt
    have hmax := n.toInt_lt
    rw [toJson, ofJson_int, if_pos ⟨by omega, by omega⟩, Int64.ofInt_toInt]
  | bool b => rfl
  | list items ih =>
    rw [toJson_list]
    refine ofJson_arr_eq_some.mpr ⟨items, flatMapM_map_eq_ok fun v hv => ?_, rfl⟩
    exact itemValues_eq_ok.mpr ⟨some v, ih v hv, rfl⟩
  | map entries ih =>
    rw [toJson_map]
    refine ofJson_obj_eq_some.mpr ⟨entries, flatMapM_map_eq_ok fun m hm => ?_, rfl⟩
    exact memberEntries_eq_ok.mpr ⟨some m.2, ih m hm, rfl⟩

theorem ofJson_eq_none : ofJson j = .ok none ↔ j = .null := by
  cases j with
  | int n =>
    rw [ofJson_int]
    split_ifs <;> simp
  | arr items =>
    rw [ofJson_arr]
    cases items.flatMapM itemValues <;> simp [bind, Except.bind, pure, Except.pure]
  | obj members =>
    rw [ofJson_obj]
    cases members.flatMapM memberEntries <;> simp [bind, Except.bind, pure, Except.pure]
  | _ => simp [ofJson]

/-! ### Numbers that are no integers -/

/-- **What is reported** is a number that is no integer. -/
theorem stray_of_error (h : ofJson j = .error e) :
    ∃ n, j.Holds n ∧ n.IsStray ∧ e.text = n.compact := by
  induction j using Json.byParts with
  | null => cases h
  | bool b => cases h
  | int n =>
    rw [ofJson_int] at h
    split_ifs at h with hrange
    obtain rfl := Except.error.inj h
    exact ⟨_, .self _, .int (by omega), String.ofList_toList.symm⟩
  | float x =>
    obtain rfl := Except.error.inj h
    exact ⟨_, .self _, .float x, rfl⟩
  | str s => cases h
  | arr items ih =>
    obtain ⟨i, hi, herror⟩ := exists_of_flatMapM_eq_error (ofJson_arr_eq_error.mp h)
    obtain ⟨n, hn, hstray, htext⟩ := ih i hi (itemValues_eq_error.mp herror)
    exact ⟨n, .item hi hn, hstray, htext⟩
  | obj members ih =>
    obtain ⟨m, hm, herror⟩ := exists_of_flatMapM_eq_error (ofJson_obj_eq_error.mp h)
    obtain ⟨n, hn, hstray, htext⟩ := ih m hm (memberEntries_eq_error.mp herror)
    exact ⟨n, .member hm hn, hstray, htext⟩

/-- **A number that is no integer is an error**, at any depth. -/
theorem exists_error_of_stray {n : Json} (h : j.Holds n) (hn : n.IsStray) :
    ∃ e, ofJson j = .error e := by
  induction h with
  | self j =>
    cases hn with
    | int hrange => exact ⟨_, if_neg (by omega)⟩
    | float x => exact ⟨_, rfl⟩
  | item hi _ ih =>
    obtain ⟨e, he⟩ := ih hn
    obtain ⟨e', he'⟩ := exists_flatMapM_eq_error hi (itemValues_eq_error.mpr he)
    exact ⟨e', ofJson_arr_eq_error.mpr he'⟩
  | member hm _ ih =>
    obtain ⟨e, he⟩ := ih hn
    obtain ⟨e', he'⟩ := exists_flatMapM_eq_error hm (memberEntries_eq_error.mpr he)
    exact ⟨e', ofJson_obj_eq_error.mpr he'⟩

/-! ### What is read -/

theorem isNull_eq_isNone {o : Option Value} (h : ofJson j = .ok o) : j.isNull = o.isNone := by
  rw [Bool.eq_iff_iff, Json.isNull_iff, ← ofJson_eq_none, h]
  simp

/-- **What is read is the JSON without its nulls.** -/
theorem toJson_of_ofJson (h : ofJson j = .ok (some v)) : v.toJson = j.withoutNulls := by
  induction j using Json.byParts generalizing v with
  | null => cases h
  | bool b =>
    obtain rfl := Option.some.inj (Except.ok.inj h)
    rfl
  | int n =>
    rw [ofJson_int] at h
    split_ifs at h with hrange
    obtain rfl := Option.some.inj (Except.ok.inj h)
    exact congrArg Json.int (Int64.toInt_ofInt_of_le (by omega) (by omega))
  | float x => cases h
  | str s =>
    obtain rfl := Option.some.inj (Except.ok.inj h)
    rfl
  | arr items ih =>
    obtain ⟨vs, hvs, rfl⟩ := ofJson_arr_eq_some.mp h
    rw [toJson_list, Json.withoutNulls_arr]
    refine congrArg Json.arr (map_flatMapM hvs fun i hi cs hcs => ?_)
    obtain ⟨o, ho, rfl⟩ := itemValues_eq_ok.mp hcs
    rw [isNull_eq_isNone ho]
    cases o with
    | none => rfl
    | some v => exact congrArg (fun j => [j]) (ih i hi ho)
  | obj members ih =>
    obtain ⟨entries, hentries, rfl⟩ := ofJson_obj_eq_some.mp h
    rw [toJson_map, Json.withoutNulls_obj]
    refine congrArg Json.obj (map_flatMapM hentries fun m hm cs hcs => ?_)
    obtain ⟨o, ho, rfl⟩ := memberEntries_eq_ok.mp hcs
    rw [isNull_eq_isNone ho]
    cases o with
    | none => rfl
    | some v => exact congrArg (fun j => [(m.1, j)]) (ih m hm ho)

theorem keys_sublist {entries : List (String × Value)}
    (h : members.flatMapM memberEntries = .ok entries) :
    (Fields.keys entries).Sublist (Fields.keys members) := by
  induction members generalizing entries with
  | nil =>
    cases h
    exact List.Sublist.refl _
  | cons m members ih =>
    obtain ⟨own, rest, hown, hrest, rfl⟩ := flatMapM_cons_eq_ok.mp h
    obtain ⟨o, -, rfl⟩ := memberEntries_eq_ok.mp hown
    cases o with
    | none => exact (ih hrest).cons m.1
    | some v => exact (ih hrest).cons_cons m.1

theorem ordered_of_ofJson (h : ofJson j = .ok (some v)) (hj : j.Ordered) : v.Ordered := by
  induction hj generalizing v with
  | null => cases h
  | bool b =>
    obtain rfl := Option.some.inj (Except.ok.inj h)
    exact .bool b
  | int n =>
    rw [ofJson_int] at h
    split_ifs at h
    obtain rfl := Option.some.inj (Except.ok.inj h)
    exact .int _
  | float x => cases h
  | str s =>
    obtain rfl := Option.some.inj (Except.ok.inj h)
    exact .text s
  | arr _ ih =>
    obtain ⟨vs, hvs, rfl⟩ := ofJson_arr_eq_some.mp h
    refine .list fun v hv => ?_
    obtain ⟨i, hi, cs, hcs, hv⟩ := exists_of_mem_flatMapM hvs hv
    obtain ⟨o, ho, rfl⟩ := itemValues_eq_ok.mp hcs
    obtain rfl := Option.mem_toList.mp hv
    exact ih i hi ho
  | obj hnames _ ih =>
    obtain ⟨entries, hentries, rfl⟩ := ofJson_obj_eq_some.mp h
    refine .map (hnames.sublist (keys_sublist hentries)) fun entry hentry => ?_
    obtain ⟨m, hm, cs, hcs, hentry⟩ := exists_of_mem_flatMapM hentries hentry
    obtain ⟨o, ho, rfl⟩ := memberEntries_eq_ok.mp hcs
    obtain ⟨v, hv, rfl⟩ := List.mem_map.mp hentry
    obtain rfl := Option.mem_toList.mp hv
    exact ih m hm ho

end Reading

/-- **Values and JSON are converted faithfully.** A value is read back from its JSON. JSON is not
read just if some number in it is no integer, and the number that is reported is one of these; it is
no value just if it is null; otherwise the value that is read is, as JSON, what is left without the
nulls. Keys stay in order in both directions. -/
theorem conversion_faithful :
    (∀ v : Value, ofJson v.toJson = .ok (some v) ∧ (v.Ordered → v.toJson.Ordered)) ∧
    ∀ j : Json,
      ((∃ e, ofJson j = .error e) ↔ ∃ n, j.Holds n ∧ n.IsStray) ∧
      (∀ e, ofJson j = .error e → ∃ n, j.Holds n ∧ n.IsStray ∧ e.text = n.compact) ∧
      (ofJson j = .ok none ↔ j = .null) ∧
      (j ≠ .null → (¬ ∃ n, j.Holds n ∧ n.IsStray) →
        ∃ v, ofJson j = .ok (some v) ∧ v.toJson = j.withoutNulls ∧ (j.Ordered → v.Ordered)) := by
  refine ⟨fun v => ⟨ofJson_toJson v, Ordered.toJson⟩, fun j => ?_⟩
  have hstray : (∃ e, ofJson j = .error e) ↔ ∃ n, j.Holds n ∧ n.IsStray := by
    constructor
    · rintro ⟨e, h⟩
      obtain ⟨n, hn, hstray, -⟩ := stray_of_error h
      exact ⟨n, hn, hstray⟩
    · rintro ⟨n, hn, hstray⟩
      exact exists_error_of_stray hn hstray
  refine ⟨hstray, fun e h => stray_of_error h, ofJson_eq_none, fun hnull hno => ?_⟩
  rw [← hstray] at hno
  cases h : ofJson j with
  | error e => exact absurd ⟨e, h⟩ hno
  | ok o =>
    cases o with
    | none => exact absurd (ofJson_eq_none.mp h) hnull
    | some v => exact ⟨v, rfl, toJson_of_ofJson h, ordered_of_ofJson h⟩

/-- A list with nulls and a number, and one with a number too large. -/
theorem conversion_of_nulls :
    let list (n : Int) : Json := .arr [.str "10.0.0.0/8", .null,
      .obj [("a", .null), ("b", .int n), ("c", .arr [.null])], .bool true]
    let large : Int := 0x8000000000000000
    (∃ v, ofJson (list (-4)) = .ok (some v) ∧ v.toJson = .arr [.str "10.0.0.0/8",
      .obj [("b", .int (-4)), ("c", .arr [])], .bool true]) ∧
    (list large).Holds (.int large) ∧ (Json.int large).IsStray ∧
    ∃ e, ofJson (list large) = .error e := by
  intro list large
  have hholds : (list large).Holds (.int large) :=
    .item (.tail _ (.tail _ (.head _))) (.member (.tail _ (.head _)) (.self _))
  have hstray : (Json.int large).IsStray := .int (by decide)
  obtain ⟨-, hread⟩ := conversion_faithful
  obtain ⟨herror, -, -, -⟩ := hread (list large)
  obtain ⟨hno, -, -, hvalue⟩ := hread (list (-4))
  have hclean : ¬ ∃ n, (list (-4)).Holds n ∧ n.IsStray := by
    rw [← hno]
    rintro ⟨e, he⟩
    cases he
  obtain ⟨v, hv, hjson, -⟩ := hvalue nofun hclean
  exact ⟨⟨v, hv, hjson⟩, hholds, hstray, herror.mpr ⟨_, hholds, hstray⟩⟩

end Value

end CloudProvider
