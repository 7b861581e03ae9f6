import CloudProvider.Proofs.Completeness
import CloudProvider.Proofs.Validation

/-!
# Filters of a command line

An id, a name and further filters make the query of a data source. Of what a data source does not
declare, an id and a filter are refused, and a name is not.

* `Cli.Argument`: the arguments that filter, in the order in which they count.
* `Cli.Argument.Sets`, `Cli.Argument.Refused`: what an argument sets, and why it is refused.
* `Cli.Argument.LastSets`, `Cli.Argument.FirstRefused`: which of several arguments counts.
* **`Cli.query_exact`**: the query that a command line makes, and whether the data source declares
  all that it asks for.
-/

namespace CloudProvider.Cli

open Http (Exchange)

/-! ## Arguments -/

/-- An argument that filters what a data source gives. -/
inductive Argument where
  | id (s : String)
  | name (s : String)
  | filter (s : String)

namespace Argument

variable {kind : SourceKind} {arg : Argument} {args : List Argument} {fault : Fault}
  {key : String} {v : Value}

/-- The arguments of a command line, in the order in which they count. -/
def all (id name : Option String) (filters : List String) : List Argument :=
  id.toList.map .id ++ name.toList.map .name ++ filters.map .filter

/-- **What an argument sets**: an attribute to a text, or to an integer if that is declared. -/
inductive Sets (kind : SourceKind) : Argument → String → Value → Prop
  | id {key s : String} (h : idFilter? kind = some key) : Sets kind (.id s) key (.text s)
  | name (s : String) : Sets kind (.name s) "name" (.text s)
  | text {key raw : String} {a : Attribute} (hkey : '=' ∉ key.toList)
      (ha : kind.schema.attributes.get? key = some a) (htype : isInteger a.type = false) :
      Sets kind (.filter (key ++ "=" ++ raw)) key (.text raw)
  | integer {key raw : String} {a : Attribute} {n : Int64} (hkey : '=' ∉ key.toList)
      (ha : kind.schema.attributes.get? key = some a) (htype : isInteger a.type = true)
      (hn : Text.integer? raw = some n) : Sets kind (.filter (key ++ "=" ++ raw)) key (.int n)

/-- **Why an argument is refused**: it names no attribute that the data source declares, or its
value is not of the declared type. -/
inductive Refused (kind : SourceKind) : Argument → Fault → Prop
  | id {s : String} (h : idFilter? kind = none) : Refused kind (.id s) (.noIdFilter kind.name)
  | malformed {s : String} (h : '=' ∉ s.toList) : Refused kind (.filter s) (.badFilter s)
  | unknown {key raw : String} (hkey : '=' ∉ key.toList)
      (ha : key ∉ kind.schema.attributes.keys) :
      Refused kind (.filter (key ++ "=" ++ raw)) (.unknownFilter key kind.name)
  | noInteger {key raw : String} {a : Attribute} (hkey : '=' ∉ key.toList)
      (ha : kind.schema.attributes.get? key = some a) (htype : isInteger a.type = true)
      (hn : Text.integer? raw = none) :
      Refused kind (.filter (key ++ "=" ++ raw)) (.filterNoInteger key raw)

/-- What the last of some arguments sets that sets an attribute. -/
def LastSets (kind : SourceKind) (args : List Argument) (key : String) (v : Value) : Prop :=
  ∃ front arg back, args = front ++ arg :: back ∧ Sets kind arg key v ∧
    ∀ later ∈ back, ∀ w, ¬ Sets kind later key w

/-- Why the first of some arguments is refused that is refused. -/
def FirstRefused (kind : SourceKind) (args : List Argument) (fault : Fault) : Prop :=
  ∃ front arg back, args = front ++ arg :: back ∧ Refused kind arg fault ∧
    ∀ earlier ∈ front, ∃ key v, Sets kind earlier key v

/-- What an argument is read as. -/
def read (kind : SourceKind) : Argument → Except Fault (String × Value)
  | .id s => filterById kind s
  | .name s => .ok ("name", .text s)
  | .filter s => Cli.filter kind.schema s

theorem cut?_eq_none {s : String} : Text.cut? '=' s = none ↔ '=' ∉ s.toList := by
  constructor
  · intro h hmem
    obtain ⟨front, back, hs, hfront⟩ := List.eq_append_cons_of_mem hmem
    have hcut : Text.cut? '=' s = some (String.ofList front, String.ofList back) := by
      refine Text.cut?_eq_some.mpr ⟨by rwa [String.toList_ofList], ?_⟩
      rw [← String.toList_inj, hs]
      simp
    cases h.symm.trans hcut
  · intro h
    cases hcut : Text.cut? '=' s with
    | none => rfl
    | some parts =>
      obtain ⟨-, hs⟩ := Text.cut?_eq_some.mp hcut
      refine absurd ?_ h
      rw [hs]
      simp

theorem Sets.read_eq (h : Sets kind arg key v) : read kind arg = .ok (key, v) := by
  cases h with
  | id h => simp [read, filterById, h]
  | name s => rfl
  | @text _ raw a hkey ha htype =>
    have hcut : Text.cut? '=' (key ++ "=" ++ raw) = some (key, raw) :=
      Text.cut?_eq_some.mpr ⟨hkey, rfl⟩
    simp [read, Cli.filter, hcut, ha, htype]
  | @integer _ raw a n hkey ha htype hn =>
    have hcut : Text.cut? '=' (key ++ "=" ++ raw) = some (key, raw) :=
      Text.cut?_eq_some.mpr ⟨hkey, rfl⟩
    simp [read, Cli.filter, hcut, ha, htype, hn]

theorem Refused.read_eq (h : Refused kind arg fault) : read kind arg = .error fault := by
  cases h with
  | id h => simp [read, filterById, h]
  | malformed h => simp [read, Cli.filter, cut?_eq_none.mpr h]
  | @unknown key raw hkey ha =>
    have hcut : Text.cut? '=' (key ++ "=" ++ raw) = some (key, raw) :=
      Text.cut?_eq_some.mpr ⟨hkey, rfl⟩
    simp [read, Cli.filter, hcut, Fields.get?_eq_none ha, SourceKind.name]
  | @noInteger key raw a hkey ha htype hn =>
    have hcut : Text.cut? '=' (key ++ "=" ++ raw) = some (key, raw) :=
      Text.cut?_eq_some.mpr ⟨hkey, rfl⟩
    simp [read, Cli.filter, hcut, ha, htype, hn]

theorem sets_or_refused (kind : SourceKind) (arg : Argument) :
    (∃ key v, Sets kind arg key v) ∨ ∃ fault, Refused kind arg fault := by
  cases arg with
  | id s =>
    cases h : idFilter? kind with
    | none => exact .inr ⟨_, .id h⟩
    | some key => exact .inl ⟨_, _, .id h⟩
  | name s => exact .inl ⟨_, _, .name s⟩
  | filter s =>
    cases hcut : Text.cut? '=' s with
    | none => exact .inr ⟨_, .malformed (cut?_eq_none.mp hcut)⟩
    | some parts =>
      obtain ⟨key, raw⟩ := parts
      obtain ⟨hkey, rfl⟩ := Text.cut?_eq_some.mp hcut
      cases ha : kind.schema.attributes.get? key with
      | none => exact .inr ⟨_, .unknown hkey (Fields.get?_eq_none_iff.mp ha)⟩
      | some a =>
        cases htype : isInteger a.type with
        | false => exact .inl ⟨_, _, .text hkey ha htype⟩
        | true =>
          cases hn : Text.integer? raw with
          | none => exact .inr ⟨_, .noInteger hkey ha htype hn⟩
          | some n => exact .inl ⟨_, _, .integer hkey ha htype hn⟩

theorem read_eq_ok : read kind arg = .ok (key, v) ↔ Sets kind arg key v := by
  refine ⟨fun h => ?_, Sets.read_eq⟩
  rcases sets_or_refused kind arg with ⟨key', v', hsets⟩ | ⟨fault, hrefused⟩
  · obtain ⟨rfl, rfl⟩ := Prod.mk.inj (Except.ok.inj (hsets.read_eq.symm.trans h))
    exact hsets
  · cases hrefused.read_eq.symm.trans h

theorem read_eq_error : read kind arg = .error fault ↔ Refused kind arg fault := by
  refine ⟨fun h => ?_, Refused.read_eq⟩
  rcases sets_or_refused kind arg with ⟨key', v', hsets⟩ | ⟨fault', hrefused⟩
  · cases hsets.read_eq.symm.trans h
  · obtain rfl := Except.error.inj (hrefused.read_eq.symm.trans h)
    exact hrefused

/-! ## Several arguments -/

theorem firstRefused_of_read (h : args.mapM (read kind) = .error fault) :
    FirstRefused kind args fault := by
  induction args with
  | nil => cases h
  | cons arg rest ih =>
    rw [List.mapM_cons] at h
    cases harg : read kind arg with
    | error fault' =>
      rw [harg] at h
      obtain rfl : fault' = fault := Except.error.inj h
      exact ⟨[], arg, rest, rfl, read_eq_error.mp harg, nofun⟩
    | ok p =>
      rw [harg] at h
      cases hrest : rest.mapM (read kind) with
      | ok ps =>
        rw [hrest] at h
        cases h
      | error fault' =>
        rw [hrest] at h
        obtain rfl : fault' = fault := Except.error.inj h
        obtain ⟨front, refused, back, rfl, hrefused, hfront⟩ := ih hrest
        refine ⟨arg :: front, refused, back, rfl, hrefused, ?_⟩
        exact List.forall_mem_cons.mpr ⟨⟨_, _, read_eq_ok.mp harg⟩, hfront⟩

theorem lastSets_append_singleton : LastSets kind (args ++ [arg]) key v ↔
    Sets kind arg key v ∨ LastSets kind args key v ∧ ∀ w, ¬ Sets kind arg key w := by
  constructor
  · rintro ⟨front, setting, back, hargs, hsets, hback⟩
    rcases List.eq_nil_or_concat back with rfl | ⟨back, last, rfl⟩
    · obtain ⟨-, hlast⟩ := List.append_inj' hargs rfl
      exact .inl ((List.cons.inj hlast).1 ▸ hsets)
    · rw [List.concat_eq_append, ← List.cons_append, ← List.append_assoc] at hargs
      obtain ⟨rfl, hlast⟩ := List.append_inj' hargs rfl
      obtain ⟨rfl, -⟩ := List.cons.inj hlast
      rw [List.concat_eq_append, List.forall_mem_append] at hback
      exact .inr ⟨⟨front, setting, back, rfl, hsets, hback.1⟩, hback.2 _ List.mem_cons_self⟩
  · rintro (hsets | ⟨⟨front, setting, back, rfl, hsets, hback⟩, hlast⟩)
    · exact ⟨args, arg, [], rfl, hsets, nofun⟩
    · refine ⟨front, setting, back ++ [arg], by rw [List.append_assoc]; rfl, hsets, ?_⟩
      exact List.forall_mem_append.mpr ⟨hback, List.forall_mem_singleton.mpr hlast⟩

theorem exists_lastSets (harg : arg ∈ args) (h : Sets kind arg key v) :
    ∃ w, LastSets kind args key w := by
  induction args using List.reverseRecOn with
  | nil => cases harg
  | append_singleton args last ih =>
    by_cases hlast : ∃ w, Sets kind last key w
    · obtain ⟨w, hw⟩ := hlast
      exact ⟨w, lastSets_append_singleton.mpr (.inl hw)⟩
    · rcases List.mem_append.mp harg with harg | harg
      · obtain ⟨w, hw⟩ := ih harg
        exact ⟨w, lastSets_append_singleton.mpr (.inr ⟨hw, not_exists.mp hlast⟩)⟩
      · obtain rfl := List.mem_singleton.mp harg
        exact absurd ⟨v, h⟩ hlast

/-- **The last argument that sets an attribute decides its value.** -/
theorem get?_ofList_iff {pairs : List (String × Value)} (h : args.mapM (read kind) = .ok pairs) :
    (Fields.ofList pairs).get? key = some v ↔ LastSets kind args key v := by
  induction args using List.reverseRecOn generalizing pairs with
  | nil =>
    cases h
    refine iff_of_false nofun ?_
    rintro ⟨front, arg, back, hargs, -⟩
    exact List.append_ne_nil_of_right_ne_nil front (List.cons_ne_nil arg back) hargs.symm
  | append_singleton args arg ih =>
    rw [List.mapM_append] at h
    obtain ⟨ps, hps, h⟩ := except_bind_eq_ok.mp h
    obtain ⟨last, hlast, h⟩ := except_bind_eq_ok.mp h
    rw [List.mapM_cons, List.mapM_nil] at hlast
    obtain ⟨⟨k, w⟩, hread, hlast⟩ := except_bind_eq_ok.mp hlast
    obtain rfl := Except.ok.inj hlast
    obtain rfl := Except.ok.inj h
    have hsets (key : String) (v : Value) : Sets kind arg key v ↔ key = k ∧ v = w := by
      rw [← read_eq_ok, hread, Except.ok.injEq, Prod.mk.injEq, eq_comm, eq_comm (a := w)]
    rw [Fields.ofList_append, Fields.get?_insert, lastSets_append_singleton, ← ih hps]
    simp only [hsets]
    by_cases hkey : key = k
    · simp [hkey, eq_comm]
    · simp [hkey]

theorem exists_sets_of_read {pairs : List (String × Value)}
    (h : args.mapM (read kind) = .ok pairs) : ∀ arg ∈ args, ∃ key v, Sets kind arg key v := by
  induction args generalizing pairs with
  | nil => exact nofun
  | cons arg rest ih =>
    rw [List.mapM_cons] at h
    obtain ⟨p, hp, h⟩ := except_bind_eq_ok.mp h
    obtain ⟨ps, hps, -⟩ := except_bind_eq_ok.mp h
    exact List.forall_mem_cons.mpr ⟨⟨p.1, p.2, read_eq_ok.mp hp⟩, ih hps⟩

theorem idFilter_declared (h : idFilter? kind = some key) :
    key ∈ kind.schema.attributes.keys := by
  have hall : (idFilter? kind).all (fun key => key ∈ kind.schema.attributes.keys) = true := by
    cases kind <;> decide
  rw [h] at hall
  exact of_decide_eq_true hall

theorem Sets.declared (h : Sets kind arg key v) :
    key ∈ kind.schema.attributes.keys ∨ key = "name" ∧ ∃ s, arg = .name s := by
  cases h with
  | id h => exact .inl (idFilter_declared h)
  | name s => exact .inr ⟨rfl, s, rfl⟩
  | text _ ha _ => exact .inl (Fields.isSome_get?_iff.mp (by rw [ha]; rfl))
  | integer _ ha _ _ => exact .inl (Fields.isSome_get?_iff.mp (by rw [ha]; rfl))

theorem mem_all_name {id name : Option String} {filters : List String} {s : String} :
    .name s ∈ all id name filters ↔ name = some s := by
  simp [all]

/-- **The arguments set what is declared**, but for a name that is not. -/
theorem lastSets_declared_iff {id name : Option String} {filters : List String} :
    (∀ key v, LastSets kind (all id name filters) key v → key ∈ kind.schema.attributes.keys) ↔
      (name.isSome = true → "name" ∈ kind.schema.attributes.keys) := by
  constructor
  · intro h hname
    obtain ⟨s, hs⟩ := Option.isSome_iff_exists.mp hname
    obtain ⟨w, hw⟩ := exists_lastSets (mem_all_name.mpr hs) (Sets.name s)
    exact h _ w hw
  · rintro h key v ⟨front, arg, back, hargs, hsets, -⟩
    rcases hsets.declared with hdeclared | ⟨rfl, s, rfl⟩
    · exact hdeclared
    · have hmem : .name s ∈ all id name filters := by
        rw [hargs]
        exact List.mem_append_right front List.mem_cons_self
      exact h (Option.isSome_iff_exists.mpr ⟨s, mem_all_name.mp hmem⟩)

end Argument

theorem query_eq (kind : SourceKind) (id name : Option String) (filters : List String) :
    query kind id name filters = ((Argument.all id name filters).mapM (Argument.read kind)).map
      fun pairs => { id := ⟨kind.name, queryName⟩, attributes := Fields.ofList pairs,
                     readOnly := true } := by
  have hid : (id.toList.map .id).mapM (Argument.read kind) = id.toList.mapM (filterById kind) :=
    List.mapM_map
  have hname : (name.toList.map .name).mapM (Argument.read kind) =
      .ok (name.toList.map fun s => ("name", .text s)) := by
    cases name <;> rfl
  have hfilters : (filters.map .filter).mapM (Argument.read kind) =
      filters.mapM (filter kind.schema) := List.mapM_map
  rw [query, Argument.all, List.mapM_append, List.mapM_append, hid, hname, hfilters]
  cases id.toList.mapM (filterById kind) with
  | error fault => rfl
  | ok byId =>
    cases filters.mapM (filter kind.schema) with
    | error fault => rfl
    | ok others => rfl

/-! ## Commands -/

theorem kindOf_sourceKind (kind : SourceKind) : kindOf kind.name = .ok (.source kind) := by
  cases kind <;> decide

/-- **A command that puts a query to the provider**, and prints the state that it gives. -/
def Surroundings.asking (s : Surroundings) (config : Option String) (q : Resource) :
    Exchange Outcome := do
  let op : Session String := do
    let state ← s.perform config fun settings => Provider.query settings q
    return Report.state s.palette state
  return Outcome.ofResult s.palette (← op.run)

theorem run_list (s : Surroundings) (config : Option String) (kind : SourceKind)
    (id name : Option String) (filters : List String) :
    run s ⟨config, .list kind.name id name filters⟩ =
      match query kind id name filters with
      | .ok q => s.asking config q
      | .error fault => .done (.ofResult s.palette (.error fault)) := by
  have hlist : execute s ⟨config, .list kind.name id name filters⟩ = (do
      let q ← (liftM (query kind id name filters) : Session Resource)
      let state ← s.perform config fun settings => Provider.query settings q
      return Report.state s.palette state) := by
    change s.list config kind.name id name filters = _
    rw [Surroundings.list, kindOf_sourceKind]
    rfl
  rw [run, hlist]
  cases query kind id name filters with
  | error fault => rfl
  | ok q => rfl

/-- **What becomes of the filters of a command line.** If one is refused, the command fails with
the first of them and asks nothing. Otherwise the query of the data source has what the last
argument for each attribute sets, and nothing else. All of it is declared, unless a name is given to
a data source that does not declare one: no other argument for an attribute that is not declared
gets so far. -/
theorem query_exact (s : Surroundings) (config : Option String) (kind : SourceKind)
    (id name : Option String) (filters : List String) :
    let command : Command := .list kind.name id name filters
    let arguments := Argument.all id name filters
    match query kind id name filters with
    | .error fault => run s ⟨config, command⟩ = .done (.ofResult s.palette (.error fault)) ∧
        Argument.FirstRefused kind arguments fault
    | .ok q => run s ⟨config, command⟩ = s.asking config q ∧
        q.id = ⟨kind.name, queryName⟩ ∧ q.readOnly = true ∧
        (∀ arg ∈ arguments, ∃ key v, Argument.Sets kind arg key v) ∧
        (∀ key v, q.attributes.get? key = some v ↔ Argument.LastSets kind arguments key v) ∧
        ((∀ key ∈ q.attributes.keys, key ∈ kind.schema.attributes.keys) ↔
          (name.isSome = true → "name" ∈ kind.schema.attributes.keys)) := by
  intro command arguments
  have hrun := run_list s config kind id name filters
  have hquery := query_eq kind id name filters
  cases hread : arguments.mapM (Argument.read kind) with
  | error fault =>
    have herror : query kind id name filters = .error fault := hquery.trans (by rw [hread]; rfl)
    rw [herror] at hrun ⊢
    exact ⟨hrun, Argument.firstRefused_of_read hread⟩
  | ok pairs =>
    have hok : query kind id name filters =
        .ok { id := ⟨kind.name, queryName⟩, attributes := Fields.ofList pairs, readOnly := true } :=
      hquery.trans (by rw [hread]; rfl)
    have hget (key : String) (v : Value) : (Fields.ofList pairs).get? key = some v ↔
        Argument.LastSets kind arguments key v := Argument.get?_ofList_iff hread
    rw [hok] at hrun ⊢
    refine ⟨hrun, rfl, rfl, Argument.exists_sets_of_read hread, hget, ?_⟩
    have hdeclared : (∀ key v, Argument.LastSets kind arguments key v →
        key ∈ kind.schema.attributes.keys) ↔
        (name.isSome = true → "name" ∈ kind.schema.attributes.keys) :=
      Argument.lastSets_declared_iff
    refine Iff.trans ⟨fun h key v hv => ?_, fun h key hkey => ?_⟩ hdeclared
    · have hsome : (Fields.ofList pairs).get? key = some v := (hget key v).mpr hv
      exact h key (Fields.isSome_get?_iff.mp (Option.isSome_iff_exists.mpr ⟨v, hsome⟩))
    · obtain ⟨v, hv⟩ := Option.isSome_iff_exists.mp (Fields.isSome_get?_iff.mpr hkey)
      exact h key v ((hget key v).mp hv)

/-- **A name is passed on to a data source without names.** -/
theorem zone_name_dropped :
    ∃ q : Resource, query .zoneConfig none (some "n") [] = .ok q ∧
      (∀ s config, run s ⟨config, .list "mysql_zone_config" none (some "n") []⟩ =
        s.asking config q) ∧
      "name" ∈ q.attributes.keys ∧ "name" ∉ SourceKind.zoneConfig.schema.attributes.keys := by
  refine ⟨_, rfl, fun s config => run_list s config .zoneConfig none (some "n") [],
    by decide, by decide⟩

end CloudProvider.Cli
