import CloudProvider.Proofs.Conformity
import CloudProvider.Proofs.Rejection

/-!
# What is admitted to the remote

Desired attributes are checked before anything happens. Those that are not allowed do not lead to a
call or to a log event.

* `Operation.Refuses`: whether an operation is over at once, with an error.
* `LifecycleKind.Admits`, `Schema.Keeps`: what is allowed, and what an update may not change.
* `Provider.refuses_create`, `Provider.refuses_update`, `Provider.refuses_query`: what is refused.
* **`Provider.asks_only_if_admitted`**: an operation asks the remote only if its resource is
  allowed, and otherwise tells what is wrong.
-/

namespace CloudProvider

open Operation

/-! ## Operations that are over at once -/

namespace Operation

variable {Q A α β : Type} {op : Operation Q A α} {e : Error}

/-- **Whether an operation is over at once**, with an error: it asks nothing, logs nothing and does
not wait. -/
def Refuses (op : Operation Q A α) (e : Error) : Prop := ExceptT.run op = .done (.error e)

theorem refuses_error_bind {x : Except Error α} {f : α → Operation Q A β} (hx : x = .error e) :
    Refuses ((liftM x : Operation Q A α) >>= f) e := by
  subst hx
  rfl

theorem refuses_ok_bind {x : Except Error α} {a : α} {f : α → Operation Q A β} (hx : x = .ok a) :
    Refuses ((liftM x : Operation Q A α) >>= f) e ↔ Refuses (f a) e := by
  subst hx
  rfl

theorem Refuses.onResource (h : Refuses op e) (id : ResourceId) :
    Refuses (op.onResource id) (e.forResource id) := by
  have ho : ExceptT.run (op.onResource id) =
      Except.mapError (fun e : Error => e.forResource id) <$> ExceptT.run op := rfl
  rw [Refuses, ho, h]
  rfl

theorem Refuses.against {σ : Type} (h : Refuses op e) (remote : Dialogue.Remote σ Q A) (s : σ) :
    op.against remote s = ⟨.error e, [], s⟩ := by
  rw [Operation.against, h]
  rfl

end Operation

/-! ## What is allowed -/

/-- **What a kind of resource allows**: attributes that its schema allows, and a route that leads
straight out names no gateway. -/
structure LifecycleKind.Admits (kind : LifecycleKind) (attributes : Attributes) : Prop where
  schema : kind.schema.Admits attributes
  together : kind = .routeEntry → attributes.get? "next_type" = some (.text "EIP") →
    attributes.get? "next_hub" = some (.text "0")

/-- **Whether what cannot be changed in place stays as it is**, as far as it is given. -/
def Schema.Keeps (schema : Schema) (current desired : Attributes) : Prop :=
  ∀ key a v, (key, a) ∈ schema.attributes → a.forceNew = true → desired.get? key = some v →
    current.get? key = some v

theorem Schema.replacements_eq_nil_iff_keeps {schema : Schema} {current desired : Attributes} :
    schema.replacements current desired = [] ↔ schema.Keeps current desired := by
  rw [replacements_eq_nil]
  exact ⟨fun h key a v ha hforce => h (key, a) ha hforce v,
    fun h d hd hforce v => h d.1 d.2 v hd hforce⟩

theorem Resource.text?_eq_some {r : Resource} {key s : String} (hs : s ≠ "") :
    r.text? key = some s ↔ r.attributes.get? key = some (.text s) := by
  refine ⟨fun h => ?_, fun h => Resource.text?_of_get? h hs⟩
  obtain ⟨h, -⟩ := Option.filter_eq_some_iff.mp h
  obtain ⟨v, hv, ht⟩ := Option.bind_eq_some_iff.mp h
  cases v with
  | text t => rw [hv, Option.some.inj ht]
  | _ => cases ht

namespace LifecycleKind

variable {settings : Settings} {kind : LifecycleKind} {r : Resource}

theorem check_eq_ok : (kind.lifecycle settings).check r = .ok () ↔
    (kind = .routeEntry → r.attributes.get? "next_type" = some (.text "EIP") →
      r.attributes.get? "next_hub" = some (.text "0")) := by
  cases kind with
  | routeEntry =>
    rw [← Resource.text?_eq_some (by decide : "EIP" ≠ ""),
      ← Resource.text?_eq_some (by decide : "0" ≠ "")]
    show Lifecycle.checkRouteEntry r = .ok () ↔ _
    rw [Lifecycle.checkRouteEntry]
    split_ifs with h
    · exact iff_of_false nofun fun hok => h.2 (hok rfl h.1)
    · exact iff_of_true rfl fun _ htype => by_contra fun hhub => h ⟨htype, hhub⟩
  | _ => exact iff_of_true rfl nofun

theorem exists_invalid_of_check {e : Error} (h : (kind.lifecycle settings).check r = .error e) :
    ∃ text, e = .invalid text := by
  cases kind with
  | routeEntry =>
    change Lifecycle.checkRouteEntry r = .error e at h
    rw [Lifecycle.checkRouteEntry] at h
    split_ifs at h
    exact ⟨_, (Except.error.inj h).symm⟩
  | _ => cases h

end LifecycleKind

theorem SourceKind.schema_nodup (kind : SourceKind) : kind.schema.attributes.keys.Nodup := by
  cases kind <;> decide +kernel

theorem SourceKind.ofName?_name (kind : SourceKind) : ofName? kind.name = some kind := by
  cases kind <;> decide +kernel

namespace Provider

variable {settings : Settings} {kind : LifecycleKind} {id : ResourceId} {r desired : Resource}

/-! ## Checks -/

theorem prepareFor_eq_ok {prepared : Resource} :
    prepareFor kind.schema (kind.lifecycle settings) r = .ok prepared ↔
      kind.Admits (kind.schema.withDefaults r.attributes) ∧
        prepared = { r with attributes := kind.schema.withDefaults r.attributes } := by
  rw [prepareFor, except_bind_eq_ok]
  simp only [prepare_eq_ok, Schema.violations_eq_nil_iff_admits kind.schema_nodup]
  constructor
  · rintro ⟨_, ⟨hadmits, rfl⟩, h⟩
    obtain ⟨_, hcheck, h⟩ := except_bind_eq_ok.mp h
    exact ⟨⟨hadmits, LifecycleKind.check_eq_ok.mp hcheck⟩, (Except.ok.inj h).symm⟩
  · rintro ⟨hadmits, rfl⟩
    refine ⟨_, ⟨hadmits.schema, rfl⟩, except_bind_eq_ok.mpr ⟨(), ?_, rfl⟩⟩
    exact LifecycleKind.check_eq_ok.mpr hadmits.together

/-- **A resource that is not allowed is not prepared.** -/
theorem exists_of_prepareFor_error {e : Error}
    (h : prepareFor kind.schema (kind.lifecycle settings) r = .error e) :
    ∃ text, e = .invalid text ∧ (¬ kind.schema.Admits (kind.schema.withDefaults r.attributes) →
      kind.schema.Lists r.attributes text) := by
  rw [prepareFor] at h
  cases hp : prepare kind.schema r with
  | error e' =>
    rw [hp] at h
    obtain rfl : e' = e := Except.error.inj h
    obtain ⟨-, text, rfl, hlists⟩ := prepare_eq_error kind.schema_nodup hp
    exact ⟨text, rfl, fun _ => hlists⟩
  | ok prepared =>
    have hadmits :=
      (Schema.violations_eq_nil_iff_admits kind.schema_nodup).mp (prepare_eq_ok.mp hp).1
    rw [hp] at h
    cases hc : (kind.lifecycle settings).check prepared with
    | ok _ =>
      simp only [bind, Except.bind, hc] at h
      cases h
    | error e' =>
      simp only [bind, Except.bind, hc] at h
      obtain rfl := Except.error.inj h
      obtain ⟨text, rfl⟩ := LifecycleKind.exists_invalid_of_check hc
      exact ⟨text, rfl, fun hnot => absurd hadmits hnot⟩

theorem exists_of_checkReplacements_error {current : State} {e : Error}
    (h : checkReplacements kind.schema current desired = .error e) : ∃ text, e = .invalid text := by
  rw [checkReplacements] at h
  split at h
  · cases h
  · exact ⟨_, (Except.error.inj h).symm⟩

/-! ## Refused operations -/

theorem sourceKind_of_type {kind : SourceKind} (hid : id.type = kind.name) :
    sourceKind id = .ok kind := by
  rw [sourceKind, hid, kind.ofName?_name]

theorem refuses_create {e : Error} (hid : r.id.type = kind.name)
    (h : prepareFor kind.schema (kind.lifecycle settings) r = .error e) :
    Refuses (create settings r) (e.forResource r.id) := by
  refine Refuses.onResource ?_ r.id
  exact (refuses_ok_bind (lifecycleKind_of_type hid)).mpr (refuses_error_bind h)

theorem refuses_update {identifier : String} {current : State} {e : Error}
    (hid : id.type = kind.name)
    (h : prepareFor kind.schema (kind.lifecycle settings) desired = .error e ∨
      ∃ prepared, prepareFor kind.schema (kind.lifecycle settings) desired = .ok prepared ∧
        checkReplacements kind.schema current prepared = .error e) :
    Refuses (update settings id identifier current desired) (e.forResource id) := by
  refine Refuses.onResource ?_ id
  refine (refuses_ok_bind (lifecycleKind_of_type hid)).mpr ?_
  rcases h with h | ⟨prepared, hprepared, h⟩
  · exact refuses_error_bind h
  · exact (refuses_ok_bind hprepared).mpr (refuses_error_bind h)

theorem refuses_query {kind : SourceKind} {e : Error} (hid : r.id.type = kind.name)
    (h : prepare kind.schema r = .error e) :
    Refuses (query settings r) (e.forResource r.id) := by
  refine Refuses.onResource ?_ r.id
  exact (refuses_ok_bind (sourceKind_of_type hid)).mpr (refuses_error_bind h)

/-! ## Admitted operations -/

/-- **Whether a run keeps to what is allowed.** It asks the remote only if `allowed` holds. If not,
then nothing happens in it, and its error concerns the resource; if a schema does not allow the
attributes and the defaults, the error lists what is wrong. -/
structure Gated {σ α : Type} (allowed : Prop) (id : ResourceId) (schema : Schema)
    (given : Attributes) (start : σ) (run : Dialogue.Run σ Call Reply (Except Error α)) : Prop where
  asks : run.questions ≠ [] → allowed
  refuses : ¬ allowed → ∃ text, run = ⟨.error ⟨.invalid text, some id⟩, [], start⟩ ∧
    (¬ schema.Admits (schema.withDefaults given) → schema.Lists given text)

theorem gated_of_refuses {σ α : Type} {op : Api α} {remote : Dialogue.Remote σ Call Reply}
    {start : σ} {allowed : Prop} {schema : Schema} {given : Attributes}
    (h : ¬ allowed → ∃ text, Refuses op ⟨.invalid text, some id⟩ ∧
      (¬ schema.Admits (schema.withDefaults given) → schema.Lists given text)) :
    Gated allowed id schema given start (op.against remote start) := by
  have hrun : ¬ allowed → ∃ text, op.against remote start =
      ⟨.error ⟨.invalid text, some id⟩, [], start⟩ ∧
      (¬ schema.Admits (schema.withDefaults given) → schema.Lists given text) := by
    intro hnot
    obtain ⟨text, hrefuses, hlists⟩ := h hnot
    exact ⟨text, hrefuses.against remote start, hlists⟩
  refine ⟨fun hasks => ?_, hrun⟩
  by_contra hnot
  obtain ⟨text, hrun, -⟩ := hrun hnot
  rw [hrun] at hasks
  exact hasks rfl

/-- **Only allowed resources get to the remote.** A create asks it something only if the desired
attributes and the defaults are allowed, an update only if moreover what cannot be changed in place
stays as it is, and a data source only if its schema allows its attributes. Otherwise nothing
happens, and the error tells what is wrong. -/
theorem asks_only_if_admitted (settings : Settings) {σ : Type}
    (remote : Dialogue.Remote σ Call Reply) (start : σ) :
    (∀ (kind : LifecycleKind) (r : Resource), r.id.type = kind.name →
      Gated (kind.Admits (kind.schema.withDefaults r.attributes)) r.id kind.schema r.attributes
        start ((create settings r).against remote start)) ∧
    (∀ (kind : LifecycleKind) (id : ResourceId) (identifier : String) (current : State)
      (desired : Resource), id.type = kind.name →
      Gated (kind.Admits (kind.schema.withDefaults desired.attributes) ∧
          kind.schema.Keeps current.attributes (kind.schema.withDefaults desired.attributes))
        id kind.schema desired.attributes start
        ((update settings id identifier current desired).against remote start)) ∧
    (∀ (kind : SourceKind) (r : Resource), r.id.type = kind.name →
      Gated (kind.schema.Admits (kind.schema.withDefaults r.attributes)) r.id kind.schema
        r.attributes start ((query settings r).against remote start)) := by
  refine ⟨fun kind r hid => ?_, fun kind id identifier current desired hid => ?_,
    fun kind r hid => ?_⟩
  · refine gated_of_refuses fun hnot => ?_
    cases hp : prepareFor kind.schema (kind.lifecycle settings) r with
    | ok prepared => exact absurd (prepareFor_eq_ok.mp hp).1 hnot
    | error e =>
      obtain ⟨text, rfl, hlists⟩ := exists_of_prepareFor_error hp
      exact ⟨text, refuses_create hid hp, hlists⟩
  · refine gated_of_refuses fun hnot => ?_
    cases hp : prepareFor kind.schema (kind.lifecycle settings) desired with
    | error e =>
      obtain ⟨text, rfl, hlists⟩ := exists_of_prepareFor_error hp
      exact ⟨text, refuses_update hid (.inl hp), hlists⟩
    | ok prepared =>
      obtain ⟨hadmits, hprepared⟩ := prepareFor_eq_ok.mp hp
      cases hc : checkReplacements kind.schema current prepared with
      | ok _ =>
        have hkeeps := Schema.replacements_eq_nil_iff_keeps.mp (checkReplacements_eq_ok.mp hc)
        rw [hprepared] at hkeeps
        exact absurd ⟨hadmits, hkeeps⟩ hnot
      | error e =>
        obtain ⟨text, rfl⟩ := exists_of_checkReplacements_error hc
        -- What would have to be replaced is looked at only once the schema allows the rest.
        refine ⟨text, refuses_update hid (.inr ⟨prepared, hp, hc⟩), fun hschema => ?_⟩
        exact absurd hadmits.schema hschema
  · refine gated_of_refuses fun hnot => ?_
    cases hp : prepare kind.schema r with
    | ok prepared =>
      have hnone := (prepare_eq_ok.mp hp).1
      exact absurd ((Schema.violations_eq_nil_iff_admits kind.schema_nodup).mp hnone) hnot
    | error e =>
      obtain ⟨-, text, rfl, hlists⟩ := prepare_eq_error kind.schema_nodup hp
      exact ⟨text, refuses_query hid hp, fun _ => hlists⟩

/-- Privileges that name no instance and a privilege that there is none of. -/
def strayPrivileges : Resource where
  id := ⟨"mysql_privilege", "app"⟩
  attributes := .ofList
    [("account_name", .text "app"), ("database_name", .text "shop"),
     ("privileges", .texts ["SELECT", "FLY"])]

/-- The privileges with an instance, and without the stray one. -/
def shopPrivileges : Resource where
  id := ⟨"mysql_privilege", "app"⟩
  attributes := .ofList
    [("mysql_id", .text "cdb-1"), ("account_name", .text "app"), ("database_name", .text "shop"),
     ("privileges", .texts ["SELECT"])]

/-- **The stray privileges are refused** before anything happens. -/
theorem strayPrivileges_refused :
    let kind := LifecycleKind.privilege
    let run := fun r => (create ⟨"ap-guangzhou", 20, ⟨3, 1⟩⟩ r).against
      (Dialogue.scripted fun _ => .ok .null) []
    strayPrivileges.id.type = kind.name ∧ shopPrivileges.id.type = kind.name ∧
      ¬ kind.Admits (kind.schema.withDefaults strayPrivileges.attributes) ∧
      (run strayPrivileges).trace = [] ∧
      (∃ text, (run strayPrivileges).result = .error ⟨.invalid text, some strayPrivileges.id⟩ ∧
        kind.schema.Lists strayPrivileges.attributes text) ∧
      (run shopPrivileges).questions.map (fun q => q.action) = [.modifyAccountPrivileges] ∧
      kind.Admits (kind.schema.withDefaults shopPrivileges.attributes) := by
  intro kind run
  have hid : strayPrivileges.id.type = kind.name := by decide +kernel
  have hschema : ¬ kind.schema.Admits (kind.schema.withDefaults strayPrivileges.attributes) := by
    rw [← Schema.violations_eq_nil_iff_admits kind.schema_nodup, Schema.violations_eq_nil]
    decide +kernel
  have hnot : ¬ kind.Admits (kind.schema.withDefaults strayPrivileges.attributes) :=
    fun h => hschema h.schema
  have hasked : (run shopPrivileges).questions.map (fun q => q.action) =
      [.modifyAccountPrivileges] := by
    decide +kernel
  have hgated := (asks_only_if_admitted ⟨"ap-guangzhou", 20, ⟨3, 1⟩⟩
    (Dialogue.scripted fun _ => .ok .null) []).1
  obtain ⟨text, hrun, hlists⟩ := (hgated kind strayPrivileges hid).refuses hnot
  refine ⟨hid, hid, hnot, ?_, ⟨text, ?_, hlists hschema⟩, hasked, ?_⟩
  · exact congrArg Dialogue.Run.trace hrun
  · exact congrArg Dialogue.Run.result hrun
  · refine (hgated kind shopPrivileges hid).asks fun hnone => ?_
    change List.map _ (run shopPrivileges).questions = _ at hasked
    rw [hnone] at hasked
    cases hasked

end Provider

end CloudProvider
