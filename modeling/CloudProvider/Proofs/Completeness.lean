import CloudProvider.Proofs.Attribution
import CloudProvider.Proofs.Shape

/-!
# Every outcome is complete

Whatever the remote answers, an operation on a resource ends with an error that names the resource,
or with a state that says all that its schema declares.

* `Operation.Ensures`: whether an operation that goes well gives nothing but results of some kind.
* **`Lifecycle.reports_read`**, **`DataSource.isFound_dataSource`**: what is read of an entity, and
  what a data source finds, is declared.
* `SourceKind.identifier`: what a query is told by.
* `State.Presents`: whether a state says all about a resource.
* **`Provider.outcome_complete`**: the outcomes of all operations.
-/

namespace CloudProvider

open Operation Api

/-! ## Results of some kind -/

namespace Operation

variable {Q A α β : Type} {P : β → Prop}

/-- **Whether an operation that goes well gives nothing but results of some kind.** -/
def Ensures (P : α → Prop) (op : Operation Q A α) : Prop := ∀ ex a, Yields op ex (.ok a) → P a

theorem ensures_pure {b : β} (h : P b) : Ensures P (pure b : Operation Q A β) := by
  intro ex b' hy
  rw [Except.ok.inj (yields_pure.mp hy).2]
  exact h

theorem ensures_throw {e : Error} : Ensures P (throw e : Operation Q A β) := by
  intro ex b hy
  cases (yields_throw.mp hy).2

theorem Ensures.bind {R : α → Prop} {op : Operation Q A α} {f : α → Operation Q A β}
    (h : Ensures R op) (hf : ∀ a, R a → Ensures P (f a)) : Ensures P (op >>= f) := by
  intro ex b hy
  rcases yields_bind.mp hy with ⟨_, -, he⟩ | ⟨ex₁, a, ex₂, -, h₁, h₂⟩
  · cases he
  · exact hf a (h ex₁ a h₁) ex₂ b h₂

theorem ensures_bind {op : Operation Q A α} {f : α → Operation Q A β}
    (hf : ∀ a, Ensures P (f a)) : Ensures P (op >>= f) :=
  Ensures.bind (R := fun _ => True) (fun _ _ _ => trivial) fun a _ => hf a

end Operation

theorem Api.ensures_orIfNotFound {α : Type} {P : α → Prop} {service : Service} {op : Api α}
    {absent : α} (h : Ensures P op) (habsent : P absent) :
    Ensures P (orIfNotFound service op absent) := by
  intro ex a hy
  obtain ⟨x, hx, ha⟩ := yields_orIfNotFound.mp hy
  rcases ifNotFound_eq_ok.mp ha.symm with rfl | ⟨rfl, -⟩
  · exact h ex a hx
  · exact habsent

/-! ## What is read of an entity -/

namespace Lifecycle

open Catalog

variable {settings : Settings} {pageSize : UInt64}

theorem reports_vpc (v : Network.Vpc) : vpcSchema.Reports v.attributes := by
  refine Schema.reports_ofList ?_
  simp only [List.forall_mem_cons]
  exact ⟨⟨.text, by decide +kernel, .text _⟩, ⟨.text, by decide +kernel, .text _⟩,
    ⟨.list .text, by decide +kernel, Value.hasShape_texts _⟩, ⟨.bool, by decide +kernel, .bool _⟩,
    ⟨.bool, by decide +kernel, .bool _⟩, ⟨.text, by decide +kernel, .text _⟩, nofun⟩

theorem reports_subnet (s : Network.Subnet) : subnetSchema.Reports s.attributes := by
  refine Schema.reports_ofList ?_
  simp only [List.forall_mem_cons]
  exact ⟨⟨.text, by decide +kernel, .text _⟩, ⟨.text, by decide +kernel, .text _⟩,
    ⟨.text, by decide +kernel, .text _⟩, ⟨.text, by decide +kernel, .text _⟩,
    ⟨.bool, by decide +kernel, .bool _⟩, ⟨.text, by decide +kernel, .text _⟩,
    ⟨.bool, by decide +kernel, .bool _⟩, ⟨.int, by decide +kernel, .int _⟩,
    ⟨.text, by decide +kernel, .text _⟩, nofun⟩

theorem reports_routeTable (t : Network.RouteTable) : routeTableSchema.Reports t.attributes := by
  refine Schema.reports_ofList ?_
  simp only [List.forall_mem_cons]
  exact ⟨⟨.text, by decide +kernel, .text _⟩, ⟨.text, by decide +kernel, .text _⟩,
    ⟨.list .text, by decide +kernel, Value.hasShape_texts _⟩,
    ⟨.list .text, by decide +kernel, Value.hasShape_texts _⟩, ⟨.bool, by decide +kernel, .bool _⟩,
    ⟨.text, by decide +kernel, .text _⟩, nofun⟩

theorem reports_routeEntry (table vpcId : String) (route : Network.Route) :
    routeEntrySchema.Reports (route.attributes table vpcId) := by
  refine Schema.reports_ofList ?_
  simp only [List.forall_mem_cons]
  exact ⟨⟨.text, by decide +kernel, .text _⟩, ⟨.text, by decide +kernel, .text _⟩,
    ⟨.text, by decide +kernel, .text _⟩, ⟨.text, by decide +kernel, .text _⟩,
    ⟨.text, by decide +kernel, .text _⟩, ⟨.text, by decide +kernel, .text _⟩, nofun⟩

theorem reports_account (mysqlId : String) (a : Mysql.Account) :
    accountSchema.Reports (a.attributes mysqlId) := by
  refine Schema.reports_ofList ?_
  simp only [List.forall_mem_cons]
  exact ⟨⟨.text, by decide +kernel, .text _⟩, ⟨.text, by decide +kernel, .text _⟩,
    ⟨.text, by decide +kernel, .text _⟩, nofun⟩

theorem reports_privilege (mysqlId name : String) (g : Mysql.Grant) :
    privilegeSchema.Reports (g.attributes mysqlId name) := by
  refine Schema.reports_ofList ?_
  simp only [List.forall_mem_cons]
  exact ⟨⟨.text, by decide +kernel, .text _⟩, ⟨.text, by decide +kernel, .text _⟩,
    ⟨.text, by decide +kernel, .text _⟩, ⟨.list .text, by decide +kernel, Value.hasShape_texts _⟩,
    nofun⟩

theorem reports_backupPolicy (mysqlId : String) (p : Mysql.BackupPolicy) :
    backupPolicySchema.Reports (p.attributes mysqlId) := by
  refine Schema.reports_ofList ?_
  simp only [List.forall_mem_cons]
  exact ⟨⟨.text, by decide +kernel, .text _⟩, ⟨.int, by decide +kernel, .int _⟩,
    ⟨.text, by decide +kernel, .text _⟩, ⟨.text, by decide +kernel, .text _⟩,
    ⟨.int, by decide +kernel, .int _⟩, nofun⟩

/-- Whether what is read of an entity, if it exists, is declared. -/
def Reported (schema : Schema) (found : Option Attributes) : Prop :=
  ∀ attributes, found = some attributes → schema.Reports attributes

theorem reported_none {schema : Schema} : Reported schema none := nofun

theorem reported_map {α : Type} {schema : Schema} {g : α → Attributes}
    (hg : ∀ a, schema.Reports (g a)) (found : Option α) : Reported schema (found.map g) := by
  intro attributes h
  obtain ⟨a, -, rfl⟩ := Option.map_eq_some_iff.mp h
  exact hg a

theorem reported_readRouteEntry (s : String) :
    Ensures (Reported routeEntrySchema) (readRouteEntry pageSize s) := by
  refine ensures_bind fun id => ensures_bind fun found => ?_
  cases found with
  | none => exact ensures_pure reported_none
  | some table =>
    exact ensures_pure (reported_map (reports_routeEntry id.routeTable table.vpcId) _)

/-- **What is read of an entity is declared.** -/
theorem reports_read (settings : Settings) (kind : LifecycleKind) (s : String) :
    Ensures (Reported kind.schema) ((kind.lifecycle settings).read s) := by
  cases kind with
  | vpc => exact ensures_bind fun found => ensures_pure (reported_map reports_vpc found)
  | subnet => exact ensures_bind fun found => ensures_pure (reported_map reports_subnet found)
  | routeTable =>
    exact ensures_bind fun found => ensures_pure (reported_map reports_routeTable found)
  | routeEntry => exact reported_readRouteEntry s
  | account =>
    refine ensures_bind fun ⟨mysqlId, name⟩ => ensures_orIfNotFound ?_ reported_none
    exact ensures_bind fun found => ensures_pure (reported_map (reports_account mysqlId) found)
  | privilege =>
    refine ensures_bind fun ⟨mysqlId, name, database⟩ => ensures_orIfNotFound ?_ reported_none
    exact ensures_bind fun found =>
      ensures_pure (reported_map (fun ps => reports_privilege mysqlId name ⟨database, ps⟩) found)
  | backupPolicy =>
    refine ensures_orIfNotFound (ensures_bind fun policy => ensures_pure ?_) reported_none
    exact reported_map (reports_backupPolicy s) (some policy)

end Lifecycle

/-! ## What a data source finds -/

/-- **The identifier of a query**: the data source, and the filters that tell what is looked for. -/
def SourceKind.identifier (settings : Settings) (r : Resource) : SourceKind → String
  | .vpcInstances =>
    "vpc_instances" ++ (r.text? "vpc_id").getD "" ++ "_" ++ (r.text? "name").getD ""
  | .vpcSubnets =>
    "vpc_subnets" ++ (r.text? "subnet_id").getD "" ++ "_" ++ (r.text? "name").getD ""
  | .vpcRouteTables =>
    "vpc_route_tables" ++ (r.text? "route_table_id").getD "" ++ "_" ++ (r.text? "name").getD ""
  | .backupList =>
    "mysql_backup_list" ++ (r.text? "mysql_id").getD "" ++ "_" ++
      toString ((r.int? "max_number").getD 10)
  | .parameterList =>
    "mysql_parameter_list" ++ ((r.text? "mysql_id").or (r.text? "engine_version")).getD ""
  | .zoneConfig => "mysql_zone_config" ++ (r.text? "region").getD settings.region

namespace DataSource

open Catalog

variable {settings : Settings} {pageSize : UInt64} {schema : Schema} {r : Resource}

theorem reports_listing (hr : schema.violations r.attributes = []) {echoed : List String}
    (hechoed : echoed.all
      (fun key => (schema.attributes.get? key).any fun a => !a.writeOnly) = true)
    {listName : String} (hlist : schema.declares listName (.list .map) = true) {items : List Value}
    (hitems : ∀ v ∈ items, v.HasShape .map) :
    schema.Reports (Found.listing r echoed listName items) := by
  refine (Schema.reports_ofList fun p hp => ?_).insert hlist (.list hitems)
  obtain ⟨key, hkey, hgiven⟩ := List.mem_filterMap.mp hp
  obtain ⟨v, hv, rfl⟩ := Option.map_eq_some_iff.mp hgiven
  have hread := List.all_eq_true.mp hechoed key hkey
  cases ha : schema.attributes.get? key with
  | none =>
    rw [ha] at hread
    cases hread
  | some a =>
    rw [ha, Option.any_some] at hread
    refine ⟨a.type.shape, ?_, (AttributeType.conforms_of_check (Schema.conforms hr ha hv)).hasShape⟩
    rw [Schema.declares, ha]
    simpa using hread

theorem hasShape_of_mem_map {α : Type} {item : α → Value} (h : ∀ a, (item a).HasShape .map)
    (as : List α) : ∀ v ∈ as.map item, v.HasShape .map := by
  intro v hv
  obtain ⟨a, -, rfl⟩ := List.mem_map.mp hv
  exact h a

theorem ensures_vpcItems (vpcs : List Network.Vpc) :
    Ensures (fun items => ∀ v ∈ items, v.HasShape .map) (vpcItems pageSize vpcs) := by
  induction vpcs with
  | nil => exact ensures_pure nofun
  | cons v rest ih =>
    refine ensures_bind fun subnets => ih.bind fun items hitems => ensures_pure ?_
    exact List.forall_mem_cons.mpr ⟨.map _, hitems⟩

theorem exists_of_mapM_eq_ok {ε α β : Type} {f : α → Except ε β} {as : List α} {bs : List β}
    (h : as.mapM f = .ok bs) : ∀ b ∈ bs, ∃ a ∈ as, f a = .ok b := by
  induction as generalizing bs with
  | nil =>
    cases h
    exact nofun
  | cons a as ih =>
    rw [List.mapM_cons] at h
    obtain ⟨b, hb, h⟩ := except_bind_eq_ok.mp h
    obtain ⟨bs', hbs, h⟩ := except_bind_eq_ok.mp h
    obtain rfl := Except.ok.inj h
    refine List.forall_mem_cons.mpr ⟨⟨a, List.mem_cons_self, hb⟩, fun b' hb' => ?_⟩
    obtain ⟨a', ha', hf⟩ := ih hbs b' hb'
    exact ⟨a', List.mem_cons_of_mem a ha', hf⟩

/-- **Whether a data source has found what its kind declares**, and is told by its filters. -/
structure IsFound (settings : Settings) (kind : SourceKind) (r : Resource) (found : Found) :
    Prop where
  reports : kind.schema.Reports found.attributes
  identifier : found.identifier = kind.identifier settings r

theorem isFound_backupList (hr : backupListSchema.violations r.attributes = []) :
    Ensures (IsFound settings .backupList r) (backupList pageSize r) := by
  rw [backupList]
  cases hid : r.text? "mysql_id" with
  | none => exact ensures_throw
  | some mysqlId =>
    dsimp only
    split_ifs
    · exact ensures_throw
    · refine ensures_bind fun backups => ensures_pure ⟨?_, ?_⟩
      · exact reports_listing hr (by decide +kernel) (by decide +kernel)
          (hasShape_of_mem_map (fun _ => .map _) backups)
      · have htext : SourceKind.backupList.identifier settings r = "mysql_backup_list" ++
            (r.text? "mysql_id").getD "" ++ "_" ++ toString ((r.int? "max_number").getD 10) := rfl
        rw [htext, hid]
        rfl

theorem isFound_parameters (hr : parameterListSchema.violations r.attributes = []) {key : String}
    (hkey : (r.text? "mysql_id").or (r.text? "engine_version") = some key)
    (parameters : List Mysql.Parameter) :
    IsFound settings .parameterList r (parametersFound r key parameters) where
  reports := reports_listing hr (by decide +kernel) (by decide +kernel)
    (hasShape_of_mem_map (fun _ => .map _) parameters)
  identifier := by
    have htext : SourceKind.parameterList.identifier settings r = "mysql_parameter_list" ++
        ((r.text? "mysql_id").or (r.text? "engine_version")).getD "" := rfl
    rw [htext, hkey]
    rfl

theorem isFound_parameterList (hr : parameterListSchema.violations r.attributes = []) :
    Ensures (IsFound settings .parameterList r) (parameterList r) := by
  rw [parameterList]
  cases hid : r.text? "mysql_id" with
  | some mysqlId =>
    exact ensures_bind fun parameters =>
      ensures_pure (isFound_parameters hr (by rw [hid, Option.some_or]) parameters)
  | none =>
    cases hversion : r.text? "engine_version" with
    | some version =>
      exact ensures_bind fun parameters =>
        ensures_pure (isFound_parameters hr (by rw [hid, hversion, Option.none_or]) parameters)
    | none => exact ensures_throw

theorem isFound_zoneConfig (hr : zoneConfigSchema.violations r.attributes = []) :
    Ensures (IsFound settings .zoneConfig r) (zoneConfig settings r) := by
  refine ensures_bind fun regions => ensures_pure ⟨?_, rfl⟩
  refine Schema.Reports.insert (reports_listing hr rfl (by decide +kernel) ?_)
    (by decide +kernel) (.text _)
  intro v hv
  obtain ⟨region, -, hv⟩ := List.mem_flatMap.mp hv
  exact hasShape_of_mem_map (fun _ => .map _) region.zones v hv

/-- **What a data source finds is declared** and told by its filters. -/
theorem isFound_dataSource (settings : Settings) (kind : SourceKind)
    (hr : kind.schema.violations r.attributes = []) :
    Ensures (IsFound settings kind r) (kind.dataSource settings r) := by
  cases kind with
  | vpcInstances =>
    refine ensures_bind fun vpcs => (ensures_vpcItems vpcs).bind fun items hitems => ?_
    exact ensures_pure ⟨reports_listing hr (by decide +kernel) (by decide +kernel) hitems, rfl⟩
  | vpcSubnets =>
    refine ensures_bind fun subnets => ensures_pure ⟨?_, rfl⟩
    exact reports_listing hr (by decide +kernel) (by decide +kernel)
      (hasShape_of_mem_map (fun _ => .map _) subnets)
  | vpcRouteTables =>
    refine ensures_bind fun tables => ?_
    intro ex found hy
    obtain ⟨items, hitems, hy⟩ := yields_lift_bind_ok.mp hy
    refine ensures_pure ⟨?_, rfl⟩ ex found hy
    refine reports_listing hr (by decide +kernel) (by decide +kernel) fun v hv => ?_
    obtain ⟨table, -, htable⟩ := exists_of_mapM_eq_ok hitems v hv
    obtain ⟨routes, -, hv⟩ := except_bind_eq_ok.mp htable
    rw [← Except.ok.inj hv]
    exact .map _
  | backupList => exact isFound_backupList hr
  | parameterList => exact isFound_parameterList hr
  | zoneConfig => exact isFound_zoneConfig hr

end DataSource

/-! ## Outcomes -/

/-- **Whether a state says all about an existing resource**: its id, its identifier, and complete
attributes, among them those that have been written and are never read back. -/
def State.Presents (state : State) (schema : Schema) (id : ResourceId) (identifier : String)
    (written : Attributes) : Prop :=
  ∃ attributes, state = .existing id (some identifier) attributes ∧
    schema.IsComplete written attributes

namespace Provider

variable {settings : Settings} {kind : LifecycleKind} {r prepared : Resource}

theorem default_of_writeOnly :
    ∀ d ∈ kind.schema.attributes, d.2.writeOnly = true → d.2.default.isNone = true := by
  cases kind <;> decide +kernel

theorem presents_readBack (hr : prepareFor kind.schema (kind.lifecycle settings) r = .ok prepared)
    (s : String) :
    Ensures (fun state => state.Presents kind.schema r.id s r.attributes)
      (readBack kind.schema (kind.lifecycle settings) prepared s) := by
  obtain ⟨hadmits, rfl⟩ := prepareFor_eq_ok.mp hr
  refine (Lifecycle.reports_read settings kind s).bind fun found hfound => ?_
  cases found with
  | none => exact ensures_throw
  | some attributes =>
    refine ensures_pure ⟨_, rfl, ?_⟩
    have hcomplete := (hfound attributes rfl).complete kind.schema_nodup
    refine (hcomplete.carryOver kind.schema_nodup fun key a v ha _ hv => ?_).congr
      fun key a ha hw => ?_
    · exact (hadmits.schema.conforming key a v ha (Fields.mem_of_get? hv)).hasShape
    · exact LifecycleKind.get?_withDefaults ha (default_of_writeOnly (key, a) ha hw) r.attributes

/-- **A read** presents the resource, or tells that there is none. -/
theorem presents_read (id : ResourceId) (identifier? : Option String) :
    Ensures (fun state => state = .absent id ∨ ∃ (kind : LifecycleKind) (identifier : String),
      id.type = kind.name ∧ identifier? = some identifier ∧
        state.Presents kind.schema id identifier []) (read settings id identifier?) := by
  intro ex state hy
  obtain ⟨x, hx, hstate⟩ := yields_onResource.mp hy
  cases x with
  | error e => cases hstate
  | ok state' =>
    obtain rfl := Except.ok.inj hstate
    obtain ⟨kind, hkind, hx⟩ := yields_lift_bind_ok.mp hx
    have hname := (LifecycleKind.name_of_ofName? (lifecycleKind_eq_ok.mp hkind)).symm
    cases identifier? with
    | none => exact .inl (Except.ok.inj (yields_pure.mp hx).2)
    | some s =>
      rcases yields_bind.mp hx with ⟨_, -, he⟩ | ⟨ex₁, found, ex₂, -, h₁, h₂⟩
      · cases he
      · cases found with
        | none =>
          have h₂ := yields_log_bind.mp h₂
          exact .inl (Except.ok.inj (yields_pure.mp h₂).2)
        | some attributes =>
          have hreports := Lifecycle.reports_read settings kind s ex₁ _ h₁ attributes rfl
          have h₂ := yields_log_bind.mp h₂
          exact .inr ⟨kind, s, hname, rfl, _, Except.ok.inj (yields_pure.mp h₂).2,
            hreports.complete kind.schema_nodup⟩

theorem presents_create {σ : Type} (remote : Dialogue.Remote σ Call Reply) (start : σ)
    {state : State} (h : ((create settings r).against remote start).result = .ok state) :
    ∃ (kind : LifecycleKind) (prepared : Resource) (identifier : String), r.id.type = kind.name ∧
      prepareFor kind.schema (kind.lifecycle settings) r = .ok prepared ∧
      (((kind.lifecycle settings).create prepared).against remote start).result = .ok identifier ∧
      state.Presents kind.schema r.id identifier r.attributes := by
  have hexec : (exec remote start (create settings r)).1 = .ok state := h
  rw [create, exec_onResource] at hexec
  cases hkind : lifecycleKind r.id with
  | error e =>
    rw [exec_error_bind hkind] at hexec
    cases hexec
  | ok kind =>
    rw [exec_ok_bind hkind] at hexec
    dsimp only at hexec
    have hname := (LifecycleKind.name_of_ofName? (lifecycleKind_eq_ok.mp hkind)).symm
    cases hr : prepareFor kind.schema (kind.lifecycle settings) r with
    | error e =>
      rw [exec_error_bind hr] at hexec
      cases hexec
    | ok prepared =>
      rw [exec_ok_bind hr, exec_bind_ok exec_event, exec_bind, exec_logFailure] at hexec
      cases hcreate : exec remote start ((kind.lifecycle settings).create prepared) with
      | mk x s' =>
        rw [hcreate] at hexec
        cases x with
        | error e => cases hexec
        | ok identifier =>
          dsimp only at hexec
          rw [exec_bind_ok exec_event] at hexec
          have hback := AttributeType.except_mapError_eq_ok.mp hexec
          let back := readBack kind.schema (kind.lifecycle settings) prepared identifier
          have hy : Yields back (back.against remote s').exchanges (exec remote s' back).1 :=
            yields_against remote s' back
          rw [hback] at hy
          exact ⟨kind, prepared, identifier, hname, hr, congrArg Prod.fst hcreate,
            presents_readBack hr identifier _ state hy⟩

theorem presents_update (id : ResourceId) (s : String) (current : State) (desired : Resource) :
    Ensures (fun state => ∃ kind : LifecycleKind, id.type = kind.name ∧
      state.Presents kind.schema desired.id s desired.attributes)
      (update settings id s current desired) := by
  intro ex state hy
  obtain ⟨x, hx, hstate⟩ := yields_onResource.mp hy
  cases x with
  | error e => cases hstate
  | ok state' =>
    obtain rfl := Except.ok.inj hstate
    obtain ⟨kind, hkind, hx⟩ := yields_lift_bind_ok.mp hx
    have hname := (LifecycleKind.name_of_ofName? (lifecycleKind_eq_ok.mp hkind)).symm
    obtain ⟨prepared, hr, hx⟩ := yields_lift_bind_ok.mp hx
    obtain ⟨_, -, hx⟩ := yields_lift_bind_ok.mp hx
    rcases yields_bind.mp (yields_log_bind.mp hx) with ⟨_, -, he⟩ | ⟨_, _, ex₂, -, -, h₂⟩
    · cases he
    · exact ⟨kind, hname, presents_readBack hr s ex₂ _ h₂⟩

theorem name_of_sourceKind {id : ResourceId} {kind : SourceKind} (h : sourceKind id = .ok kind) :
    id.type = kind.name := by
  rw [sourceKind] at h
  split at h
  · next k hk =>
    obtain rfl := Except.ok.inj h
    have hname := List.find?_some hk
    exact (of_decide_eq_true hname).symm
  · cases h

/-- **A query** presents what has been found. -/
theorem presents_query (r : Resource) :
    Ensures (fun state => ∃ (kind : SourceKind) (prepared : Resource), r.id.type = kind.name ∧
      prepare kind.schema r = .ok prepared ∧
      state.Presents kind.schema r.id (kind.identifier settings prepared) [])
      (query settings r) := by
  intro ex state hy
  obtain ⟨x, hx, hstate⟩ := yields_onResource.mp hy
  cases x with
  | error e => cases hstate
  | ok state' =>
    obtain rfl := Except.ok.inj hstate
    obtain ⟨kind, hkind, hx⟩ := yields_lift_bind_ok.mp hx
    obtain ⟨prepared, hr, hx⟩ := yields_lift_bind_ok.mp hx
    rcases yields_bind.mp hx with ⟨_, -, he⟩ | ⟨ex₁, found, ex₂, -, h₁, h₂⟩
    · cases he
    · obtain ⟨hviolations, hprepared⟩ := prepare_eq_ok.mp hr
      have hnone : kind.schema.violations prepared.attributes = [] := hprepared ▸ hviolations
      have hfound := DataSource.isFound_dataSource settings kind hnone ex₁ found h₁
      have h₂ := yields_log_bind.mp h₂
      refine ⟨kind, prepared, name_of_sourceKind hkind, hr, _, ?_,
        hfound.reports.complete kind.schema_nodup⟩
      rw [← hfound.identifier, Except.ok.inj (yields_pure.mp h₂).2, hprepared]

/-- **Every outcome is complete, and tells what it is about.** Whatever the remote answers, an error
names the resource of the operation. A state tells that the resource does not exist, or it presents
it: by the identifier that is given, that the creation of the entity has given, or that the filters
give, and with just the attributes that are declared. -/
theorem outcome_complete (settings : Settings) {σ : Type}
    (remote : Dialogue.Remote σ Call Reply) (start : σ) :
    (∀ (id : ResourceId) (identifier? : Option String),
      let result := ((read settings id identifier?).against remote start).result
      (∀ e, result = .error e → e.resource = some id) ∧
      ∀ state, result = .ok state → state = .absent id ∨
        ∃ (kind : LifecycleKind) (identifier : String), id.type = kind.name ∧
          identifier? = some identifier ∧ state.Presents kind.schema id identifier []) ∧
    (∀ r : Resource,
      let result := ((create settings r).against remote start).result
      (∀ e, result = .error e → e.resource = some r.id) ∧
      ∀ state, result = .ok state → ∃ (kind : LifecycleKind) (prepared : Resource)
        (identifier : String), r.id.type = kind.name ∧
          prepareFor kind.schema (kind.lifecycle settings) r = .ok prepared ∧
          (((kind.lifecycle settings).create prepared).against remote start).result =
            .ok identifier ∧
          state.Presents kind.schema r.id identifier r.attributes) ∧
    (∀ (id : ResourceId) (identifier : String) (current : State) (desired : Resource),
      desired.id = id →
      let result := ((update settings id identifier current desired).against remote start).result
      (∀ e, result = .error e → e.resource = some id) ∧
      ∀ state, result = .ok state → ∃ kind : LifecycleKind, id.type = kind.name ∧
        state.Presents kind.schema id identifier desired.attributes) ∧
    (∀ (id : ResourceId) (identifier : String) (e : Error),
      ((delete settings id identifier).against remote start).result = .error e →
        e.resource = some id) ∧
    (∀ r : Resource,
      let result := ((query settings r).against remote start).result
      (∀ e, result = .error e → e.resource = some r.id) ∧
      ∀ state, result = .ok state → ∃ (kind : SourceKind) (prepared : Resource),
        r.id.type = kind.name ∧ prepare kind.schema r = .ok prepared ∧
          state.Presents kind.schema r.id (kind.identifier settings prepared) []) := by
  have hrun : ∀ {α : Type} {op : Api α} {x : Except Error α},
      (op.against remote start).result = x → Yields op (op.against remote start).exchanges x :=
    fun h => h ▸ yields_against remote start _
  refine ⟨fun id identifier? => ⟨?_, ?_⟩, fun r => ⟨?_, ?_⟩,
    fun id identifier current desired hid => ⟨?_, ?_⟩, fun id identifier e he => ?_,
    fun r => ⟨?_, ?_⟩⟩
  · exact fun e he => names_read settings id identifier? _ e (hrun he)
  · exact fun state h => presents_read id identifier? _ state (hrun h)
  · exact fun e he => names_create settings r _ e (hrun he)
  · exact fun state h => presents_create remote start h
  · exact fun e he => names_update settings id identifier current desired _ e (hrun he)
  · rw [← hid]
    exact fun state h => presents_update desired.id identifier current desired _ state (hrun h)
  · exact names_delete settings id identifier _ e (hrun he)
  · exact fun e he => names_query settings r _ e (hrun he)
  · exact fun state h => presents_query r _ state (hrun h)

/-- An account is presented with its password, which no answer tells. -/
theorem account_presented :
    let desired : Resource :=
      { id := ⟨"mysql_account", "app"⟩
        attributes := .ofList [("mysql_id", .text "cdb-1"), ("name", .text "app"),
          ("description", .text "web"), ("password", .text "correct-horse")] }
    let current : State := .existing desired.id (some "cdb-1#app") desired.attributes
    let run := (update ⟨"ap-guangzhou", 20, ⟨3, 1⟩⟩ desired.id "cdb-1#app" current desired).against
      (Dialogue.scripted fun _ => .ok .null)
      [.ok (Json.object [("TotalCount", .int 1), ("Items", .arr [Json.object
        [("User", .str "app"), ("Host", .str "%"), ("Notes", .str "web")]])])]
    run.result = .ok current ∧ ∃ kind : LifecycleKind, desired.id.type = kind.name ∧
      current.Presents kind.schema desired.id "cdb-1#app" desired.attributes := by
  intro desired current run
  have hresult : run.result = .ok current := by decide +kernel
  exact ⟨hresult, ((outcome_complete _ _ _).2.2.1 desired.id "cdb-1#app" current desired rfl).2
    current hresult⟩

end Provider

end CloudProvider
