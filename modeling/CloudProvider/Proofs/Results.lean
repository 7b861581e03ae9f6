import CloudProvider.Proofs.Completeness

/-!
# Results of data sources against their schema

A schema declares the result list of a data source as a list of maps of texts. What data sources put
into it are maps with numbers, booleans and lists as well, so that a list conforms only if it is
empty. The filters conform, but for an engine version that stands in the result although none has
been asked for.

* `SourceKind.listName`: the attribute of the result list.
* `DataSource.Gives`, **`DataSource.gives_dataSource`**: what a data source finds, item by item.
* `Schema.Accepts`: whether attributes are of the types that a schema declares.
* **`Provider.query_conforms_iff`**: which attributes of a result conform, and when all of them do.
-/

namespace CloudProvider

open Operation Api

/-! ## Lists of items -/

namespace Fields

variable {α : Type}

theorem get?_ofList_lookup (fs : Fields α) (keys : List String) (key : String) :
    (ofList (keys.filterMap fun k => (fs.get? k).map fun a => (k, a))).get? key =
      if key ∈ keys then fs.get? key else none := by
  induction keys using List.reverseRecOn with
  | nil => rfl
  | append_singleton keys k ih =>
    rw [List.filterMap_append]
    simp only [List.mem_append, List.mem_singleton]
    cases hk : fs.get? k with
    | none =>
      have hnone : [k].filterMap (fun k => (fs.get? k).map fun a => (k, a)) = [] := by simp [hk]
      rw [hnone, List.append_nil, ih]
      by_cases hkey : key = k
      · subst hkey
        simp [hk]
      · simp [hkey]
    | some a =>
      have hsome : [k].filterMap (fun k => (fs.get? k).map fun a => (k, a)) = [(k, a)] := by
        simp [hk]
      rw [hsome, ofList_append, get?_insert, ih]
      by_cases hkey : key = k
      · subst hkey
        simp [hk]
      · simp [hkey]

end Fields

theorem Found.get?_listing (r : Resource) (echoed : List String) (listName : String)
    (items : List Value) (key : String) :
    (listing r echoed listName items).get? key =
      if key = listName then some (.list items)
      else if key ∈ echoed then r.attributes.get? key else none := by
  rw [listing, Fields.get?_insert, Fields.get?_ofList_lookup]

/-- The attribute in which a data source lists what it finds. -/
def SourceKind.listName : SourceKind → String
  | .vpcInstances | .vpcSubnets | .vpcRouteTables => "instance_list"
  | .parameterList => "parameter_list"
  | .backupList | .zoneConfig => "list"

namespace DataSource

variable {settings : Settings} {r : Resource}

/-- The declared type of the items of a list. -/
def itemType : AttributeType := .map .text

/-- Whether an item does not conform to the declared type. -/
def IsMixed (item : Value) : Prop := itemType.check item ≠ .ok ()

theorem isMixed_ofEntries {entries : List (String × Value)} (key : String) {v : Value}
    (h : (Fields.ofList entries).get? key = some v) (hv : v.text? = none) :
    IsMixed (.ofEntries entries) := by
  intro hcheck
  cases AttributeType.check_eq_ok.mp hcheck with
  | map hentries =>
    cases hentries _ (Fields.mem_of_get? h)
    cases hv

theorem isMixed_of_mem_map {α : Type} {item : α → Value} (h : ∀ a, IsMixed (item a))
    (as : List α) : ∀ v ∈ as.map item, IsMixed v := by
  intro v hv
  obtain ⟨a, -, rfl⟩ := List.mem_map.mp hv
  exact h a

theorem isMixed_vpcItem (v : Network.Vpc) (subnetIds : List String) :
    IsMixed (vpcItem v subnetIds) :=
  isMixed_ofEntries "is_default" (by simp [Fields.ofList]; rfl) rfl

theorem isMixed_subnetItem (s : Network.Subnet) : IsMixed (subnetItem s) :=
  isMixed_ofEntries "is_default" (by simp [Fields.ofList]; rfl) rfl

theorem isMixed_routeTableItem {t : Network.RouteTable} {v : Value}
    (h : routeTableItem t = .ok v) : IsMixed v := by
  obtain ⟨routes, -, h⟩ := except_bind_eq_ok.mp h
  rw [← Except.ok.inj h]
  exact isMixed_ofEntries "is_default" (by simp [Fields.ofList]; rfl) rfl

theorem isMixed_backupItem (b : Mysql.Backup) : IsMixed (backupItem b) :=
  isMixed_ofEntries "size_byte" (by simp [Fields.ofList]; rfl) rfl

theorem isMixed_parameterItem (p : Mysql.Parameter) : IsMixed (parameterItem p) :=
  isMixed_ofEntries "need_reboot" (by simp [Fields.ofList]; rfl) rfl

theorem isMixed_zoneItem (region : String) (z : Mysql.Zone) :
    IsMixed (zoneItem region z) :=
  isMixed_ofEntries "is_default" (by simp [Fields.ofList]; rfl) rfl

/-! ## What is found -/

/-- **What a data source finds**: a list of maps none of which conforms, and the filters that it was
asked with, or a text in their place. -/
structure Gives (kind : SourceKind) (r : Resource) (found : Found) : Prop where
  items : ∃ items, found.attributes.get? kind.listName = some (.list items) ∧
    ∀ item ∈ items, IsMixed item
  filters {key : String} {a : Attribute} (ha : (key, a) ∈ kind.schema.attributes)
    (hkey : key ≠ kind.listName) : found.attributes.get? key = r.attributes.get? key ∨
      a.type = .text ∧ ∃ s, found.attributes.get? key = some (.text s)

theorem gives_listing {kind : SourceKind} {echoed : List String} {items : List Value}
    (hitems : ∀ item ∈ items, IsMixed item)
    (hechoed : ∀ d ∈ kind.schema.attributes, d.1 ≠ kind.listName → d.1 ∈ echoed)
    (identifier : String) :
    Gives kind r ⟨identifier, Found.listing r echoed kind.listName items⟩ where
  items := ⟨items, by rw [Found.get?_listing, if_pos rfl], hitems⟩
  filters ha hkey := by
    rw [Found.get?_listing, if_neg hkey, if_pos (hechoed _ ha hkey)]
    exact .inl rfl

theorem ensures_isMixed_vpcItems {pageSize : UInt64} (vpcs : List Network.Vpc) :
    Ensures (fun items => ∀ item ∈ items, IsMixed item) (vpcItems pageSize vpcs) := by
  induction vpcs with
  | nil => exact ensures_pure nofun
  | cons v rest ih =>
    refine ensures_bind fun subnets => ih.bind fun items hitems => ensures_pure ?_
    exact List.forall_mem_cons.mpr ⟨isMixed_vpcItem v _, hitems⟩

theorem gives_backupList {pageSize : UInt64} :
    Ensures (Gives .backupList r) (backupList pageSize r) := by
  rw [backupList]
  cases r.text? "mysql_id" with
  | none => exact ensures_throw
  | some mysqlId =>
    dsimp only
    split_ifs
    · exact ensures_throw
    · exact ensures_bind fun backups => ensures_pure
        (gives_listing (isMixed_of_mem_map isMixed_backupItem backups) (by decide) _)

theorem gives_parameterList : Ensures (Gives .parameterList r) (parameterList r) := by
  have hfound (key : String) (parameters : List Mysql.Parameter) :
      Gives .parameterList r (parametersFound r key parameters) :=
    gives_listing (isMixed_of_mem_map isMixed_parameterItem parameters) (by decide) _
  rw [parameterList]
  cases r.text? "mysql_id" with
  | some mysqlId => exact ensures_bind fun parameters => ensures_pure (hfound _ parameters)
  | none =>
    cases r.text? "engine_version" with
    | some version => exact ensures_bind fun parameters => ensures_pure (hfound _ parameters)
    | none => exact ensures_throw

theorem gives_zoneConfig : Ensures (Gives .zoneConfig r) (zoneConfig settings r) := by
  have hregion : ∀ d ∈ Catalog.zoneConfigSchema.attributes, d.1 ≠ "list" →
      d.1 = "region" ∧ d.2.type = .text := by
    decide
  refine ensures_bind fun regions => ensures_pure
    { items := ⟨_, by rw [Fields.get?_insert, Found.get?_listing]; rfl, fun v hv => ?_⟩
      filters := fun ha hkey => ?_ }
  · obtain ⟨region, -, hv⟩ := List.mem_flatMap.mp hv
    exact isMixed_of_mem_map (isMixed_zoneItem region.id) region.zones v hv
  · obtain ⟨rfl, htype⟩ := hregion _ ha hkey
    exact .inr ⟨htype, _, by rw [Fields.get?_insert]; rfl⟩

/-- **What a data source finds**, whatever the remote answers. -/
theorem gives_dataSource (settings : Settings) (kind : SourceKind) (r : Resource) :
    Ensures (Gives kind r) (kind.dataSource settings r) := by
  cases kind with
  | vpcInstances =>
    refine ensures_bind fun vpcs => (ensures_isMixed_vpcItems vpcs).bind fun items hitems => ?_
    exact ensures_pure (gives_listing hitems (by decide) _)
  | vpcSubnets =>
    exact ensures_bind fun subnets => ensures_pure
      (gives_listing (isMixed_of_mem_map isMixed_subnetItem subnets) (by decide) _)
  | vpcRouteTables =>
    refine ensures_bind fun tables => ?_
    intro ex found hy
    obtain ⟨items, hitems, hy⟩ := yields_lift_bind_ok.mp hy
    refine ensures_pure (gives_listing (fun v hv => ?_) (by decide) _) ex found hy
    obtain ⟨table, -, htable⟩ := exists_of_mapM_eq_ok hitems v hv
    exact isMixed_routeTableItem htable
  | backupList => exact gives_backupList
  | parameterList => exact gives_parameterList
  | zoneConfig => exact gives_zoneConfig

end DataSource

/-! ## Results -/

/-- **Whether attributes are of the types that a schema declares** for them. -/
def Schema.Accepts (schema : Schema) (attributes : Attributes) : Prop :=
  ∀ key a v, (key, a) ∈ schema.attributes → attributes.get? key = some v → a.type.check v = .ok ()

namespace SourceKind

variable {kind : SourceKind} {key : String} {a : Attribute}

theorem type_listName (ha : (kind.listName, a) ∈ kind.schema.attributes) :
    a.type = .list DataSource.itemType := by
  have h : ∀ d ∈ kind.schema.attributes, d.1 = kind.listName →
      d.2.type = .list DataSource.itemType := by
    cases kind <;> decide
  exact h _ ha rfl

theorem exists_listName (kind : SourceKind) : ∃ a, (kind.listName, a) ∈ kind.schema.attributes := by
  have h : (kind.schema.attributes.get? kind.listName).isSome = true := by
    cases kind <;> decide
  obtain ⟨a, ha⟩ := Option.isSome_iff_exists.mp h
  exact ⟨a, Fields.mem_of_get? ha⟩

theorem type_filter (ha : (key, a) ∈ kind.schema.attributes) (hkey : key ≠ kind.listName)
    (hdefault : a.default = none) :
    a.type = .text ∨ kind = .parameterList ∧ key = "engine_version" := by
  have h : ∀ d ∈ kind.schema.attributes, d.1 ≠ kind.listName → d.2.default = none →
      d.2.type = .text ∨ kind = .parameterList ∧ d.1 = "engine_version" := by
    cases kind <;> decide
  exact h _ ha hkey hdefault

/-- What stands for no engine version is no version. -/
theorem engineVersion_declared
    (ha : ("engine_version", a) ∈ parameterList.schema.attributes) :
    a.default = none ∧ a.type ≠ .text ∧ a.type.check a.type.zero ≠ .ok () := by
  have h : ∀ d ∈ parameterList.schema.attributes, d.1 = "engine_version" →
      d.2.default = none ∧ d.2.type ≠ .text ∧ d.2.type.check d.2.type.zero ≠ .ok () := by
    decide
  exact h _ ha rfl

theorem exists_engineVersion (attributes : Attributes) :
    ∃ a, ("engine_version", a) ∈ parameterList.schema.attributes ∧
      ∃ v, (parameterList.schema.complete attributes).get? "engine_version" = some v := by
  have h : (SourceKind.parameterList.schema.attributes.get? "engine_version").any
      (fun a => !a.writeOnly) = true := by
    decide
  obtain ⟨a, ha, hread⟩ := (Option.any_eq_true _ _).mp h
  have hmem := Fields.mem_of_get? ha
  refine ⟨a, hmem, ?_⟩
  rw [Schema.get?_complete SourceKind.parameterList.schema_nodup _ hmem,
    if_neg (by simpa using hread)]
  cases attributes.get? "engine_version" with
  | none => exact ⟨_, rfl⟩
  | some v => exact ⟨v, rfl⟩

end SourceKind

namespace Provider

variable {settings : Settings} {kind : SourceKind} {r prepared : Resource}

theorem get?_prepared (hr : prepare kind.schema r = .ok prepared) {key : String} {a : Attribute}
    (ha : (key, a) ∈ kind.schema.attributes) :
    prepared.attributes.get? key = (r.attributes.get? key).or a.default := by
  obtain ⟨-, rfl⟩ := prepare_eq_ok.mp hr
  rw [Schema.withDefaults, Schema.get?_fill kind.schema_nodup,
    Fields.get?_of_mem kind.schema_nodup ha, Option.bind_some]

/-- **A filter conforms**, but for an engine version that is not given. -/
theorem filter_conforms_iff (hr : prepare kind.schema r = .ok prepared) {found : Found}
    (hfound : DataSource.Gives kind prepared found) {key : String} {a : Attribute} {v : Value}
    (ha : (key, a) ∈ kind.schema.attributes) (hkey : key ≠ kind.listName)
    (hv : (kind.schema.complete found.attributes).get? key = some v) :
    a.type.check v = .ok () ↔
      (kind = .parameterList → key = "engine_version" → key ∈ r.attributes.keys) := by
  have htext (htype : a.type = .text) : ¬ (kind = .parameterList ∧ key = "engine_version") := by
    rintro ⟨rfl, rfl⟩
    exact (SourceKind.engineVersion_declared ha).2.1 htype
  rw [Schema.get?_complete kind.schema_nodup _ ha] at hv
  rcases hfound.filters ha hkey with hechoed | ⟨htype, s, hs⟩
  · rw [hechoed] at hv
    cases hgiven : prepared.attributes.get? key with
    | some w =>
      rw [hgiven, Option.some_or] at hv
      obtain rfl := Option.some.inj hv
      obtain ⟨hviolations, hprepared⟩ := prepare_eq_ok.mp hr
      have hnone : kind.schema.violations prepared.attributes = [] := hprepared ▸ hviolations
      have hcheck := Schema.conforms hnone (Fields.get?_of_mem kind.schema_nodup ha) hgiven
      refine iff_of_true hcheck fun hkind hversion => ?_
      subst hkind hversion
      rw [get?_prepared hr ha, (SourceKind.engineVersion_declared ha).1, Option.or_none] at hgiven
      exact Fields.isSome_get?_iff.mp (Option.isSome_iff_exists.mpr ⟨w, hgiven⟩)
    | none =>
      obtain ⟨hnone, hdefault⟩ := Option.or_eq_none_iff.mp ((get?_prepared hr ha).symm.trans hgiven)
      rw [hgiven, Option.none_or] at hv
      split_ifs at hv
      obtain rfl := Option.some.inj hv
      rcases SourceKind.type_filter ha hkey hdefault with htype | ⟨rfl, rfl⟩
      · refine iff_of_true (by rw [htype]; rfl) fun hkind hversion => ?_
        exact absurd ⟨hkind, hversion⟩ (htext htype)
      · refine iff_of_false (SourceKind.engineVersion_declared ha).2.2 fun h => ?_
        exact Fields.get?_eq_none_iff.mp hnone (h rfl rfl)
  · rw [hs, Option.some_or] at hv
    obtain rfl := Option.some.inj hv
    refine iff_of_true (by rw [htype]; rfl) fun hkind hversion => ?_
    exact absurd ⟨hkind, hversion⟩ (htext htype)

theorem list_conforms_iff {items : List Value} (hitems : ∀ item ∈ items, DataSource.IsMixed item) :
    (AttributeType.list DataSource.itemType).check (.list items) = .ok () ↔ items = [] := by
  rw [AttributeType.check, AttributeType.checkItems_eq_ok]
  constructor
  · intro h
    cases items with
    | nil => rfl
    | cons item rest =>
      exact absurd (h item List.mem_cons_self) (hitems item List.mem_cons_self)
  · rintro rfl
    exact fun _ h => absurd h List.not_mem_nil

theorem exists_found_of_query {ex : List (Call × Reply)} {state : State}
    (h : Yields (query settings r) ex (.ok state)) :
    ∃ (kind : SourceKind) (prepared : Resource) (found : Found), r.id.type = kind.name ∧
      prepare kind.schema r = .ok prepared ∧ DataSource.Gives kind prepared found ∧
      state = .existing r.id (some found.identifier) (kind.schema.complete found.attributes) := by
  obtain ⟨x, hx, hstate⟩ := yields_onResource.mp h
  cases x with
  | error e => cases hstate
  | ok state' =>
    obtain rfl := Except.ok.inj hstate
    obtain ⟨kind, hkind, hx⟩ := yields_lift_bind_ok.mp hx
    obtain ⟨prepared, hr, hx⟩ := yields_lift_bind_ok.mp hx
    rcases yields_bind.mp hx with ⟨_, -, he⟩ | ⟨ex₁, found, ex₂, -, h₁, h₂⟩
    · cases he
    · have hid : prepared.id = r.id := by rw [(prepare_eq_ok.mp hr).2]
      refine ⟨kind, prepared, found, name_of_sourceKind hkind, hr,
        DataSource.gives_dataSource settings kind prepared ex₁ found h₁, ?_⟩
      have h₂ := yields_log_bind.mp h₂
      rw [Except.ok.inj (yields_pure.mp h₂).2, hid]

/-- **Which attributes of a result conform to the schema.** Of the result list no item does, so that
the list does only if nothing is found. Every filter does, but for an engine version that was not
asked for. All attributes conform just if neither stands in the way. -/
theorem query_conforms_iff (settings : Settings) (r : Resource) {σ : Type}
    (remote : Dialogue.Remote σ Call Reply) (start : σ) {state : State}
    (h : ((query settings r).against remote start).result = .ok state) :
    ∃ (kind : SourceKind) (identifier : String) (attributes : Attributes) (items : List Value),
      r.id.type = kind.name ∧ state = .existing r.id (some identifier) attributes ∧
      attributes.get? kind.listName = some (.list items) ∧
      (∀ item ∈ items, (AttributeType.map .text).check item ≠ .ok ()) ∧
      (∀ key a v, (key, a) ∈ kind.schema.attributes → attributes.get? key = some v →
        (a.type.check v = .ok () ↔ (key = kind.listName → items = []) ∧
          (kind = .parameterList → key = "engine_version" → key ∈ r.attributes.keys))) ∧
      (kind.schema.Accepts attributes ↔
        items = [] ∧ (kind = .parameterList → "engine_version" ∈ r.attributes.keys)) := by
  obtain ⟨kind, prepared, found, hname, hr, hfound, hstate⟩ :=
    exists_found_of_query (h ▸ yields_against remote start (query settings r))
  obtain ⟨items, hlist, hitems⟩ := hfound.items
  have hget (key : String) (a : Attribute) (ha : (key, a) ∈ kind.schema.attributes) :=
    Schema.get?_complete kind.schema_nodup found.attributes ha
  obtain ⟨list, hdeclared⟩ := kind.exists_listName
  have hresult : (kind.schema.complete found.attributes).get? kind.listName =
      some (.list items) := by
    rw [hget _ list hdeclared, hlist, Option.some_or]
  have heach (key : String) (a : Attribute) (v : Value) (ha : (key, a) ∈ kind.schema.attributes)
      (hv : (kind.schema.complete found.attributes).get? key = some v) :
      a.type.check v = .ok () ↔ (key = kind.listName → items = []) ∧
        (kind = .parameterList → key = "engine_version" → key ∈ r.attributes.keys) := by
    by_cases hkey : key = kind.listName
    · subst hkey
      obtain rfl := Option.some.inj (hresult.symm.trans hv)
      have hversion : ¬ (kind = .parameterList ∧ kind.listName = "engine_version") := by
        rintro ⟨rfl, h⟩
        exact absurd h (by decide)
      rw [SourceKind.type_listName ha, list_conforms_iff hitems]
      exact ⟨fun h => ⟨fun _ => h, fun hkind h => absurd ⟨hkind, h⟩ hversion⟩, fun h => h.1 rfl⟩
    · rw [filter_conforms_iff hr hfound ha hkey hv]
      exact ⟨fun h => ⟨fun h => absurd h hkey, h⟩, fun h => h.2⟩
  refine ⟨kind, found.identifier, _, items, hname, hstate, hresult, hitems, heach, ?_, ?_⟩
  · refine fun h => ⟨((heach _ _ _ hdeclared hresult).mp (h _ _ _ hdeclared hresult)).1 rfl, ?_⟩
    rintro rfl
    obtain ⟨a, ha, v, hv⟩ := SourceKind.exists_engineVersion found.attributes
    exact ((heach _ a v ha hv).mp (h _ a v ha hv)).2 rfl rfl
  · rintro ⟨hnil, hversion⟩ key a v ha hv
    exact (heach key a v ha hv).mpr ⟨fun _ => hnil, fun hkind hkey => hkey ▸ hversion hkind⟩

/-- A query for all subnets. -/
def anySubnet : Resource := { id := ⟨"vpc_subnets", "all"⟩, attributes := [], readOnly := true }

/-- The result of the query for all subnets, with some items. -/
def subnetsFound (items : List Value) : Attributes :=
  .ofList [("instance_list", .list items), ("name", .text ""), ("subnet_id", .text "")]

/-- **A subnet that is found does not conform.** -/
theorem found_subnet_rejected :
    let run := (query ⟨"ap-guangzhou", 20, ⟨3, 1⟩⟩ anySubnet).against
      (Dialogue.scripted fun _ => .ok .null)
      [.ok (Json.object [("TotalCount", .int 1), ("SubnetSet", .arr [Json.object
        [("SubnetId", .str "subnet-1"), ("SubnetName", .str "web")]])])]
    let item : Value := .ofEntries
      [("subnet_id", .text "subnet-1"), ("name", .text "web"), ("vpc_id", .text ""),
        ("availability_zone", .text ""), ("cidr_block", .text ""), ("is_default", .bool false),
        ("is_multicast", .bool false), ("route_table_id", .text ""),
        ("available_ip_count", .int 0), ("create_time", .text "")]
    run.result = .ok (.existing anySubnet.id (some "vpc_subnets_") (subnetsFound [item])) ∧
      ¬ Catalog.vpcSubnetsSchema.Accepts (subnetsFound [item]) := by
  intro run item
  refine ⟨by decide +kernel, fun h => ?_⟩
  obtain ⟨a, ha⟩ := SourceKind.vpcSubnets.exists_listName
  have hcheck := h _ a (.list [item]) ha (by decide)
  rw [SourceKind.type_listName ha] at hcheck
  exact absurd hcheck (by decide)

/-- Where no subnet is found, the result conforms. -/
theorem query_conforms_of_no_subnet :
    let run := (query ⟨"ap-guangzhou", 20, ⟨3, 1⟩⟩ anySubnet).against
      (Dialogue.scripted fun _ => .ok .null)
      [.ok (Json.object [("TotalCount", .int 0), ("SubnetSet", .arr [])])]
    run.result = .ok (.existing anySubnet.id (some "vpc_subnets_") (subnetsFound [])) ∧
      Catalog.vpcSubnetsSchema.Accepts (subnetsFound []) := by
  intro run
  have hresult : run.result =
      .ok (.existing anySubnet.id (some "vpc_subnets_") (subnetsFound [])) := by
    decide +kernel
  obtain ⟨kind, identifier, attributes, items, hname, hstate, hlist, -, -, haccepts⟩ :=
    query_conforms_iff _ anySubnet _ _ hresult
  have hkind : kind = .vpcSubnets := by
    revert hname
    cases kind <;> decide
  subst hkind
  obtain ⟨-, -, rfl⟩ := State.existing.inj hstate
  have hempty : (subnetsFound []).get? "instance_list" = some (.list []) := by decide
  obtain rfl : items = [] := by simpa using hlist.symm.trans hempty
  exact ⟨hresult, haccepts.mpr ⟨rfl, nofun⟩⟩

end Provider

end CloudProvider
