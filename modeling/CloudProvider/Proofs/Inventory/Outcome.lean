import CloudProvider.Proofs.Inventory
import CloudProvider.Proofs.Reading

/-!
# What there is to tell of an inventory

The outcomes of reads and queries as functions of what a remote has, without a call and without a
page. A remote that tells what is in an inventory gives these outcomes.

* `Inventory.vpcs`, `Inventory.accounts`, …: the entities that each listing is about.
* `Inventory.find`, `Inventory.read`: what a read shows of the entity of a kind.
* `Inventory.search`: what a data source finds.
* `Inventory.state`, `Inventory.found`: the outcomes of reads and queries.
* **`Inventory.Tells.read`**, **`Inventory.Tells.dataSource`**: a remote gives them, kind by kind.
-/

namespace CloudProvider

open Listing Operation

namespace Inventory

variable (inv : Inventory)

/-! ## Entities -/

def vpcs (id name : Option String) : Except Error (List Network.Vpc) :=
  inv.entities .describeVpcs Network.Vpc.ofJson
    (Network.parameters "VpcIds" id [("vpc-name", name)])

def subnets (q : Network.SubnetQuery) : Except Error (List Network.Subnet) :=
  inv.entities .describeSubnets Network.Subnet.ofJson
    (Network.parameters "SubnetIds" q.id
      [("vpc-id", q.vpcId), ("subnet-name", q.name), ("zone", q.zone)])

def routeTables (q : Network.RouteTableQuery) : Except Error (List Network.RouteTable) :=
  inv.entities .describeRouteTables Network.RouteTable.ofJson
    (Network.parameters "RouteTableIds" q.id [("vpc-id", q.vpcId), ("route-table-name", q.name)])

def accounts (mysqlId : String) : Except Error (List Mysql.Account) :=
  inv.entities .describeAccounts Mysql.Account.ofJson (Json.object [("InstanceId", .str mysqlId)])

/-- The first backups of an instance. For none of them nothing is asked. -/
def backups (mysqlId : String) (max : Nat) : Except Error (List Mysql.Backup) :=
  if max = 0 then .ok []
  else
    (inv.entities .describeBackups Mysql.Backup.ofJson
      (Json.object [("InstanceId", .str mysqlId)])).map (List.take max)

/-- What is answered to a call that lists nothing. -/
def answer (action : Action) (request : Json) : Except Error action.Answer :=
  Api.answer action (inv.other ⟨action, request⟩)

def grants (mysqlId name : String) : Except Error (List Mysql.Grant) :=
  inv.answer .describeAccountPrivileges <| Json.object
    [("InstanceId", .str mysqlId), ("User", .str name), ("Host", .str Mysql.anyHost)]

def backupPolicy (mysqlId : String) : Except Error Mysql.BackupPolicy :=
  inv.answer .describeBackupConfig (Json.object [("InstanceId", .str mysqlId)])

def instanceParameters (mysqlId : String) : Except Error (List Mysql.Parameter) :=
  inv.answer .describeInstanceParams (Json.object [("InstanceId", .str mysqlId)])

def defaultParameters (engineVersion : String) : Except Error (List Mysql.Parameter) :=
  inv.answer .describeDefaultParams (Json.object [("EngineVersion", .str engineVersion)])

def regions : Except Error (List Mysql.Region) :=
  inv.answer .describeZoneConfig (Json.object [])

/-! ## Reads -/

/-- **What there is of the entity of a kind** with an identifier. -/
def find : LifecycleKind → String → Except Error Finding
  | .vpc, id => do
    let vpcs ← inv.vpcs (some id) none
    return ⟨"vpc", id, vpcs.map fun v => some v.attributes⟩
  | .subnet, id => do
    let subnets ← inv.subnets { id := some id }
    return ⟨"subnet", id, subnets.map fun s => some s.attributes⟩
  | .routeTable, id => do
    let tables ← inv.routeTables { id := some id }
    return ⟨"route table", id, tables.map fun t => some t.attributes⟩
  | .routeEntry, s => do
    let id ← RouteEntryId.ofText s
    let tables ← inv.routeTables { id := some id.routeTable }
    return ⟨"route table", id.routeTable, tables.map fun t =>
      (t.entry? id.entry).map (Network.Route.attributes id.routeTable t.vpcId)⟩
  | .account, s => do
    let (mysqlId, name) ← CompositeId.two s Mysql.Account.idShape
    let accounts ← inv.accounts mysqlId
    return ⟨"mysql account", Mysql.Account.idText mysqlId name,
      (accounts.filter (Mysql.Account.isOf name)).map fun a =>
        some (Mysql.Account.attributes mysqlId a)⟩
  | .privilege, s => do
    let (mysqlId, name, database) ← CompositeId.three s Mysql.Grant.idShape
    let accounts ← inv.accounts mysqlId
    let key := Mysql.Account.idText mysqlId name
    match accounts.filter (Mysql.Account.isOf name) with
    | [_] =>
      let grants ← inv.grants mysqlId name
      return ⟨"mysql account", key, [(Mysql.held? grants database).map fun privileges =>
        Mysql.Grant.attributes mysqlId name ⟨database, privileges⟩]⟩
    | holders => return ⟨"mysql account", key, holders.map fun _ => none⟩
  | .backupPolicy, mysqlId => do
    let policy ← inv.backupPolicy mysqlId
    return ⟨"backup policy", mysqlId, [some (Mysql.BackupPolicy.attributes mysqlId policy)]⟩

/-- The attributes of the entity of a kind with an identifier, if it exists. -/
def read (kind : LifecycleKind) (s : String) : Except Error (Option Attributes) :=
  Api.ifNotFound kind.service none (inv.find kind s >>= Finding.settle)

/-- **The outcome of a read.** -/
def state (id : ResourceId) (identifier : Option String) : Except Error State :=
  let shown : Except Error State := do
    let kind ← Provider.lifecycleKind id
    match identifier with
    | none => return .absent id
    | some s => return Provider.shown kind id s (← inv.read kind s)
  shown.mapError fun e => e.forResource id

/-! ## Queries -/

/-- **What there is to find for a data source**, with the region of the settings. -/
def search (region : String) : SourceKind → Resource → Except Error Found
  | .vpcInstances, r => do
    let vpcs ← inv.vpcs (r.text? "vpc_id") (r.text? "name")
    let items ← vpcs.mapM fun v => do
      let subnets ← inv.subnets { vpcId := some v.id }
      return DataSource.vpcItem v (subnets.map fun s => s.id)
    return ⟨Found.idText "vpc_instances" (r.text? "vpc_id") (r.text? "name"),
      Found.listing r ["vpc_id", "name"] "instance_list" items⟩
  | .vpcSubnets, r => do
    let subnets ← inv.subnets { id := r.text? "subnet_id", name := r.text? "name" }
    return ⟨Found.idText "vpc_subnets" (r.text? "subnet_id") (r.text? "name"),
      Found.listing r ["subnet_id", "name"] "instance_list" (subnets.map DataSource.subnetItem)⟩
  | .vpcRouteTables, r => do
    let tables ← inv.routeTables { id := r.text? "route_table_id", name := r.text? "name" }
    let items ← tables.mapM DataSource.routeTableItem
    return ⟨Found.idText "vpc_route_tables" (r.text? "route_table_id") (r.text? "name"),
      Found.listing r ["route_table_id", "name"] "instance_list" items⟩
  | .backupList, r =>
    match r.text? "mysql_id" with
    | none => throw (.invalid "mysql_id should be a non-empty string")
    | some mysqlId => do
      let max := (r.int? "max_number").getD DataSource.defaultBackupCount
      if max < 0 then throw (.invalid s!"max_number {max} is negative")
      let backups ← inv.backups mysqlId max.toInt.toNat
      return ⟨s!"mysql_backup_list{mysqlId}_{max}",
        Found.listing r ["mysql_id", "max_number"] "list" (backups.map DataSource.backupItem)⟩
  | .parameterList, r =>
    match r.text? "mysql_id", r.text? "engine_version" with
    | some mysqlId, _ =>
      return DataSource.parametersFound r mysqlId (← inv.instanceParameters mysqlId)
    | none, some version =>
      return DataSource.parametersFound r version (← inv.defaultParameters version)
    | none, none => throw (.invalid "one of mysql_id or engine_version must be set")
  | .zoneConfig, r => do
    let regions ← inv.regions
    let name := (r.text? "region").getD region
    let items := (regions.filter fun g => g.id = name).flatMap fun g =>
      g.zones.map (DataSource.zoneItem g.id)
    return ⟨s!"mysql_zone_config{name}",
      (Found.listing r [] "list" items).insert "region" (.text name)⟩

/-- **The outcome of a query**, with the region of the settings. -/
def found (region : String) (r : Resource) : Except Error State :=
  let shown : Except Error State := do
    let kind ← Provider.sourceKind r.id
    let prepared ← Provider.prepare kind.schema r
    let found ← inv.search region kind prepared
    return .existing prepared.id (some found.identifier) (kind.schema.complete found.attributes)
  shown.mapError fun e => e.forResource r.id

/-! ## Failures -/

section Failure

variable {inv : Inventory} {α : Type} {item : Json → Except Issue α} {action : Action}
  {parameters : Json} {service : Service}

theorem isNotFound_of_entities {e : Error} (h : inv.entities action item parameters = .error e) :
    Api.isNotFound service e = false := by
  unfold entities at h
  cases hfound : (inv.select action parameters).mapM item with
  | error issue =>
    rw [hfound] at h
    obtain rfl := Except.error.inj h
    rfl
  | ok found =>
    rw [hfound] at h
    change (if found.length < UInt64.size then .ok found else .error _) = Except.error e at h
    split_ifs at h
    obtain rfl := Except.error.inj h
    rfl

theorem ifNotFound_entities {absent : List α} :
    Api.ifNotFound service absent (inv.entities action item parameters) =
      inv.entities action item parameters := by
  cases h : inv.entities action item parameters with
  | error e => rw [Api.ifNotFound, isNotFound_of_entities h, if_neg Bool.false_ne_true]
  | ok found => rfl

theorem settle_map {g : Option α → Option Attributes} (hg : g none = none) (entity key : String)
    (items : List α) :
    Finding.settle ⟨entity, key, items.map fun a => g (some a)⟩ =
      Lookup.choice entity key items >>= fun a => .ok (g a) := by
  rw [Finding.settle_map hg]
  cases Lookup.choice entity key items with
  | error e => rfl
  | ok a => rfl

theorem ifNotFound_of_settle (f : Finding) : Api.ifNotFound service none f.settle = f.settle := by
  cases h : f.settle with
  | error e => rw [Finding.settle_eq_error h]; rfl
  | ok a => rfl

theorem ifNotFound_settle {g : Option α → Option Attributes} (hg : g none = none)
    (entity key : String) :
    Api.ifNotFound service none (inv.entities action item parameters >>= fun found =>
        Finding.settle ⟨entity, key, found.map fun a => g (some a)⟩) =
      inv.entities action item parameters >>= fun found =>
        Lookup.choice entity key found >>= fun a => .ok (g a) := by
  cases h : inv.entities action item parameters with
  | error e =>
    change Api.ifNotFound service none (.error e) = .error e
    rw [Api.ifNotFound, isNotFound_of_entities h, if_neg Bool.false_ne_true]
  | ok found =>
    change Api.ifNotFound service none (Finding.settle _) = _
    rw [ifNotFound_of_settle, settle_map hg]
    rfl

end Failure

/-! ## Remotes that tell it -/

namespace Tells

variable {inv : Inventory} {pageSize : UInt64} {remote : Call → Reply}

section Listing

variable (h : inv.Tells pageSize remote)

include h

theorem result_call {α : Type} {action : Action} (hl : action.isListing = false) {request : Json}
    {decode : Json → Except Issue α} :
    resultWith remote (Api.call action request decode) =
      Api.outcomeOf action decode (inv.other ⟨action, request⟩) := by
  rw [resultWith_call, h.other _ hl]

theorem result_all {α : Type} {item : Json → Except Issue α} {action : Action} {parameters : Json}
    {request : Cursor → Json} (record : String) (hl : action.isListing = true)
    (hw : Windowed action parameters request)
    (hitem : ∀ j, action.IsRecord j → ∃ a, item j = .ok a) :
    resultWith remote (all pageSize fun c => Api.call action (request c)
        ((Network.pageRow action.itemsName item).ofJson record)) =
      inv.entities action item parameters := by
  rw [all, h.listing none record hl hw hitem]
  cases inv.entities action item parameters with
  | error e => rfl
  | ok items => rfl

theorem listVpcs (id name : Option String) :
    resultWith remote (Network.listVpcs pageSize id name) = inv.vpcs id name :=
  h.result_all _ rfl (windowed_listRequest rfl (by decide) _ _) fun _ h => h

theorem listSubnets (q : Network.SubnetQuery) :
    resultWith remote (Network.listSubnets pageSize q) = inv.subnets q :=
  h.result_all _ rfl (windowed_listRequest rfl (by decide) _ _) fun _ h => h

theorem listRouteTables (q : Network.RouteTableQuery) :
    resultWith remote (Network.listRouteTables pageSize q) = inv.routeTables q :=
  h.result_all _ rfl (windowed_listRequest rfl (by decide) _ _) fun _ h => h

theorem listAccounts (mysqlId : String) :
    resultWith remote (Mysql.listAccounts pageSize mysqlId) = inv.accounts mysqlId :=
  h.result_all _ rfl (windowed_pageRequest rfl _) fun _ h => h

theorem listBackups (mysqlId : String) (max : Nat) :
    resultWith remote (Mysql.listBackups pageSize mysqlId max) = inv.backups mysqlId max := by
  rw [Mysql.listBackups, backups]
  by_cases hmax : max = 0
  · rw [if_pos hmax, if_pos hmax]
    rfl
  · rw [if_neg hmax, if_neg hmax]
    exact h.listing (some max) _ rfl (windowed_pageRequest rfl _) fun _ h => h

/-! ## Look-ups -/

omit h in
theorem result_lookup {α : Type} {service : Service} {op : Api (List α)}
    {item : Json → Except Issue α} {action : Action} {parameters : Json}
    (hop : resultWith remote op = inv.entities action item parameters) (entity key : String) :
    resultWith remote (Api.orIfNotFound service op [] >>= Lookup.unique entity key) =
      inv.entities action item parameters >>= Lookup.choice entity key := by
  simp only [resultWith_bind, resultWith_orIfNotFound, resultWith_unique, hop, ifNotFound_entities]

theorem findVpc (id : String) :
    resultWith remote (Network.findVpc pageSize id) =
      inv.vpcs (some id) none >>= Lookup.choice "vpc" id :=
  result_lookup (h.listVpcs _ _) _ _

theorem findSubnet (id : String) :
    resultWith remote (Network.findSubnet pageSize id) =
      inv.subnets { id := some id } >>= Lookup.choice "subnet" id :=
  result_lookup (h.listSubnets _) _ _

theorem findRouteTable (id : String) :
    resultWith remote (Network.findRouteTable pageSize id) =
      inv.routeTables { id := some id } >>= Lookup.choice "route table" id :=
  result_lookup (h.listRouteTables _) _ _

theorem findAccount (mysqlId name : String) :
    resultWith remote (Mysql.findAccount pageSize mysqlId name) =
      inv.accounts mysqlId >>= fun accounts =>
        Lookup.choice "mysql account" (Mysql.Account.idText mysqlId name)
          (accounts.filter (Mysql.Account.isOf name)) := by
  simp only [Mysql.findAccount, resultWith_bind, resultWith_unique, h.listAccounts]

omit h in
theorem result_found {α : Type} {item : Json → Except Issue α} {action : Action}
    {parameters : Json} {op : Api (Option α)} {entity key : String}
    (hop : resultWith remote op = inv.entities action item parameters >>= Lookup.choice entity key)
    (service : Service) (attributes : α → Attributes) :
    resultWith remote (op >>= fun found => pure (found.map attributes)) =
      Api.ifNotFound service none ((do
        let found ← inv.entities action item parameters
        return ⟨entity, key, found.map fun a => some (attributes a)⟩) >>= Finding.settle) := by
  simp only [resultWith_bind, resultWith_pure, hop, bind_assoc, pure_bind]
  exact (ifNotFound_settle (g := Option.map attributes) rfl entity key).symm

theorem readPrivileges (mysqlId name database : String) :
    resultWith remote (Mysql.readPrivileges mysqlId name database) =
      (inv.grants mysqlId name).map fun grants =>
        ((grants.find? fun g => g.database = database).map fun g => g.privileges).getD [] := by
  rw [Mysql.readPrivileges, resultWith_bind, h.result_call rfl]
  change (inv.grants mysqlId name >>= fun grants => resultWith remote (pure _)) = _
  cases inv.grants mysqlId name with
  | error e => rfl
  | ok grants => rfl

theorem readBackupPolicy (mysqlId : String) :
    resultWith remote (Mysql.readBackupPolicy mysqlId) = inv.backupPolicy mysqlId :=
  h.result_call rfl

theorem listInstanceParameters (mysqlId : String) :
    resultWith remote (Mysql.listInstanceParameters mysqlId) = inv.instanceParameters mysqlId :=
  h.result_call rfl

theorem listDefaultParameters (engineVersion : String) :
    resultWith remote (Mysql.listDefaultParameters engineVersion) =
      inv.defaultParameters engineVersion :=
  h.result_call rfl

theorem listRegions : resultWith remote Mysql.listRegions = inv.regions :=
  h.result_call rfl

end Listing

/-! ## Reads and queries by kind -/

section Kinds

variable {settings : Settings} (h : inv.Tells settings.pageSize remote)

include h

theorem readRouteEntry (s : String) :
    resultWith remote (Lifecycle.readRouteEntry settings.pageSize s) = inv.read .routeEntry s := by
  simp only [Lifecycle.readRouteEntry, resultWith_bind, resultWith_lift, h.findRouteTable,
    Inventory.read, find, bind_assoc, pure_bind]
  cases hid : RouteEntryId.ofText s with
  | error e =>
    obtain ⟨-, m, rfl⟩ := RouteEntryId.ofText_eq_error hid
    rfl
  | ok id =>
    let entry (table : Network.RouteTable) : Option Attributes :=
      (table.entry? id.entry).map (Network.Route.attributes id.routeTable table.vpcId)
    refine Eq.trans ?_ (ifNotFound_settle (g := fun table => table.bind entry) rfl _ _).symm
    change (inv.routeTables _ >>= fun _ => _ >>= fun _ => _) = _
    refine bind_congr fun tables => ?_
    refine bind_congr fun table => ?_
    cases table with
    | none => rfl
    | some table => rfl

theorem readAccount (s : String) :
    resultWith remote (Lifecycle.readAccount settings s) = inv.read .account s := by
  simp only [Lifecycle.readAccount, resultWith_bind, resultWith_lift, Inventory.read, find,
    bind_assoc, pure_bind]
  cases hid : CompositeId.two s Mysql.Account.idShape with
  | error e =>
    obtain ⟨-, m, rfl⟩ := CompositeId.two_eq_error hid
    rfl
  | ok id =>
    obtain ⟨mysqlId, name⟩ := id
    change resultWith remote (Api.orIfNotFound .cdb _ none) = _
    simp only [resultWith_orIfNotFound, resultWith_bind, h.findAccount, resultWith_pure]
    refine congrArg (Api.ifNotFound .cdb none) ?_
    rw [bind_assoc]
    refine bind_congr fun accounts => ?_
    exact (settle_map (g := Option.map (Mysql.Account.attributes mysqlId)) rfl _ _ _).symm

theorem findPrivileges (mysqlId name database : String) :
    resultWith remote (Lifecycle.findPrivileges settings mysqlId name database) =
      inv.accounts mysqlId >>= fun accounts =>
        Lookup.choice "mysql account" (Mysql.Account.idText mysqlId name)
          (accounts.filter (Mysql.Account.isOf name)) >>= fun account =>
            match account with
            | none => .ok none
            | some _ => (inv.grants mysqlId name).map fun grants => Mysql.held? grants database := by
  rw [Lifecycle.findPrivileges, resultWith_bind, h.findAccount, bind_assoc]
  refine bind_congr fun accounts => ?_
  refine bind_congr fun account => ?_
  cases account with
  | none => rfl
  | some _ =>
    dsimp only
    rw [resultWith_bind, h.readPrivileges]
    cases inv.grants mysqlId name with
    | error e => rfl
    | ok grants => exact congrArg Except.ok (Mysql.held?_eq grants database).symm

theorem readPrivilege (s : String) :
    resultWith remote (Lifecycle.readPrivilege settings s) = inv.read .privilege s := by
  simp only [Lifecycle.readPrivilege, resultWith_bind, resultWith_lift, Inventory.read, find,
    bind_assoc]
  cases hid : CompositeId.three s Mysql.Grant.idShape with
  | error e =>
    obtain ⟨-, m, rfl⟩ := CompositeId.three_eq_error hid
    rfl
  | ok id =>
    obtain ⟨mysqlId, name, database⟩ := id
    change resultWith remote (Api.orIfNotFound .cdb _ none) = _
    simp only [resultWith_orIfNotFound, resultWith_bind, h.findPrivileges, resultWith_pure]
    refine congrArg (Api.ifNotFound .cdb none) ?_
    rw [bind_assoc]
    refine bind_congr fun accounts => ?_
    -- Privileges are only asked for when exactly one account may hold them.
    match accounts.filter (Mysql.Account.isOf name) with
    | [] => rfl
    | [_] =>
      change ((inv.grants mysqlId name).map _ >>= _) = (inv.grants mysqlId name >>= _) >>= _
      cases inv.grants mysqlId name with
      | error e => rfl
      | ok grants => cases Mysql.held? grants database <;> rfl
    | a :: b :: rest =>
      change Except.error _ = Finding.settle ⟨_, _, (a :: b :: rest).map fun _ => none⟩
      rw [Finding.settle_of_two_le (by simp), List.length_map]

/-- **What is read of an entity.** -/
theorem read (kind : LifecycleKind) (s : String) :
    resultWith remote ((kind.lifecycle settings).read s) = inv.read kind s := by
  cases kind with
  | vpc => exact result_found (h.findVpc s) .vpc Network.Vpc.attributes
  | subnet => exact result_found (h.findSubnet s) .vpc Network.Subnet.attributes
  | routeTable => exact result_found (h.findRouteTable s) .vpc Network.RouteTable.attributes
  | routeEntry => exact h.readRouteEntry s
  | account => exact h.readAccount s
  | privilege => exact h.readPrivilege s
  | backupPolicy =>
    change resultWith remote (Lifecycle.readBackupPolicy s) = _
    simp only [Lifecycle.readBackupPolicy, resultWith_orIfNotFound, resultWith_bind,
      h.readBackupPolicy, resultWith_pure, Inventory.read, find, bind_assoc, pure_bind]
    rfl

theorem vpcItems (vpcs : List Network.Vpc) :
    resultWith remote (DataSource.vpcItems settings.pageSize vpcs) =
      vpcs.mapM fun v => do
        let subnets ← inv.subnets { vpcId := some v.id }
        return DataSource.vpcItem v (subnets.map fun s => s.id) := by
  induction vpcs with
  | nil => rfl
  | cons v rest ih =>
    simp only [DataSource.vpcItems, resultWith_bind, h.listSubnets, ih, resultWith_pure,
      List.mapM_cons, bind_assoc, pure_bind]
    rfl

/-- **What a data source finds.** -/
theorem dataSource (kind : SourceKind) (r : Resource) :
    resultWith remote (kind.dataSource settings r) = inv.search settings.region kind r := by
  cases kind with
  | vpcInstances =>
    change resultWith remote (DataSource.vpcInstances _ r) = _
    simp only [DataSource.vpcInstances, resultWith_bind, h.listVpcs, h.vpcItems, resultWith_pure,
      search]
    rfl
  | vpcSubnets =>
    change resultWith remote (DataSource.vpcSubnets _ r) = _
    simp only [DataSource.vpcSubnets, resultWith_bind, h.listSubnets, resultWith_pure, search]
    rfl
  | vpcRouteTables =>
    change resultWith remote (DataSource.vpcRouteTables _ r) = _
    simp only [DataSource.vpcRouteTables, resultWith_bind, h.listRouteTables, resultWith_lift,
      resultWith_pure, search]
    rfl
  | backupList =>
    change resultWith remote (DataSource.backupList _ r) = _
    rw [DataSource.backupList, search]
    cases r.text? "mysql_id" with
    | none => rfl
    | some mysqlId =>
      dsimp only
      split_ifs
      · rfl
      · simp only [resultWith_bind, h.listBackups, resultWith_pure]
        rfl
  | parameterList =>
    change resultWith remote (DataSource.parameterList r) = _
    rw [DataSource.parameterList, search]
    cases r.text? "mysql_id" with
    | some mysqlId =>
      simp only [resultWith_bind, h.listInstanceParameters, resultWith_pure]
      rfl
    | none =>
      cases r.text? "engine_version" with
      | some version =>
        simp only [resultWith_bind, h.listDefaultParameters, resultWith_pure]
        rfl
      | none => rfl
  | zoneConfig =>
    change resultWith remote (DataSource.zoneConfig _ r) = _
    simp only [DataSource.zoneConfig, resultWith_bind, h.listRegions, resultWith_pure, search]
    rfl

end Kinds

end Tells

end Inventory

end CloudProvider
