import CloudProvider.Proofs.Admission
import CloudProvider.Proofs.Creation

/-!
# Errors name the resource that they concern

What goes wrong within an operation is told without a name, and the operation puts the id of its own
resource to it. So no error is left without one, and none bears that of another resource.

* `Api.Anonymous`: whether no error of an operation names a resource.
* **`Lifecycle.anonymous_create`**, …, **`DataSource.anonymous_dataSource`**: the operations by
  kind.
* **`Provider.names_create`**, …: the errors of the operations on resources.
-/

namespace CloudProvider

open Operation Api

/-! ## Errors without a name -/

namespace Api

variable {α : Type}

/-- **Whether no error of an operation names a resource.** -/
def Anonymous (op : Api α) : Prop := FailsOnly (fun e => e.resource = none) op

theorem coversFailures_anonymous : CoversFailures fun e => e.resource = none := fun _ _ he => he

theorem anonymous_call {action : Action} {request : Json} {decode : Json → Except Issue α} :
    Anonymous (call action request decode) :=
  failsOnly_call coversFailures_anonymous

theorem anonymous_required_bind {r : Resource} {key : String} {f : String → Api α}
    (hf : ∀ s, Anonymous (f s)) :
    Anonymous ((liftM (r.required key) : Api String) >>= f) := by
  refine failsOnly_lift_bind (fun e he => ?_) fun s _ => hf s
  unfold Resource.required at he
  split at he
  · cases he
  · obtain rfl := Except.error.inj he
    rfl

theorem Anonymous.onResource {op : Api α} (h : Anonymous op) (id : ResourceId) :
    FailsOnly (fun e => e.resource = some id) (op.onResource id) := by
  refine FailsOnly.onResource h fun e he => ?_
  show e.resource.or (some id) = some id
  rw [he, Option.none_or]

end Api

/-! ## Look-ups -/

/-- **A listing fails with one of its pages**, or has no page size. -/
theorem Listing.anonymous_upTo {α : Type} {pageSize : UInt64} {bound : Option Nat}
    {fetch : Cursor → Api (Page α)} (h : ∀ c, Anonymous (fetch c)) :
    Anonymous (upTo pageSize bound fetch) :=
  upTo_induction (failsOnly_throw rfl) (fun _ => failsOnly_pure) fun c _ hrest =>
    FailsOnly.bind (h c) hrest

theorem Lookup.anonymous_listed {α : Type} {service : Service} {entity key : String}
    {op : Api (List α)} (h : Anonymous op) :
    Anonymous (orIfNotFound service op [] >>= unique entity key) :=
  failsOnly_listed coversFailures_anonymous h

namespace Network

variable {pageSize : UInt64}

theorem anonymous_findVpc {id : String} : Anonymous (findVpc pageSize id) :=
  Lookup.anonymous_listed (Listing.anonymous_upTo fun _ => anonymous_call)

theorem anonymous_findSubnet {id : String} : Anonymous (findSubnet pageSize id) :=
  Lookup.anonymous_listed (Listing.anonymous_upTo fun _ => anonymous_call)

theorem anonymous_uniqueRouteTable {id : String} {vpcId : Option String} :
    Anonymous (uniqueRouteTable pageSize id vpcId) :=
  Lookup.anonymous_listed (Listing.anonymous_upTo fun _ => anonymous_call)

theorem anonymous_checkId {action : Action} {id : String} : Anonymous (checkId action id) :=
  failsOnly_checkId coversFailures_anonymous

end Network

namespace Mysql

theorem anonymous_requested {action : Action} {request : Json} :
    Anonymous (requested action request) :=
  failsOnly_requested coversFailures_anonymous

theorem anonymous_findAccount {pageSize : UInt64} {mysqlId name : String} :
    Anonymous (findAccount pageSize mysqlId name) :=
  FailsOnly.bind (Listing.anonymous_upTo fun _ => anonymous_call) fun _ =>
    Lookup.failsOnly_unique coversFailures_anonymous

end Mysql

/-! ## Operations by kind -/

namespace Lifecycle

variable {settings : Settings} {pageSize : UInt64} {kind : LifecycleKind} {r : Resource}
  {s : String}

theorem anonymous_finish {change : Api String} (h : Anonymous change) :
    Anonymous (finish settings change) :=
  failsOnly_finish coversFailures_anonymous h

theorem anonymous_ensureInVpc {table vpcId : String} :
    Anonymous (ensureInVpc pageSize table vpcId) := by
  refine FailsOnly.bind (FailsOnly.bind Network.anonymous_uniqueRouteTable fun _ => failsOnly_pure)
    fun found => ?_
  split_ifs
  · exact failsOnly_pure
  · exact failsOnly_throw rfl

theorem anonymous_readRouteEntry : Anonymous (readRouteEntry pageSize s) := by
  refine failsOnly_entryId_bind (fun _ _ => rfl) fun id => ?_
  refine FailsOnly.bind Network.anonymous_uniqueRouteTable fun table => ?_
  cases table with
  | none => exact failsOnly_pure
  | some t => exact failsOnly_pure

theorem anonymous_readAccount : Anonymous (readAccount settings s) :=
  failsOnly_two_bind (fun _ _ => rfl) fun _ => failsOnly_orIfNotFound <|
    FailsOnly.bind Mysql.anonymous_findAccount fun _ => failsOnly_pure

theorem anonymous_readPrivilege : Anonymous (readPrivilege settings s) := by
  refine failsOnly_three_bind (fun _ _ => rfl) fun _ => failsOnly_orIfNotFound ?_
  refine FailsOnly.bind (FailsOnly.bind Mysql.anonymous_findAccount fun account => ?_)
    fun _ => failsOnly_pure
  cases account with
  | none => exact failsOnly_pure
  | some _ =>
    exact FailsOnly.bind (FailsOnly.bind anonymous_call fun _ => failsOnly_pure)
      fun _ => failsOnly_pure

theorem anonymous_read (settings : Settings) (kind : LifecycleKind) (s : String) :
    Anonymous ((kind.lifecycle settings).read s) := by
  cases kind with
  | vpc => exact FailsOnly.bind Network.anonymous_findVpc fun _ => failsOnly_pure
  | subnet => exact FailsOnly.bind Network.anonymous_findSubnet fun _ => failsOnly_pure
  | routeTable => exact FailsOnly.bind Network.anonymous_uniqueRouteTable fun _ => failsOnly_pure
  | routeEntry => exact anonymous_readRouteEntry
  | account => exact anonymous_readAccount
  | privilege => exact anonymous_readPrivilege
  | backupPolicy =>
    exact failsOnly_orIfNotFound (FailsOnly.bind anonymous_call fun _ => failsOnly_pure)

theorem anonymous_createSubnet : Anonymous (createSubnet pageSize r) := by
  refine anonymous_required_bind fun vpcId => anonymous_required_bind fun zone =>
    anonymous_required_bind fun name => anonymous_required_bind fun cidrBlock => ?_
  have hcreate : Anonymous (Network.createSubnet vpcId name cidrBlock zone) :=
    FailsOnly.bind anonymous_call fun _ => Network.anonymous_checkId
  cases r.text? "route_table_id" with
  | none =>
    exact FailsOnly.bind hcreate fun _ => FailsOnly.bind anonymous_call fun _ => failsOnly_pure
  | some table =>
    refine FailsOnly.bind anonymous_ensureInVpc fun _ => FailsOnly.bind hcreate fun _ => ?_
    exact FailsOnly.bind anonymous_call fun _ => FailsOnly.bind anonymous_call fun _ =>
      failsOnly_pure

theorem anonymous_createRouteEntry : Anonymous (createRouteEntry pageSize r) := by
  refine anonymous_required_bind fun table => anonymous_required_bind fun destination =>
    anonymous_required_bind fun gatewayType => anonymous_required_bind fun gatewayId => ?_
  have hcreate : ∀ spec, Anonymous (Network.createRoute pageSize table spec >>= fun entry =>
      pure (RouteEntryId.text ⟨entry, table⟩)) :=
    fun _ => FailsOnly.bind (Network.failsOnly_createRoute coversFailures_anonymous
      Network.anonymous_uniqueRouteTable) fun _ => failsOnly_pure
  cases r.text? "vpc_id" with
  | none => exact hcreate _
  | some vpcId => exact FailsOnly.bind anonymous_ensureInVpc fun _ => hcreate _

theorem anonymous_create (settings : Settings) (kind : LifecycleKind) (r : Resource) :
    Anonymous ((kind.lifecycle settings).create r) := by
  cases kind with
  | vpc =>
    exact anonymous_required_bind fun _ => anonymous_required_bind fun _ =>
      FailsOnly.bind anonymous_call fun _ => Network.anonymous_checkId
  | subnet => exact anonymous_createSubnet
  | routeTable =>
    exact anonymous_required_bind fun _ => anonymous_required_bind fun _ =>
      FailsOnly.bind anonymous_call fun _ => Network.anonymous_checkId
  | routeEntry => exact anonymous_createRouteEntry
  | account =>
    refine anonymous_required_bind fun _ => anonymous_required_bind fun _ =>
      anonymous_required_bind fun _ => ?_
    exact FailsOnly.bind (anonymous_finish Mysql.anonymous_requested) fun _ => failsOnly_pure
  | privilege =>
    refine anonymous_required_bind fun _ => anonymous_required_bind fun _ =>
      anonymous_required_bind fun _ => ?_
    exact FailsOnly.bind (anonymous_finish Mysql.anonymous_requested) fun _ => failsOnly_pure
  | backupPolicy =>
    exact anonymous_required_bind fun _ => FailsOnly.bind anonymous_call fun _ => failsOnly_pure

theorem anonymous_updateSubnet {current : State} :
    Anonymous (updateSubnet pageSize s current r) := by
  refine anonymous_required_bind fun name => failsOnly_optional anonymous_call ?_
  cases newTable? current r with
  | none => exact failsOnly_pure
  | some table =>
    exact anonymous_required_bind fun _ => FailsOnly.bind anonymous_ensureInVpc fun _ =>
      anonymous_call

theorem anonymous_updateAccount {current : State} :
    Anonymous (updateAccount settings s current r) := by
  refine failsOnly_two_bind (fun _ _ => rfl) fun ⟨mysqlId, name⟩ => ?_
  refine anonymous_required_bind fun password =>
    failsOnly_optional (anonymous_finish Mysql.anonymous_requested) ?_
  split_ifs
  · exact anonymous_finish Mysql.anonymous_requested
  · exact failsOnly_pure

theorem anonymous_update (settings : Settings) (kind : LifecycleKind) (s : String)
    (current : State) (desired : Resource) :
    Anonymous ((kind.lifecycle settings).update s current desired) := by
  cases kind with
  | vpc => exact anonymous_required_bind fun _ => anonymous_call
  | subnet => exact anonymous_updateSubnet
  | routeTable => exact anonymous_required_bind fun _ => anonymous_call
  | routeEntry => exact failsOnly_pure
  | account => exact anonymous_updateAccount
  | privilege =>
    exact failsOnly_three_bind (fun _ _ => rfl) fun ⟨_, _, _⟩ =>
      anonymous_finish Mysql.anonymous_requested
  | backupPolicy => exact anonymous_call

theorem anonymous_delete (settings : Settings) (kind : LifecycleKind) (s : String) :
    Anonymous ((kind.lifecycle settings).delete s) :=
  failsOnly_delete coversFailures_anonymous (fun _ _ => rfl) (anonymous_read settings kind s)

end Lifecycle

/-! ## Data sources -/

namespace DataSource

variable {pageSize : UInt64}

theorem anonymous_vpcItems (vpcs : List Network.Vpc) : Anonymous (vpcItems pageSize vpcs) := by
  induction vpcs with
  | nil => exact failsOnly_pure
  | cons v rest ih =>
    exact FailsOnly.bind (Listing.anonymous_upTo fun _ => anonymous_call) fun _ =>
      FailsOnly.bind ih fun _ => failsOnly_pure

theorem anonymous_backupList (r : Resource) : Anonymous (backupList pageSize r) := by
  have hlist : ∀ mysqlId max, Anonymous (Mysql.listBackups pageSize mysqlId max) := by
    intro mysqlId max
    rw [Mysql.listBackups]
    split_ifs
    · exact failsOnly_pure
    · exact Listing.anonymous_upTo fun _ => anonymous_call
  rw [backupList]
  cases r.text? "mysql_id" with
  | none => exact failsOnly_throw rfl
  | some mysqlId =>
    dsimp only
    split_ifs
    · exact failsOnly_throw rfl
    · exact FailsOnly.bind (hlist _ _) fun _ => failsOnly_pure

theorem anonymous_parameterList (r : Resource) : Anonymous (parameterList r) := by
  rw [parameterList]
  cases r.text? "mysql_id" with
  | some mysqlId => exact FailsOnly.bind anonymous_call fun _ => failsOnly_pure
  | none =>
    cases r.text? "engine_version" with
    | some version => exact FailsOnly.bind anonymous_call fun _ => failsOnly_pure
    | none => exact failsOnly_throw rfl

theorem exists_of_mapM_eq_error {ε α β : Type} {f : α → Except ε β} {as : List α} {e : ε}
    (h : as.mapM f = .error e) : ∃ a ∈ as, f a = .error e := by
  induction as with
  | nil => cases h
  | cons a as ih =>
    rw [List.mapM_cons] at h
    cases ha : f a with
    | error e' =>
      rw [ha] at h
      exact ⟨a, List.mem_cons_self, ha.trans (congrArg Except.error (Except.error.inj h))⟩
    | ok b =>
      rw [ha] at h
      cases has : as.mapM f with
      | error e' =>
        simp only [bind, Except.bind, has] at h
        obtain ⟨a', ha', he⟩ := ih (has.trans h)
        exact ⟨a', List.mem_cons_of_mem a ha', he⟩
      | ok bs =>
        simp only [bind, Except.bind, has] at h
        cases h

theorem resource_of_routeTableItem {table : Network.RouteTable} {e : Error}
    (h : routeTableItem table = .error e) : e.resource = none := by
  cases hroutes : table.routes.mapM (routeItem table.id) with
  | ok routes =>
    simp only [routeTableItem, hroutes, bind, Except.bind] at h
    cases h
  | error e' =>
    simp only [routeTableItem, hroutes, bind, Except.bind] at h
    obtain ⟨route, -, hroute⟩ := exists_of_mapM_eq_error hroutes
    rw [routeItem] at hroute
    split_ifs at hroute
    obtain rfl := Except.error.inj h
    obtain rfl := Except.error.inj hroute
    rfl

theorem anonymous_dataSource (settings : Settings) (kind : SourceKind) (r : Resource) :
    Anonymous (kind.dataSource settings r) := by
  cases kind with
  | vpcInstances =>
    refine FailsOnly.bind (Listing.anonymous_upTo fun _ => anonymous_call) fun vpcs => ?_
    exact FailsOnly.bind (anonymous_vpcItems vpcs) fun _ => failsOnly_pure
  | vpcSubnets =>
    exact FailsOnly.bind (Listing.anonymous_upTo fun _ => anonymous_call) fun _ => failsOnly_pure
  | vpcRouteTables =>
    refine FailsOnly.bind (Listing.anonymous_upTo fun _ => anonymous_call) fun tables => ?_
    refine failsOnly_lift_bind (fun e he => ?_) fun _ _ => failsOnly_pure
    obtain ⟨table, -, htable⟩ := exists_of_mapM_eq_error he
    exact resource_of_routeTableItem htable
  | backupList => exact anonymous_backupList r
  | parameterList => exact anonymous_parameterList r
  | zoneConfig => exact FailsOnly.bind anonymous_call fun _ => failsOnly_pure

end DataSource

/-! ## Operations on resources -/

namespace Provider

variable (settings : Settings) {kind : LifecycleKind} {r : Resource}

theorem resource_of_lifecycleKind {id : ResourceId} {e : Error} (h : lifecycleKind id = .error e) :
    e.resource = none := by
  rw [lifecycleKind] at h
  split at h
  · cases h
  · obtain rfl := Except.error.inj h
    rfl

theorem resource_of_sourceKind {id : ResourceId} {e : Error} (h : sourceKind id = .error e) :
    e.resource = none := by
  rw [sourceKind] at h
  split at h
  · cases h
  · obtain rfl := Except.error.inj h
    rfl

theorem resource_of_prepare {kind : SourceKind} {e : Error} (h : prepare kind.schema r = .error e) :
    e.resource = none := by
  obtain ⟨-, text, rfl, -⟩ := prepare_eq_error kind.schema_nodup h
  rfl

theorem resource_of_prepareFor {e : Error}
    (h : prepareFor kind.schema (kind.lifecycle settings) r = .error e) : e.resource = none := by
  obtain ⟨text, rfl, -⟩ := exists_of_prepareFor_error h
  rfl

theorem resource_of_checkReplacements {current : State} {e : Error}
    (h : checkReplacements kind.schema current r = .error e) : e.resource = none := by
  obtain ⟨text, rfl⟩ := exists_of_checkReplacements_error h
  rfl

theorem anonymous_readBack {s : String} :
    Anonymous (readBack kind.schema (kind.lifecycle settings) r s) := by
  refine FailsOnly.bind (Lifecycle.anonymous_read settings kind s) fun attributes => ?_
  cases attributes with
  | none => exact failsOnly_throw rfl
  | some _ => exact failsOnly_pure

theorem names_read (id : ResourceId) (identifier : Option String) :
    FailsOnly (fun e => e.resource = some id) (read settings id identifier) := by
  refine Anonymous.onResource (failsOnly_lift_bind (fun _ => resource_of_lifecycleKind)
    fun kind _ => ?_) id
  cases identifier with
  | none => exact failsOnly_pure
  | some s =>
    refine FailsOnly.bind (Lifecycle.anonymous_read settings kind s) fun attributes => ?_
    cases attributes with
    | none => exact FailsOnly.bind failsOnly_log fun _ => failsOnly_pure
    | some _ => exact FailsOnly.bind failsOnly_log fun _ => failsOnly_pure

/-- **A creation that fails names its resource.** -/
theorem names_create (r : Resource) :
    FailsOnly (fun e => e.resource = some r.id) (create settings r) := by
  refine Anonymous.onResource (failsOnly_lift_bind (fun _ => resource_of_lifecycleKind)
    fun kind _ => failsOnly_lift_bind (fun _ => resource_of_prepareFor settings)
      fun prepared _ => FailsOnly.bind failsOnly_log fun _ => ?_) r.id
  refine FailsOnly.bind (failsOnly_logFailure (Lifecycle.anonymous_create settings kind prepared))
    fun identifier => ?_
  exact FailsOnly.bind failsOnly_log fun _ => anonymous_readBack settings

theorem names_update (id : ResourceId) (s : String) (current : State) (desired : Resource) :
    FailsOnly (fun e => e.resource = some id) (update settings id s current desired) := by
  refine Anonymous.onResource (failsOnly_lift_bind (fun _ => resource_of_lifecycleKind)
    fun kind _ => failsOnly_lift_bind (fun _ => resource_of_prepareFor settings)
      fun prepared _ => failsOnly_lift_bind (fun _ => resource_of_checkReplacements)
        fun _ _ => FailsOnly.bind failsOnly_log fun _ => ?_) id
  exact FailsOnly.bind
    (failsOnly_logFailure (Lifecycle.anonymous_update settings kind s current prepared))
    fun _ => anonymous_readBack settings

theorem names_delete (id : ResourceId) (s : String) :
    FailsOnly (fun e => e.resource = some id) (delete settings id s) :=
  Anonymous.onResource (failsOnly_lift_bind (fun _ => resource_of_lifecycleKind)
    fun kind _ => FailsOnly.bind failsOnly_log fun _ =>
      failsOnly_logFailure (Lifecycle.anonymous_delete settings kind s)) id

theorem names_query (r : Resource) :
    FailsOnly (fun e => e.resource = some r.id) (query settings r) := by
  refine Anonymous.onResource (failsOnly_lift_bind (fun _ => resource_of_sourceKind)
    fun kind _ => failsOnly_lift_bind (fun _ => resource_of_prepare) fun prepared _ => ?_) r.id
  refine FailsOnly.bind (DataSource.anonymous_dataSource settings kind prepared) fun found => ?_
  exact FailsOnly.bind failsOnly_log fun _ => failsOnly_pure

end Provider

end CloudProvider
