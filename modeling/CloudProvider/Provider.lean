import CloudProvider.Catalog.Kind
import CloudProvider.DataSource.Mysql
import CloudProvider.DataSource.Network
import CloudProvider.Lifecycle.Mysql
import CloudProvider.Lifecycle.Network

/-!
# Operations on resources

Desired attributes get their defaults and are checked before any call. Every change is followed by a
read of the entity, which is then given a value for each attribute of its schema.

* `Provider.read`, `Provider.create`, `Provider.update`, `Provider.delete`: what can be done with
  the resources of a lifecycle.
* `Provider.query`: what a data source finds.
* `Provider.prepare`: the checks before any call.
-/

namespace CloudProvider

/-- The lifecycle of a kind of resource. -/
def LifecycleKind.lifecycle (settings : Settings) : LifecycleKind → Lifecycle
  | .vpc => Lifecycle.vpc settings.pageSize
  | .subnet => Lifecycle.subnet settings.pageSize
  | .routeTable => Lifecycle.routeTable settings.pageSize
  | .routeEntry => Lifecycle.routeEntry settings.pageSize
  | .account => Lifecycle.account settings
  | .privilege => Lifecycle.privilege settings
  | .backupPolicy => Lifecycle.backupPolicy

/-- The data source of a kind. -/
def SourceKind.dataSource (settings : Settings) : SourceKind → DataSource
  | .vpcInstances => DataSource.vpcInstances settings.pageSize
  | .vpcSubnets => DataSource.vpcSubnets settings.pageSize
  | .vpcRouteTables => DataSource.vpcRouteTables settings.pageSize
  | .backupList => DataSource.backupList settings.pageSize
  | .parameterList => DataSource.parameterList
  | .zoneConfig => DataSource.zoneConfig settings

namespace Provider

/-- The name of the provider. -/
def name : String := "tencentcloud"

/-! ## Checks -/

/-- The kind of the resources of a type. -/
def lifecycleKind (id : ResourceId) : Except Error LifecycleKind :=
  match LifecycleKind.ofName? id.type with
  | some k => .ok k
  | none => .error (.unsupported s!"Unknown resource type: {id.type}")

/-- The kind of the data sources of a type. -/
def sourceKind (id : ResourceId) : Except Error SourceKind :=
  match SourceKind.ofName? id.type with
  | some k => .ok k
  | none => .error (.unsupported s!"Unknown data source: {id.type}")

/-- **A resource with its defaults filled in**, if its attributes conform to a schema. -/
def prepare (schema : Schema) (r : Resource) : Except Error Resource :=
  let r := { r with attributes := schema.withDefaults r.attributes }
  match schema.violations r.attributes with
  | [] => .ok r
  | violations => .error (.invalid ("; ".intercalate (violations.map TypeError.message)))

/-- A resource with its defaults filled in, if its attributes conform and go together. -/
def prepareFor (schema : Schema) (lifecycle : Lifecycle) (r : Resource) :
    Except Error Resource := do
  let r ← prepare schema r
  lifecycle.check r
  return r

/-- An error if a desired resource differs from a state in what cannot be changed in place. -/
def checkReplacements (schema : Schema) (current : State) (desired : Resource) :
    Except Error Unit :=
  match schema.replacements current.attributes desired.attributes with
  | [] => .ok ()
  | names =>
    let changed := ", ".intercalate names
    .error (.invalid s!"cannot change {changed} in place, the resource must be replaced")

/-! ## Events -/

/-- An event of an operation on a resource. -/
def event (level : Level) (message : String) (id : ResourceId)
    (more : List (String × String)) : Api Unit :=
  Operation.log (.ofTexts level message (("resource", id.text) :: more))

/-- An operation on a resource whose failure is logged. -/
def logFailure {α : Type} (message : String) (id : ResourceId) (op : Api α) : Api α := do
  match ← op.outcome with
  | .ok a => return a
  | .error e =>
    event .error message id [("error", e.message)]
    throw e

/-! ## Operations -/

/-- The desired values of the attributes that are never read back put over some attributes. -/
def carryOver (schema : Schema) (desired : Resource) (attributes : Attributes) : Attributes :=
  schema.attributes.foldl (fun (attributes : Attributes) (name, a) =>
    if a.writeOnly then
      match desired.attributes.get? name with
      | some v => attributes.insert name v
      | none => attributes
    else attributes) attributes

/-- The state of a resource right after a change. -/
def readBack (schema : Schema) (lifecycle : Lifecycle) (desired : Resource) (identifier : String) :
    Api State := do
  let some attributes ← lifecycle.read identifier
    | throw (.malformed s!"{desired.id.type} {identifier} not found right after it was written")
  let attributes := carryOver schema desired (schema.complete attributes)
  return .existing desired.id (some identifier) attributes

variable (settings : Settings)

/-- **The state of a resource.** One without an identifier does not exist yet. -/
def read (id : ResourceId) (identifier : Option String) : Api State :=
  Operation.onResource id do
    let kind ← lifecycleKind id
    match identifier with
    | none => return .absent id
    | some identifier =>
      match ← (kind.lifecycle settings).read identifier with
      | some attributes =>
        event .debug "read" id [("identifier", identifier)]
        return .existing id (some identifier) (kind.schema.complete attributes)
      | none =>
        event .debug "not found" id [("identifier", identifier)]
        return .absent id

/-- **A new resource**, with its state. -/
def create (r : Resource) : Api State :=
  Operation.onResource r.id do
    let kind ← lifecycleKind r.id
    let lifecycle := kind.lifecycle settings
    let r ← prepareFor kind.schema lifecycle r
    event .info "creating" r.id []
    let identifier ← logFailure "create failed" r.id (lifecycle.create r)
    event .info "created" r.id [("identifier", identifier)]
    readBack kind.schema lifecycle r identifier

/-- **A resource brought from a state to a desired one**, with its new state. -/
def update (id : ResourceId) (identifier : String) (current : State) (desired : Resource) :
    Api State :=
  Operation.onResource id do
    let kind ← lifecycleKind id
    let lifecycle := kind.lifecycle settings
    let desired ← prepareFor kind.schema lifecycle desired
    checkReplacements kind.schema current desired
    event .info "updating" id [("identifier", identifier)]
    logFailure "update failed" id (lifecycle.update identifier current desired)
    readBack kind.schema lifecycle desired identifier

/-- **A resource removed**, if it exists. -/
def delete (id : ResourceId) (identifier : String) : Api Unit :=
  Operation.onResource id do
    let kind ← lifecycleKind id
    event .info "deleting" id [("identifier", identifier)]
    logFailure "delete failed" id ((kind.lifecycle settings).delete identifier)

/-- **What a data source finds.** -/
def query (r : Resource) : Api State :=
  Operation.onResource r.id do
    let kind ← sourceKind r.id
    let r ← prepare kind.schema r
    let found ← kind.dataSource settings r
    event .debug "queried" r.id [("identifier", found.identifier)]
    return .existing r.id (some found.identifier) (kind.schema.complete found.attributes)

end Provider

end CloudProvider
