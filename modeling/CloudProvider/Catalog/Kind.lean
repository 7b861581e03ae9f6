import CloudProvider.Catalog.Mysql

/-!
# Kinds of resources

* `LifecycleKind`: the resources that can be created, changed and deleted.
* `SourceKind`: the data sources, which are only looked up.
* `Kind`: all of them, with their names and schemas.
-/

namespace CloudProvider

/-- A kind of resource that can be created, changed and deleted. -/
inductive LifecycleKind where
  | vpc | subnet | routeTable | routeEntry | account | privilege | backupPolicy
  deriving DecidableEq, Repr

/-- A kind of data source. -/
inductive SourceKind where
  | vpcInstances | vpcSubnets | vpcRouteTables | backupList | parameterList | zoneConfig
  deriving DecidableEq, Repr

/-- A kind of resource or data source. -/
inductive Kind where
  | lifecycle (k : LifecycleKind)
  | source (k : SourceKind)
  deriving DecidableEq, Repr

namespace LifecycleKind

def all : List LifecycleKind :=
  [.vpc, .subnet, .routeTable, .routeEntry, .account, .privilege, .backupPolicy]

def schema : LifecycleKind → Schema
  | .vpc => Catalog.vpcSchema
  | .subnet => Catalog.subnetSchema
  | .routeTable => Catalog.routeTableSchema
  | .routeEntry => Catalog.routeEntrySchema
  | .account => Catalog.accountSchema
  | .privilege => Catalog.privilegeSchema
  | .backupPolicy => Catalog.backupPolicySchema

/-- The name of a kind, which is the type of its resources. -/
def name (k : LifecycleKind) : String := k.schema.resourceType

def ofName? (name : String) : Option LifecycleKind := all.find? fun k => k.name = name

end LifecycleKind

namespace SourceKind

def all : List SourceKind :=
  [.vpcInstances, .vpcSubnets, .vpcRouteTables, .backupList, .parameterList, .zoneConfig]

def schema : SourceKind → Schema
  | .vpcInstances => Catalog.vpcInstancesSchema
  | .vpcSubnets => Catalog.vpcSubnetsSchema
  | .vpcRouteTables => Catalog.vpcRouteTablesSchema
  | .backupList => Catalog.backupListSchema
  | .parameterList => Catalog.parameterListSchema
  | .zoneConfig => Catalog.zoneConfigSchema

/-- The name of a kind, which is the type of its resources. -/
def name (k : SourceKind) : String := k.schema.resourceType

def ofName? (name : String) : Option SourceKind := all.find? fun k => k.name = name

end SourceKind

namespace Kind

/-- All kinds, the resources first. -/
def all : List Kind := LifecycleKind.all.map .lifecycle ++ SourceKind.all.map .source

def schema : Kind → Schema
  | .lifecycle k => k.schema
  | .source k => k.schema

def name (k : Kind) : String := k.schema.resourceType

def isSource : Kind → Bool
  | .lifecycle _ => false
  | .source _ => true

def ofName? (name : String) : Option Kind := all.find? fun k => k.name = name

end Kind

end CloudProvider
