import CloudProvider.Catalog.Kind
import CloudProvider.Cli.ResourceFile
import CloudProvider.Config
import CloudProvider.Resource

/-!
# Queries of a command line

* `Fault`: why a command is not carried out.
* `query`: the query of a data source that some filters make.
-/

namespace CloudProvider.Cli

/-- Why a command is not carried out. -/
inductive Fault where
  | unknownType (name : String)
  /-- A resource is not a data source. -/
  | notSource (type : String)
  /-- A data source cannot be deleted. -/
  | notDeletable (type : String)
  | noIdFilter (kind : String)
  /-- A filter has no equals sign. -/
  | badFilter (filter : String)
  | unknownFilter (key kind : String)
  | filterNoInteger (key value : String)
  | config (fault : Config.Fault)
  /-- A resource file cannot be read. -/
  | unreadable (path reason : String)
  | resourceFile (fault : ResourceFile.Fault)
  | violations (id : ResourceId) (errors : List TypeError)
  /-- Nothing can be read at the prompt. -/
  | noInput (reason : String)
  /-- The resource does not exist. -/
  | absent (type identifier : String)
  | failed (e : Error)
  deriving DecidableEq, Repr

/-- The wording of a fault. -/
def Fault.message : Fault → String
  | .unknownType name =>
    s!"unknown type '{name}', run \x60tccloud types\x60 to list supported types"
  | .notSource type => s!"'{type}' is a resource, not a data source"
  | .notDeletable type => s!"'{type}' is a data source and cannot be deleted"
  | .noIdFilter kind => s!"data source '{kind}' has no id filter"
  | .badFilter filter => s!"filter '{filter}' should be KEY=VALUE"
  | .unknownFilter key kind => s!"unknown filter '{key}' for {kind}"
  | .filterNoInteger key value => s!"filter '{key}' expects an integer, got '{value}'"
  | .config fault => fault.message
  | .unreadable path reason => s!"Failed to read file {path}: {reason}"
  | .resourceFile fault => fault.message
  | .violations id errors =>
    let ls := errors.map fun e => id.text ++ ": " ++ e.message
    "Validation failed:\n  " ++ "\n  ".intercalate ls
  | .noInput reason => s!"Failed to read input: {reason}"
  | .absent type identifier => s!"{type} {identifier} does not exist"
  | .failed e => e.message

/-- The kind of a type. -/
def kindOf (type : String) : Except Fault Kind :=
  match Kind.ofName? type with
  | some k => .ok k
  | none => .error (.unknownType type)

/-! ## Filters -/

/-- The attribute that an id filters on. -/
def idFilter? : SourceKind → Option String
  | .vpcInstances => some "vpc_id"
  | .vpcSubnets => some "subnet_id"
  | .vpcRouteTables => some "route_table_id"
  | .backupList | .parameterList => some "mysql_id"
  | .zoneConfig => none

/-- Whether the values of a type are integers. -/
def isInteger : AttributeType → Bool
  | .int | .intBetween _ _ => true
  | _ => false

/-- The attribute and the value that a filter gives. -/
def filter (schema : Schema) (s : String) : Except Fault (String × Value) :=
  match Text.cut? '=' s with
  | none => .error (.badFilter s)
  | some (key, raw) =>
    match schema.attributes.get? key with
    | none => .error (.unknownFilter key schema.resourceType)
    | some a =>
      if isInteger a.type then
        match Text.integer? raw with
        | some n => .ok (key, .int n)
        | none => .error (.filterNoInteger key raw)
      else .ok (key, .text raw)

/-- The attribute and the value that an id gives. -/
def filterById (kind : SourceKind) (id : String) : Except Fault (String × Value) :=
  match idFilter? kind with
  | some key => .ok (key, .text id)
  | none => .error (.noIdFilter kind.name)

/-- The name under which a query is run. -/
def queryName : String := "cli"

/-- **The query that an id, a name and some filters make.** Of two values for an attribute the later
counts. -/
def query (kind : SourceKind) (id name : Option String) (filters : List String) :
    Except Fault Resource := do
  let byId ← id.toList.mapM (filterById kind)
  let byName := name.toList.map fun s => ("name", Value.text s)
  let others ← filters.mapM (filter kind.schema)
  return { id := ⟨kind.name, queryName⟩, attributes := Fields.ofList (byId ++ byName ++ others),
           readOnly := true }

end CloudProvider.Cli
