import CloudProvider.Json.Document
import CloudProvider.Json.Decode
import CloudProvider.Resource
import CloudProvider.Value.Json

/-!
# Resource files

A resource file is a JSON object with the type, the name and the attributes of a resource.

* `ResourceFile.read`: the resource that a file declares.
-/

namespace CloudProvider.Cli.ResourceFile

/-- Why a text declares no resource. -/
inductive Fault where
  | notJson
  | noType
  | attributesNotObject
  | noInteger (e : Value.NoInteger)
  deriving DecidableEq, Repr

/-- The wording of a fault. -/
def Fault.message : Fault → String
  | .notJson => s!"Invalid JSON: {Issue.notJson.message}"
  | .noType => "resource file needs a string 'type'"
  | .attributesNotObject => "'attributes' should be an object"
  | .noInteger e => s!"{e.text} is not an integer"

/-- The attributes that a value gives; there may be none at all. -/
def attributes : Option Json → Except Fault Attributes
  | none => .ok []
  | some (.obj members) => (Value.ofMembers members).mapError .noInteger
  | some _ => .error .attributesNotObject

/-- The name of a resource whose file gives none. -/
def defaultName : String := "main"

/-- The resource that a value declares. -/
def ofJson (j : Json) : Except Fault Resource := do
  let some type := (j.member? "type").bind Json.str? | throw .noType
  let name := ((j.member? "name").bind Json.str?).getD defaultName
  return { id := ⟨type, name⟩, attributes := ← attributes (j.member? "attributes") }

/-- **The resource that a file declares.** -/
def read (content : String) : Except Fault Resource :=
  match Json.read? content with
  | none => .error .notJson
  | some j => ofJson j

end CloudProvider.Cli.ResourceFile
