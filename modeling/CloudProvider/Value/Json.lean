import CloudProvider.Json.Printer
import CloudProvider.Value

/-!
# Attribute values as JSON

* `Value.toJson`: a value as JSON.
* `Value.ofJson`: JSON as a value; null is no value, and all numbers have to be integers.
-/

namespace CloudProvider.Value

mutual

/-- **A value as JSON.** -/
def toJson : Value → Json
  | .text s => .str s
  | .int n => .int n.toInt
  | .bool b => .bool b
  | .list items => .arr (itemsToJson items)
  | .map entries => .obj (entriesToJson entries)

def itemsToJson : List Value → List Json
  | [] => []
  | v :: vs => v.toJson :: itemsToJson vs

def entriesToJson : List (String × Value) → List (String × Json)
  | [] => []
  | (key, v) :: rest => (key, v.toJson) :: entriesToJson rest

end

/-- Attributes as a JSON object. -/
def attributesToJson (attributes : Attributes) : Json := .obj (entriesToJson attributes)

/-- A number that is no integer of 64 bits. -/
structure NoInteger where
  text : String
  deriving DecidableEq, Repr

mutual

/-- **JSON as a value.** Null is no value, also within lists and maps, where it leaves nothing
behind. The first number that is no integer is reported. -/
def ofJson : Json → Except NoInteger (Option Value)
  | .null => .ok none
  | .bool b => .ok (some (.bool b))
  | .str s => .ok (some (.text s))
  | .int n =>
    if -0x8000000000000000 ≤ n ∧ n < 0x8000000000000000 then .ok (some (.int (Int64.ofInt n)))
    else .error ⟨toString n⟩
  | .float x => .error ⟨String.ofList x.render⟩
  | .arr items => do return some (.list (← ofItems items))
  | .obj members => do return some (.map (← ofMembers members))

/-- The values of the items of an array. -/
def ofItems : List Json → Except NoInteger (List Value)
  | [] => .ok []
  | j :: js => do
    let v ← ofJson j
    let vs ← ofItems js
    return v.toList ++ vs

/-- The values of the members of an object. -/
def ofMembers : List (String × Json) → Except NoInteger (List (String × Value))
  | [] => .ok []
  | (name, j) :: rest => do
    let v ← ofJson j
    let entries ← ofMembers rest
    return (v.toList.map fun v => (name, v)) ++ entries

end

end CloudProvider.Value
