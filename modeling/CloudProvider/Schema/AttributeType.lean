import CloudProvider.Schema.Format

/-!
# Types of attributes

* `AttributeType.check`: whether a value conforms to a type; the first fault found is reported.
* `AttributeType.name`, `AttributeType.zero`: how a type reads, and the value that stands for none.
* `TypeError.message`: the wording of a fault.
-/

namespace CloudProvider

/-- The type of an attribute. Bounds are inclusive. -/
inductive AttributeType where
  | text
  | int
  | bool
  | oneOf (variants : List String)
  /-- Texts by their number of characters. -/
  | textBetween (min max : UInt64)
  | intBetween (min max : Int64)
  | format (f : Format)
  | list (item : AttributeType)
  /-- Lists by their length. -/
  | listBetween (item : AttributeType) (min max : UInt64)
  | map (item : AttributeType)
  deriving DecidableEq, Repr, Inhabited

/-- Why a value does not conform to a type, or attributes not to a schema. -/
inductive TypeError where
  | mismatch (expected got : String)
  | noVariant (value : String) (variants : List String)
  | outOfRange (what : String) (got min max : Int64)
  | badFormat (message : String)
  | missing (name : String)
  | attribute (name : String) (inner : TypeError)
  | item (index : Nat) (inner : TypeError)
  | entry (key : String) (inner : TypeError)
  deriving DecidableEq, Repr

/-- The wording of a type error. -/
def TypeError.message : TypeError → String
  | .mismatch expected got => s!"Type mismatch: expected {expected}, got {got}"
  | .noVariant value variants =>
    let known := ", ".intercalate variants
    s!"Invalid enum variant '{value}', expected one of: {known}"
  | .outOfRange what got min max => s!"{what} is {got}, expected [{min}, {max}]"
  | .badFormat message => s!"Validation failed: {message}"
  | .missing name => s!"Required attribute '{name}' is missing"
  | .attribute name inner => s!"Attribute '{name}': {inner.message}"
  | .item index inner => s!"List item at index {index}: {inner.message}"
  | .entry key inner => s!"Map value for key '{key}': {inner.message}"

namespace AttributeType

/-- How a type reads. -/
def name : AttributeType → String
  | .text => "String"
  | .int => "Int"
  | .bool => "Bool"
  | .oneOf variants =>
    let known := " | ".intercalate variants
    s!"Enum({known})"
  | .textBetween min max => s!"String[{min}..={max}]"
  | .intBetween min max => s!"Int[{min}..={max}]"
  | .format f => f.name
  | .list item => s!"List<{item.name}>"
  | .listBetween item min max => s!"List<{item.name}>[{min}..={max}]"
  | .map item => s!"Map<{item.name}>"

/-- The value of an attribute that the remote entity does not give. -/
def zero : AttributeType → Value
  | .text | .oneOf _ | .textBetween _ _ => .text ""
  | .int | .intBetween _ _ => .int 0
  | .bool => .bool false
  | .format f => f.zero
  | .list _ | .listBetween _ _ _ => .list []
  | .map _ => .map []

/-- A length between two bounds. -/
def checkLength (what : String) (length : Nat) (min max : UInt64) : Except TypeError Unit :=
  if length < min.toNat ∨ max.toNat < length then
    .error (.outOfRange what (Int64.ofNat length) min.toInt64 max.toInt64)
  else .ok ()

/-- Every item of a list checked, the first one having this index. -/
def checkItems (check : Value → Except TypeError Unit) (index : Nat) :
    List Value → Except TypeError Unit
  | [] => .ok ()
  | v :: vs => do
    (check v).mapError (.item index)
    checkItems check (index + 1) vs

/-- Every value of a map checked. -/
def checkEntries (check : Value → Except TypeError Unit) :
    List (String × Value) → Except TypeError Unit
  | [] => .ok ()
  | (key, v) :: rest => do
    (check v).mapError (.entry key)
    checkEntries check rest

/-- **Whether a value conforms to a type.** Lists are checked from their first item on, maps in the
order of their keys. -/
def check : AttributeType → Value → Except TypeError Unit
  | .text, .text _ | .int, .int _ | .bool, .bool _ => .ok ()
  | .oneOf variants, .text s => if s ∈ variants then .ok () else .error (.noVariant s variants)
  | .textBetween min max, .text s => checkLength s!"length of '{s}'" s.length min max
  | .intBetween min max, .int n =>
    if n < min ∨ max < n then .error (.outOfRange "value" n min max) else .ok ()
  | .format f, v => (f.check v).mapError .badFormat
  | .list item, .list vs => checkItems item.check 0 vs
  | .listBetween item min max, .list vs => do
    checkLength "list length" vs.length min max
    checkItems item.check 0 vs
  | .map item, .map entries => checkEntries item.check entries
  | t, v => .error (.mismatch t.name v.kindName)

theorem check_text {v : Value} : text.check v = .ok () ↔ ∃ s, v = .text s := by
  cases v <;> simp [check]

end AttributeType

end CloudProvider
