import CloudProvider.Fields

/-!
# Attribute values

* `Value`: a text, an integer of 64 bits, a boolean, a list or a map of values.
* `Value.text?`, `Value.texts?`, …: what a value holds.
* `beq_iff`: two values can be told apart.
-/

namespace CloudProvider

/-- The value of an attribute. Maps list their entries in ascending order of the keys. -/
inductive Value where
  | text (s : String)
  | int (n : Int64)
  | bool (b : Bool)
  | list (items : List Value)
  | map (entries : List (String × Value))
  deriving Repr, Inhabited

/-- The attributes of a resource, by name. -/
abbrev Attributes := Fields Value

namespace Value

def text? : Value → Option String
  | .text s => some s
  | _ => none

def int? : Value → Option Int64
  | .int n => some n
  | _ => none

def bool? : Value → Option Bool
  | .bool b => some b
  | _ => none

/-- The texts of a list; items that are no texts are passed over. -/
def texts? : Value → Option (List String)
  | .list items => some (items.filterMap text?)
  | _ => none

/-- A list of texts. -/
def texts (items : List String) : Value := .list (items.map .text)

/-- A map of some entries, in whatever order they are given. -/
def ofEntries (entries : List (String × Value)) : Value := .map (Fields.ofList entries)

/-- The kind of a value, as messages name it. -/
def kindName : Value → String
  | .text _ => "String"
  | .int _ => "Int"
  | .bool _ => "Bool"
  | .list _ => "List"
  | .map _ => "Map"

/-! ## Equality -/

mutual

def beq : Value → Value → Bool
  | .text s, .text t => s == t
  | .int m, .int n => m == n
  | .bool b, .bool c => b == c
  | .list xs, .list ys => beqItems xs ys
  | .map xs, .map ys => beqEntries xs ys
  | _, _ => false

def beqItems : List Value → List Value → Bool
  | [], [] => true
  | x :: xs, y :: ys => beq x y && beqItems xs ys
  | _, _ => false

def beqEntries : List (String × Value) → List (String × Value) → Bool
  | [], [] => true
  | (j, x) :: xs, (k, y) :: ys => j == k && beq x y && beqEntries xs ys
  | _, _ => false

end

mutual

theorem beq_iff : ∀ a b : Value, a.beq b = true ↔ a = b
  | .text _, b | .int _, b | .bool _, b => by cases b <;> simp [beq]
  | .list xs, b => by cases b <;> simp [beq, beqItems_iff xs]
  | .map xs, b => by cases b <;> simp [beq, beqEntries_iff xs]

theorem beqItems_iff : ∀ xs ys : List Value, beqItems xs ys = true ↔ xs = ys
  | [], ys => by cases ys <;> simp [beqItems]
  | x :: xs, ys => by cases ys <;> simp [beqItems, beq_iff x, beqItems_iff xs]

theorem beqEntries_iff : ∀ xs ys : List (String × Value), beqEntries xs ys = true ↔ xs = ys
  | [], ys => by cases ys <;> simp [beqEntries]
  | (j, x) :: xs, ys => by
    cases ys <;> simp [beqEntries, Prod.ext_iff, beq_iff x, beqEntries_iff xs]

end

instance : DecidableEq Value := fun a b => decidable_of_iff _ (beq_iff a b)

end Value

end CloudProvider
