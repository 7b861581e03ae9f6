import CloudProvider.Fields
import CloudProvider.Json.Double

/-!
# JSON values

* `Json`: null, booleans, integers, doubles, texts, arrays and objects.
* `Json.member?`, `Json.str?`, …: what a value holds.
-/

namespace CloudProvider

/-- A JSON value. A reader keeps an integer exactly if it fits in 64 bits, signed or not, and lists
the members of an object in ascending order of their names, each once. -/
inductive Json where
  | null
  | bool (b : Bool)
  | int (n : Int)
  | float (x : Double)
  | str (s : String)
  | arr (items : List Json)
  | obj (members : List (String × Json))
  deriving Repr, Inhabited

namespace Json

/-- An object of some members, in whatever order they are given. -/
def object (members : List (String × Json)) : Json := .obj (Fields.ofList members)

/-- The member of an object under a name. -/
def member? (name : String) : Json → Option Json
  | .obj members => Fields.get? members name
  | _ => none

def str? : Json → Option String
  | .str s => some s
  | _ => none

def bool? : Json → Option Bool
  | .bool b => some b
  | _ => none

def int? : Json → Option Int
  | .int n => some n
  | _ => none

/-- The integers from 0 that fit in 64 bits. -/
def nat? : Json → Option UInt64
  | .int n => if 0 ≤ n ∧ n.toNat < UInt64.size then some (UInt64.ofNat n.toNat) else none
  | _ => none

def arr? : Json → Option (List Json)
  | .arr items => some items
  | _ => none

def obj? : Json → Option (Fields Json)
  | .obj members => some members
  | _ => none

/-- A list of texts. -/
def strs (items : List String) : Json := .arr (items.map .str)

end Json

end CloudProvider
