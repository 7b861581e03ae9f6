import CloudProvider.Error
import CloudProvider.Text.Pieces

/-!
# Identifiers of several parts

Entities of a database instance are addressed by a few names with `#` between them.

* `CompositeId.text`: the identifier of some parts.
* `CompositeId.two`, `CompositeId.three`: the parts of an identifier.
-/

namespace CloudProvider.CompositeId

/-- The identifier of some parts. -/
def text (parts : List String) : String := "#".intercalate parts

/-- The parts of an identifier, if there are `count` of them and none is empty. -/
def parts? (count : Nat) (s : String) : Option (List String) :=
  let parts := Text.pieces '#' s
  if parts.length = count ∧ "" ∉ parts then some parts else none

/-- The error of an identifier that is not of a shape. -/
def badShape (s shape : String) : Error :=
  .invalid s!"identifier '{s}' must look like {shape}"

/-- **The two parts of an identifier.** -/
def two (s shape : String) : Except Error (String × String) :=
  match parts? 2 s with
  | some [a, b] => .ok (a, b)
  | _ => .error (badShape s shape)

/-- **The three parts of an identifier.** -/
def three (s shape : String) : Except Error (String × String × String) :=
  match parts? 3 s with
  | some [a, b, c] => .ok (a, b, c)
  | _ => .error (badShape s shape)

end CloudProvider.CompositeId
