import CloudProvider.Api

/-!
# Lifecycles

A lifecycle is what can be done with the resources of one kind: each operation turns into calls, and
what is read back is turned into attributes. Schemas and the read after a change are not its
concern.

* `Lifecycle`: the operations.
* `Resource.required`: an attribute that a call cannot do without.
-/

namespace CloudProvider

/-- The text of an attribute that a call cannot do without. -/
def Resource.required (r : Resource) (key : String) : Except Error String :=
  match r.text? key with
  | some s => .ok s
  | none => .error (.invalid s!"{key} should be a non-empty string")

/-- What can be done with the resources of one kind. -/
structure Lifecycle where
  /-- Whether desired attributes go together, without a call. -/
  check : Resource → Except Error Unit := fun _ => .ok ()
  /-- A new entity, and its identifier. -/
  create : Resource → Api String
  /-- The attributes of the entity with an identifier, if it exists. -/
  read : String → Api (Option Attributes)
  /-- The entity with an identifier brought from a state to a desired one. -/
  update : String → State → Resource → Api Unit
  /-- The entity with an identifier removed, if it exists. -/
  delete : String → Api Unit

end CloudProvider
