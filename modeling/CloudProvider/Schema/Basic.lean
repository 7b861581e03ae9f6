import CloudProvider.Schema.AttributeType

/-!
# Schemas of resources

A schema declares the attributes of a type of resource.

* `Schema.violations`: what is wrong with desired attributes, before any remote call.
* `Schema.withDefaults`: desired attributes with the declared defaults filled in.
* `Schema.complete`: attributes read from the remote, with a value for every readable one.
* `Schema.replacements`: the changes that need a new resource.
-/

namespace CloudProvider

/-- The declaration of an attribute. -/
structure Attribute where
  name : String
  type : AttributeType
  required : Bool := false
  /-- Whether the remote fills in the attribute when it is not given. -/
  computed : Bool := false
  /-- Whether a change needs a new resource. -/
  forceNew : Bool := false
  /-- Whether the attribute is sent but never read back, like a password. -/
  writeOnly : Bool := false
  default : Option Value := none
  description : Option String := none

/-- The attributes of a type of resource, by name. -/
structure Schema where
  resourceType : String
  description : Option String := none
  attributes : Fields Attribute

namespace Schema

/-- A schema of some attributes; of two with one name the later counts. -/
def ofAttributes (resourceType : String) (description : Option String)
    (attributes : List Attribute) : Schema where
  resourceType
  description
  attributes := Fields.ofList (attributes.map fun a => (a.name, a))

variable (schema : Schema)

/-- The required attributes without a default that are not given. -/
def missing (attributes : Attributes) : List TypeError :=
  schema.attributes.filterMap fun (name, a) =>
    if a.required ∧ (attributes.get? name).isNone ∧ a.default.isNone then some (.missing name)
    else none

/-- The declared attributes that are given and do not conform to their types. -/
def nonconforming (attributes : Attributes) : List TypeError :=
  attributes.filterMap fun (name, v) =>
    match schema.attributes.get? name with
    | none => none
    | some a =>
      match a.type.check v with
      | .ok () => none
      | .error e => some (.attribute name e)

/-- **What is wrong with desired attributes**, sorted by wording. Attributes that are not declared
are allowed. -/
def violations (attributes : Attributes) : List TypeError :=
  (schema.missing attributes ++ schema.nonconforming attributes).mergeSort
    fun e f => e.message ≤ f.message

/-- Attributes with a value from `f` for each declared one that is not given, where `f` has one. -/
def fill (f : Attribute → Option Value) (attributes : Attributes) : Attributes :=
  schema.attributes.foldl (fun (given : Attributes) (name, a) =>
    if (given.get? name).isSome then given
    else match f a with
      | some v => given.insert name v
      | none => given) attributes

/-- **Desired attributes with the declared defaults filled in.** -/
def withDefaults (attributes : Attributes) : Attributes :=
  schema.fill (fun a => a.default) attributes

/-- **Attributes of a remote entity with every readable one present**: one that the entity does not
give has the zero value of its type. -/
def complete (attributes : Attributes) : Attributes :=
  schema.fill (fun a => if a.writeOnly then none else some a.type.zero) attributes

/-- **The names of the attributes whose desired value differs from the current one and that cannot
be changed in place**, in order. -/
def replacements (current desired : Attributes) : List String :=
  schema.attributes.filterMap fun (name, a) =>
    match desired.get? name with
    | none => none
    | some v => if a.forceNew ∧ current.get? name ≠ some v then some name else none

end Schema

end CloudProvider
