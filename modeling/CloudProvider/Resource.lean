import CloudProvider.Value

/-!
# Resources and their states

* `Resource`: the desired state of a resource, as its declaration gives it.
* `State`: what is known of the resource itself.
* `Resource.text?`, `Resource.texts?`, …: a desired attribute of a kind.
-/

namespace CloudProvider

/-- The type of a resource and the name that its declaration gives it. -/
structure ResourceId where
  type : String
  name : String
  deriving DecidableEq, Repr

def ResourceId.text (id : ResourceId) : String :=
  s!"{id.type}.{id.name}"

/-- The desired state of a resource. -/
structure Resource where
  id : ResourceId
  attributes : Attributes
  /-- Whether the resource is only looked up. -/
  readOnly : Bool := false

namespace Resource

variable (r : Resource)

/-- A text among the attributes; an empty one counts as not given. -/
def text? (key : String) : Option String :=
  ((r.attributes.get? key).bind Value.text?).filter (· ≠ "")

def bool? (key : String) : Option Bool :=
  (r.attributes.get? key).bind Value.bool?

def boolOr (key : String) (fallback : Bool) : Bool :=
  (r.bool? key).getD fallback

def int? (key : String) : Option Int64 :=
  (r.attributes.get? key).bind Value.int?

/-- The texts of a list among the attributes. -/
def texts? (key : String) : Option (List String) :=
  (r.attributes.get? key).bind Value.texts?

end Resource

/-- What is known of a resource: that it does not exist, or its attributes and the identifier that
the remote gave it. -/
inductive State where
  | absent (id : ResourceId)
  | existing (id : ResourceId) (identifier : Option String) (attributes : Attributes)
  deriving DecidableEq, Repr

namespace State

def id : State → ResourceId
  | .absent id => id
  | .existing id _ _ => id

def identifier? : State → Option String
  | .absent _ => none
  | .existing _ identifier _ => identifier

def attributes : State → Attributes
  | .absent _ => []
  | .existing _ _ attributes => attributes

def isPresent : State → Bool
  | .absent _ => false
  | .existing .. => true

/-- An attribute of an existing resource. -/
def get? (s : State) (key : String) : Option Value :=
  s.attributes.get? key

end State

end CloudProvider
