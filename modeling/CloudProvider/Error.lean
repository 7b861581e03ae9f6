import CloudProvider.Resource

/-!
# What goes wrong

* `ApiError`: an answer of the remote that reports a failure.
* `Cause`: why an operation on a resource fails.
* `Error`: a cause, with the resource that it concerns once that is known.
-/

namespace CloudProvider

/-- A failure reported by the remote, or met on the way to it. -/
structure ApiError where
  /-- The action that failed. -/
  action : String
  code : String
  message : String
  requestId : Option String := none
  deriving DecidableEq, Repr

namespace ApiError

def text (e : ApiError) : String :=
  s!"api[{e.action}] failed with code {e.code}: {e.message}"

/-- Whether the code is one of some that say that an entity does not exist. -/
def isNotFound (e : ApiError) (codes : List String) : Bool :=
  e.code ∈ codes

end ApiError

/-- Why an operation fails. -/
inductive Cause where
  /-- A local check failed. -/
  | invalid (message : String)
  /-- A key that should name one entity matched several. -/
  | ambiguous (entity key : String) (count : Nat)
  | remote (e : ApiError)
  /-- The remote gave up an asynchronous request. -/
  | requestFailed (requestId message : String)
  /-- An asynchronous request was not done after the last poll. -/
  | requestUnfinished (requestId : String) (attempts : Nat)
  /-- An answer lacks what the operation depends on. -/
  | malformed (message : String)
  | unsupported (message : String)
  deriving DecidableEq, Repr

/-- The wording of a cause. -/
def Cause.message : Cause → String
  | .invalid message => s!"validation failed: {message}"
  | .ambiguous entity key count => s!"expected at most one {entity} for {key}, found {count}"
  | .remote e => e.text
  | .requestFailed requestId message => s!"async request {requestId} failed: {message}"
  | .requestUnfinished requestId attempts =>
    s!"async request {requestId} did not finish after {attempts} polls"
  | .malformed message => s!"malformed response: {message}"
  | .unsupported message => s!"unsupported: {message}"

/-- Why an operation fails, and on which resource. -/
structure Error where
  cause : Cause
  resource : Option ResourceId := none
  deriving DecidableEq, Repr

namespace Error

/-- The wording of an error, after the resource that it concerns. -/
def message (e : Error) : String :=
  match e.resource with
  | none => e.cause.message
  | some id => s!"[{id.text}] {e.cause.message}"

/-- The resource that an error concerns, unless one was given before. -/
def forResource (e : Error) (id : ResourceId) : Error :=
  { e with resource := e.resource.or (some id) }

/-- The answer of the remote that caused an error. -/
def apiError? (e : Error) : Option ApiError :=
  match e.cause with
  | .remote e => some e
  | _ => none

def isInvalid (e : Error) : Bool :=
  match e.cause with
  | .invalid _ => true
  | _ => false

def isAmbiguous (e : Error) : Bool :=
  match e.cause with
  | .ambiguous .. => true
  | _ => false

def invalid (message : String) : Error := ⟨.invalid message, none⟩

def malformed (message : String) : Error := ⟨.malformed message, none⟩

def unsupported (message : String) : Error := ⟨.unsupported message, none⟩

end Error

end CloudProvider
