import CloudProvider.Proofs.Exec
import CloudProvider.Provider
import Mathlib.Logic.Function.Basic

/-!
# Sessions with a provider

A user asks for one operation after the other. An update starts from the state that the provider
last gave for the identifier.

* `Provider.Request`, `Provider.Request.operation`: what can be asked for.
* `Provider.history`: the requests of a session with their outcomes.
-/

namespace CloudProvider.Provider

open Operation

/-- What a user asks for. -/
inductive Request where
  | create (desired : Resource)
  | read (id : ResourceId) (identifier : Option String)
  | update (id : ResourceId) (identifier : String) (desired : Resource)
  | delete (id : ResourceId) (identifier : String)

/-- How a request ends: with a state, with none if nothing is to be told, or with an error. -/
abbrev Outcome := Except Error (Option State)

/-- The states that a user knows, under their identifiers. -/
abbrev Known := String → Option State

namespace Request

/-- The type of the resource that a request is about. -/
def type : Request → String
  | create desired => desired.id.type
  | read id _ | update id _ _ | delete id _ => id.type

/-- The identifier that a state is about. -/
def identifier? : Request → State → Option String
  | create _, st => st.identifier?
  | read _ identifier, _ => identifier
  | update _ identifier _, _ | delete _ identifier, _ => some identifier

/-- **The operation that a request asks for.** An update starts from the state that is known of the
identifier; where none is, the resource counts as absent. -/
def operation (settings : Settings) (known : Known) : Request → Api (Option State)
  | create desired => do return some (← Provider.create settings desired)
  | read id identifier => do return some (← Provider.read settings id identifier)
  | update id identifier desired => do
    let current := (known identifier).getD (.absent id)
    return some (← Provider.update settings id identifier current desired)
  | delete id identifier => do
    Provider.delete settings id identifier
    return none

end Request

/-- What a user knows after a request: a state that is given takes the place of the one before. -/
def note (known : Known) : Request × Outcome → Known
  | (q, .ok (some st)) =>
    match q.identifier? st with
    | some identifier => Function.update known identifier (some st)
    | none => known
  | _ => known

/-- **The requests of a session, with their outcomes.** -/
def history {σ : Type} (settings : Settings) (remote : Dialogue.Remote σ Call Reply) (s : σ)
    (known : Known) : List Request → List (Request × Outcome)
  | [] => []
  | q :: rest =>
    let (outcome, s) := exec remote s (q.operation settings known)
    (q, outcome) :: history settings remote s (note known (q, outcome)) rest

end CloudProvider.Provider
