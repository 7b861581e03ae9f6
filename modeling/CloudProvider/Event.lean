import CloudProvider.Error

/-!
# Log events

* `Event`: one line of the log, with named fields.
* `Event.inContext`: the event with the id of the operation that it belongs to.
-/

namespace CloudProvider

inductive Level where
  | debug | info | warn | error
  deriving DecidableEq, Repr

/-- What a field of an event holds. -/
inductive Detail where
  | text (s : String)
  | number (n : Nat)
  deriving DecidableEq, Repr

/-- One line of the log. -/
structure Event where
  level : Level
  message : String
  fields : List (String × Detail)
  deriving DecidableEq, Repr

namespace Event

/-- An event all of whose fields are texts. -/
def ofTexts (level : Level) (message : String) (fields : List (String × String)) : Event :=
  ⟨level, message, fields.map fun f => (f.1, .text f.2)⟩

/-- An event with the id of the operation that it belongs to. -/
def inContext (logId : String) (e : Event) : Event :=
  { e with fields := ("log_id", .text logId) :: e.fields }

end Event

end CloudProvider
