import CloudProvider.Dialogue

/-!
# Look-ups by a unique key

* `Lookup.unique`: the only entity that a key matches, if it matches one.
-/

namespace CloudProvider.Lookup

variable {Q A α : Type}

/-- The event of a key that matches several entities. -/
def severalMatched (entity key : String) (count : Nat) : Event where
  level := .warn
  message := "lookup by unique key matched several entities"
  fields := [("entity", .text entity), ("key", .text key), ("count", .number count)]

/-- **The only entity among those that a key matches**, or nothing if there is none. Several are an
error. -/
def unique (entity key : String) (candidates : List α) : Operation Q A (Option α) :=
  match candidates with
  | [] => return none
  | [a] => return some a
  | candidates => do
    Operation.log (severalMatched entity key candidates.length)
    throw ⟨.ambiguous entity key candidates.length, none⟩

end CloudProvider.Lookup
