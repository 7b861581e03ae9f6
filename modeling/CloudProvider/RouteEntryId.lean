import CloudProvider.Error
import CloudProvider.Text.Digits
import CloudProvider.Text.Pieces

/-!
# Identifiers of route entries

A route entry is addressed by its number in a route table and the id of the table, with a dot
between them.

* `RouteEntryId.text`: the text of an identifier.
* `RouteEntryId.ofText`: the identifier that a text writes.
-/

namespace CloudProvider

/-- The address of a route entry. -/
structure RouteEntryId where
  /-- The number of the entry in its table. -/
  entry : UInt64
  routeTable : String
  deriving DecidableEq, Repr

namespace RouteEntryId

/-- The text of an identifier. -/
def text (id : RouteEntryId) : String :=
  s!"{id.entry}.{id.routeTable}"

/-- What is wrong with the text of an identifier. -/
inductive Fault where
  /-- There are not two parts. -/
  | shape
  | noTable
  | badEntry (entry : String)
  deriving DecidableEq, Repr

/-- The wording of a fault in a text. -/
def Fault.message (s : String) : Fault → String
  | .shape => s!"route entry id '{s}' must look like <entry_id>.<route_table_id>"
  | .noTable => s!"route entry id '{s}' has an empty route table id"
  | .badEntry entry => s!"route entry id '{s}' has a non-numeric entry id '{entry}'"

/-- The identifier that a text writes, or what is wrong with the text. -/
def parse (s : String) : Except Fault RouteEntryId :=
  match Text.pieces '.' s with
  | [entry, table] =>
    if table = "" then .error .noTable
    else
      match (Text.decimal? entry.toList).filter (· < UInt64.size) with
      | some n => .ok ⟨UInt64.ofNat n, table⟩
      | none => .error (.badEntry entry)
  | _ => .error .shape

/-- **The identifier that a text writes.** -/
def ofText (s : String) : Except Error RouteEntryId :=
  (parse s).mapError fun fault => .invalid (fault.message s)

end RouteEntryId

end CloudProvider
