import CloudProvider.Json.Decode
import CloudProvider.Json.Document

/-!
# Records read from a text

A record is read in the order of the text. Of several faults, those of the text itself included, the
first one counts, so a wrong value in front of a place where the text goes wrong is what is found.

* `Document.surface`: what a document is, without a look into it.
* `Row.ofText`: the record that a text gives.
-/

namespace CloudProvider

namespace Document

/-- What a document is, without a look into it: an empty container stands for any container. -/
def surface : Document → Except Issue Json
  | .null => .ok .null
  | .bool b => .ok (.bool b)
  | .number n => n.value?.elim (.error .notJson) .ok
  | .text s => s.elim (.error .notJson) fun s => .ok (.str s)
  | .array _ => .ok (.arr [])
  | .object _ => .ok (.obj [])
  | .broken => .error .notJson

end Document

namespace Row

variable {α : Type}

/-- The value of the first member under a name. -/
def firstUnder (members : List (Option String × Document)) (name : String) : Option Document :=
  List.lookup (some name) members

/-- The first issue of some members, in their order, after members with the names `seen`. The
`faults` are those of the columns. -/
def issueOfMembers? (row : Row Document α) (faults : List (String × Issue)) (seen : List String) :
    List (Option String × Document) → Option Issue
  | [] => none
  | (none, _) :: _ => some .notJson
  | (some name, d) :: rest =>
    if name ∉ row.columns then
      if d.isWhole then row.issueOfMembers? faults seen rest else some .notJson
    else if name ∈ seen then some (.repeated name)
    else (List.lookup name faults).or (row.issueOfMembers? faults (name :: seen) rest)

/-- The record that the members of an object give. -/
def ofMembers (row : Row Document α) (members : List (Option String × Document)) :
    Except Issue α :=
  match row.read (firstUnder members) with
  | .error faults =>
    .error ((row.issueOfMembers? faults.toList [] members).getD faults.first.2)
  | .ok a =>
    match row.issueOfMembers? [] [] members with
    | some issue => .error issue
    | none => .ok a

/-- The record that the items of an array give. An array that goes on behind the last column is
given up there. -/
def ofItems (name : String) (row : Row Document α) (items : List Document) : Except Issue α :=
  match row.read (row.byPosition items) with
  | .error faults => .error (row.issueOfArray name items faults)
  | .ok a => if row.columns.length < items.length then .error .notJson else .ok a

/-- The record that a document gives. -/
def ofDocument (name : String) (row : Row Document α) : Document → Except Issue α
  | .object members => row.ofMembers members
  | .array items => row.ofItems name items
  | d => d.surface.bind fun j => .error (j.unlike s!"struct {name}")

/-- **The record that a text gives.** -/
def ofText (name : String) (row : Row Document α) (s : String) : Except Issue α := do
  let reading := Document.read s
  let a ← row.ofDocument name reading.value
  if reading.trailing then .error .notJson else return a

end Row

end CloudProvider
