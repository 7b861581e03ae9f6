import CloudProvider.Json.Printer
import CloudProvider.Json.Token
import CloudProvider.Text.Quoted

/-!
# Values read as data

* `Issue`: why a value is not what was expected, and `Issue.message`, the wording.
* `Json.asText`, `Json.asNat64`, `Json.asList`, …: a value as data of some kind.
* `Row`: the columns of a record, which an object gives by name and an array by position.
* `Row.ofJson`: the record that a value gives; of several faults, the first one in the value counts.
-/

namespace CloudProvider

/-! ## Faults -/

/-- Why a value is not what was expected. -/
inductive Issue where
  /-- The text is no JSON at this point. -/
  | notJson
  | wrongType (found expected : String)
  /-- An integer is out of range. -/
  | wrongValue (found : Int) (expected : String)
  | missing (column : String)
  | repeated (column : String)
  | tooShort (length : Nat) (record : String) (columns : Nat)
  | tooLong (length : Nat)
  deriving DecidableEq, Repr

/-- The wording of an issue. -/
def Issue.message : Issue → String
  | .notJson => "<json>"
  | .wrongType found expected => s!"invalid type: {found}, expected {expected}"
  | .wrongValue found expected => s!"invalid value: integer `{found}`, expected {expected}"
  | .missing column => s!"missing field `{column}`"
  | .repeated column => s!"duplicate field `{column}`"
  | .tooShort length record columns =>
    let elements := if columns = 1 then "element" else "elements"
    s!"invalid length {length}, expected struct {record} with {columns} {elements}"
  | .tooLong length => s!"invalid length {length}, expected fewer elements in array"

namespace Json

/-- A value as messages show it. -/
def shown : Json → String
  | .null => "null"
  | .bool b => s!"boolean `{b}`"
  | .int n => s!"integer `{n}`"
  | .float x =>
    let digits := String.ofList x.render
    s!"floating point `{digits}`"
  | .str s => "string " ++ Text.quoted s
  | .arr _ => "sequence"
  | .obj _ => "map"

/-- The issue of a value of the wrong kind. -/
def unlike (expected : String) (j : Json) : Issue := .wrongType j.shown expected

/-! ## Single values -/

def asText : Json → Except Issue String
  | .str s => .ok s
  | j => .error (j.unlike "a string")

def asBool : Json → Except Issue Bool
  | .bool b => .ok b
  | j => .error (j.unlike "a boolean")

/-- An integer of 64 bits with a sign. -/
def asInt64 : Json → Except Issue Int64
  | .int n =>
    if -0x8000000000000000 ≤ n ∧ n < 0x8000000000000000 then .ok (Int64.ofInt n)
    else .error (.wrongValue n "i64")
  | j => .error (j.unlike "i64")

/-- An integer of 64 bits without a sign. -/
def asNat64 : Json → Except Issue UInt64
  | .int n =>
    if 0 ≤ n ∧ n.toNat < UInt64.size then .ok (UInt64.ofNat n.toNat)
    else .error (.wrongValue n "u64")
  | j => .error (j.unlike "u64")

/-- An integer of 32 bits without a sign. -/
def asNat32 : Json → Except Issue UInt32
  | .int n =>
    if 0 ≤ n ∧ n.toNat < UInt32.size then .ok (UInt32.ofNat n.toNat)
    else .error (.wrongValue n "u32")
  | j => .error (j.unlike "u32")

/-- A value that may be null. -/
def asOption {α : Type} (item : Json → Except Issue α) : Json → Except Issue (Option α)
  | .null => .ok none
  | j => (item j).map some

/-- The items of an array, read from the first on. -/
def asItems {α : Type} (item : Json → Except Issue α) : List Json → Except Issue (List α)
  | [] => .ok []
  | j :: js => do return (← item j) :: (← asItems item js)

/-- A list. -/
def asList {α : Type} (item : Json → Except Issue α) : Json → Except Issue (List α)
  | .arr items => asItems item items
  | j => .error (j.unlike "a sequence")

/-- A list for which null may stand if it is empty. -/
def asListOrNull {α : Type} (item : Json → Except Issue α) : Json → Except Issue (List α)
  | .null => .ok []
  | j => asList item j

end Json

/-! ## Records -/

/-- The faults of a record by column: at least one, in the order of the columns. -/
structure Faults where
  first : String × Issue
  rest : List (String × Issue)

namespace Faults

def toList (fs : Faults) : List (String × Issue) := fs.first :: fs.rest

def append (fs gs : Faults) : Faults := ⟨fs.first, fs.rest ++ gs.toList⟩

/-- The fault of the first of some columns that has one. -/
def firstOf (fs : Faults) (columns : List String) : Option Issue :=
  columns.findSome? fun c => List.lookup c fs.toList

end Faults

/-- The columns of a record, in order, and the record that values of them make. A column may have no
value. The values are of some type `J`. -/
structure Row (J α : Type) where
  columns : List String
  read : (String → Option J) → Except Faults α

namespace Row

variable {J α β : Type}

instance : Applicative (Row J) where
  pure a := ⟨[], fun _ => .ok a⟩
  seq f x :=
    { columns := f.columns ++ (x ()).columns
      read := fun value =>
        match f.read value, (x ()).read value with
        | .ok g, .ok a => .ok (g a)
        | .ok _, .error fs => .error fs
        | .error fs, .ok _ => .error fs
        | .error fs, .error gs => .error (fs.append gs) }

/-- A column that stands for some value when it has none. -/
def column (name : String) (item : J → Except Issue α) (absent : α) : Row J α where
  columns := [name]
  read value :=
    match value name with
    | none => .ok absent
    | some j => (item j).mapError fun issue => ⟨(name, issue), []⟩

/-- A column that has to have a value. -/
def required (name : String) (item : J → Except Issue α) : Row J α where
  columns := [name]
  read value :=
    match value name with
    | none => .error ⟨(name, .missing name), []⟩
    | some j => (item j).mapError fun issue => ⟨(name, issue), []⟩

/-- The values of columns that a list gives by position. -/
def byPosition (row : Row J α) (items : List J) (column : String) : Option J :=
  List.lookup column (row.columns.zip items)

/-- The first issue of an array: a column that needs a value may lie behind its end. -/
def issueOfArray (row : Row J α) (name : String) (items : List J) (faults : Faults) : Issue :=
  if (row.byPosition items faults.first.1).isSome then faults.first.2
  else .tooShort items.length name row.columns.length

/-- **The record that a value gives**: an object by the names of the columns, an array by their
order. Other members of an object do not count, other items of an array are too many. -/
def ofJson (name : String) (row : Row Json α) : Json → Except Issue α
  | .obj members =>
    (row.read (Fields.get? members)).mapError fun faults =>
      (faults.firstOf (Fields.keys members)).getD faults.first.2
  | .arr items =>
    match row.read (row.byPosition items) with
    | .error faults => .error (row.issueOfArray name items faults)
    | .ok a => if row.columns.length < items.length then .error (.tooLong items.length) else .ok a
  | j => .error (j.unlike s!"struct {name}")

end Row

end CloudProvider
