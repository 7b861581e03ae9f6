import CloudProvider.Catalog.Kind
import CloudProvider.Cli.Palette
import CloudProvider.Resource
import CloudProvider.Text.Digits
import CloudProvider.Value.Json

/-!
# What the program prints

* `Report.state`: a state with its attributes.
* `Report.types`: all types with their descriptions.
* `Report.schema`: a type with its attributes.
-/

namespace CloudProvider.Cli.Report

/-- A text of some lines. -/
def lines (ls : List String) : String := String.join (ls.map (· ++ "\n"))

/-! ## States -/

/-- A value, with the lines of a list or map indented. -/
def value (v : Value) : String :=
  match v with
  | .list _ | .map _ => v.toJson.pretty.replace "\n" "\n    "
  | v => v.toJson.compact

/-- **A state with its attributes**, in order of their names. -/
def state (p : Palette) (s : State) : String :=
  let heading (identifier : String) : String :=
    p.paint .heading s.id.type ++ " " ++ p.paint .bold identifier
  let entry (a : String × Value) : String := "  " ++ p.paint .bold a.1 ++ ": " ++ value a.2
  lines (s.identifier?.toList.map heading ++ s.attributes.map entry)

/-! ## Types -/

/-- The column at which descriptions start. -/
def nameWidth : Nat := 22

/-- One type with its description. -/
def kind (k : Kind) : String :=
  "  " ++ Text.padRight nameWidth k.name ++ " " ++ k.schema.description.getD ""

/-- **All types with their descriptions**, the data sources after the resources. -/
def types (p : Palette) : String :=
  let part (title : String) (kinds : List Kind) : List String :=
    p.paint .heading title :: kinds.map kind ++ [""]
  lines (part "Resources:" (Kind.all.filter (!·.isSource)) ++
    part "Data sources:" (Kind.all.filter (·.isSource)))

/-! ## Schemas -/

/-- What holds of an attribute. -/
def traits (a : Attribute) : List String :=
  let when (b : Bool) (s : String) : List String := if b then [s] else []
  when a.required "required" ++ when a.computed "computed" ++ when a.forceNew "force new" ++
    when a.writeOnly "write only" ++
    a.default.toList.map fun v => "default " ++ v.toJson.compact

/-- One attribute of a type. -/
def declaration (a : Attribute) : String :=
  let traits := match traits a with
    | [] => ""
    | ts => " (" ++ ", ".intercalate ts ++ ")"
  let description := a.description.elim "" fun d => " - " ++ d
  "  " ++ a.name ++ ": " ++ a.type.name ++ traits ++ description

/-- **A type with its attributes**, in order of their names. -/
def schema (p : Palette) (s : Schema) : String :=
  lines (p.paint .heading s.resourceType :: s.description.toList.map ("  " ++ ·) ++ [""] ++
    s.attributes.map fun (_, a) => declaration a)

end CloudProvider.Cli.Report
