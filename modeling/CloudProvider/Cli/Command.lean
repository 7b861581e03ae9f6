/-!
# Command lines

* `Command`: what the program is asked to do.
* `Invocation.ofArguments?`: the command of a command line, with the configuration to use.
-/

namespace CloudProvider.Cli

/-- What the program is asked to do. -/
inductive Command where
  /-- A data source is queried. -/
  | list (kind : String) (id name : Option String) (filters : List String)
  /-- A resource is shown. -/
  | read (type identifier : String)
  /-- A resource is deleted, with or without a question first. -/
  | delete (type identifier : String) (approved : Bool)
  /-- A resource file is checked. -/
  | validate (file : String)
  /-- All types are listed. -/
  | types
  /-- The attributes of a type are listed. -/
  | describe (type : String)
  deriving DecidableEq, Repr

/-- A command and the configuration file to use. -/
structure Invocation where
  config : Option String
  command : Command
  deriving DecidableEq, Repr

/-! ## Arguments -/

/-- Arguments told apart. -/
structure Arguments where
  /-- What stands by itself. -/
  plain : List String := []
  /-- The options with their values. -/
  valued : List (String × String) := []
  flags : List String := []

namespace Arguments

def withPlain (a : Arguments) (s : String) : Arguments := { a with plain := s :: a.plain }

def withValue (a : Arguments) (name value : String) : Arguments :=
  { a with valued := (name, value) :: a.valued }

def withFlag (a : Arguments) (name : String) : Arguments := { a with flags := name :: a.flags }

/-- The name and the value of an option that is given as one argument. -/
def splitOption (s : String) : String × Option String :=
  match s.toList.span (· ≠ '=') with
  | (name, _ :: value) => (String.ofList name, some (String.ofList value))
  | (name, []) => (String.ofList name, none)

/-- Whether an argument looks like an option. -/
def isOption (s : String) : Bool := s.startsWith "-" && s ≠ "-"

/-- Arguments told apart, if all options are known. After two dashes there are no options. -/
def read? (options flags : List String) : List String → Option Arguments
  | [] => some {}
  | "--" :: rest => some { plain := rest }
  | s :: rest =>
    if !isOption s then (read? options flags rest).map (·.withPlain s)
    else
      match splitOption s with
      | (name, some value) =>
        if name ∈ options then (read? options flags rest).map (·.withValue name value) else none
      | (name, none) =>
        if name ∈ flags then (read? options flags rest).map (·.withFlag name)
        else if name ∈ options then
          match rest with
          | [] => none
          | value :: rest =>
            if isOption value then none
            else (read? options flags rest).map (·.withValue name value)
        else none

/-- The values of an option. -/
def values (a : Arguments) (name : String) : List String :=
  a.valued.filterMap fun o => if o.1 = name then some o.2 else none

/-- The value of an option that is given at most once. -/
def single? (a : Arguments) (name : String) : Option (Option String) :=
  match a.values name with
  | [] => some none
  | [value] => some (some value)
  | _ => none

end Arguments

/-! ## Commands -/

/-- The command of a name and the arguments behind it. -/
def Command.read? (name : String) (a : Arguments) : Option Command :=
  match name, a.plain with
  | "list", [kind] => do
    return .list kind (← a.single? "--id") (← a.single? "--name") (a.values "--filter")
  | "show", [type, identifier] => some (.read type identifier)
  | "delete", [type, identifier] =>
    some (.delete type identifier (a.flags.contains "--auto-approve"))
  | "validate", [file] => if file = "" then none else some (.validate file)
  | "types", [] => some .types
  | "describe", [type] => some (.describe type)
  | _, _ => none

/-- The options that a command takes a value for, apart from the configuration. -/
def Command.options (name : String) : List String :=
  if name = "list" then ["--id", "--name", "--filter"] else []

def Command.flags (name : String) : List String :=
  if name = "delete" then ["--auto-approve"] else []

namespace Invocation

/-- The option that names the configuration file. -/
def configOption : String := "--config"

/-- The command of a name with its arguments, after a configuration that was given in front. -/
def withCommand? (front : Option String) (name : String) (rest : List String) :
    Option Invocation := do
  let a ← Arguments.read? (configOption :: Command.options name) (Command.flags name) rest
  let config := (← a.single? configOption).or front
  if config = some "" then none
  else return ⟨config, ← Command.read? name a⟩

/-- **The command of a command line.** The configuration may be given before or after the name of
the command. -/
def ofArguments? : List String → Option Invocation
  | [] => none
  | s :: rest =>
    if !Arguments.isOption s then withCommand? none s rest
    else
      match Arguments.splitOption s, rest with
      | (name, some path), command :: rest =>
        if name = configOption ∧ !Arguments.isOption command then
          withCommand? (some path) command rest
        else none
      | (name, none), path :: command :: rest =>
        if name = configOption ∧ !Arguments.isOption path ∧ !Arguments.isOption command then
          withCommand? (some path) command rest
        else none
      | _, _ => none

/-- The files that a command may have to read. -/
def files (i : Invocation) : List String :=
  i.config.toList ++
    match i.command with
    | .validate file => [file]
    | _ => []

end Invocation

end CloudProvider.Cli
