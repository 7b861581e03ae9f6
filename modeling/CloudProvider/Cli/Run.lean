import CloudProvider.Cli.Command
import CloudProvider.Cli.Query
import CloudProvider.Cli.Report
import CloudProvider.Http.Transport
import CloudProvider.Provider

/-!
# Commands carried out

* `Surroundings`: what a command finds outside the program, apart from the remote.
* `validate`: the check of a resource file.
* `prompt?`: the question before a command that removes something.
* `run`: a command as a dialogue with the wire, with what it prints.
-/

namespace CloudProvider.Cli

open Http (Exchange Transport)

/-- What a command finds outside the program. -/
structure Surroundings where
  /-- The variables of the environment. -/
  environment : String → Option String
  /-- The bytes of a file, or the reason why they cannot be read. -/
  file : String → Except String (List UInt8)
  /-- The line that is typed at the prompt. -/
  line : Except String String
  /-- The seconds since the start of 1970. -/
  now : Int
  /-- Whether the output goes to a terminal. -/
  isTerminal : Bool := false

/-- What a command prints, and its exit status. -/
structure Outcome where
  stdout : String
  stderr : String
  code : Nat
  deriving DecidableEq, Repr

/-- A part of a command, which may fail. -/
abbrev Session := ExceptT Fault Exchange

namespace Surroundings

variable (s : Surroundings)

def palette : Palette := .ofVariables s.environment s.isTerminal

/-- The configuration of a file, or the default one, with the variables put over it. -/
def config (path : Option String) : Except Fault Config := do
  let c ← match path with
    | some path => (Config.ofFile path (s.file path)).mapError .config
    | none => .ok {}
  return c.override s.environment

/-- The provider of a configuration: its settings and its transport. -/
def provider (path : Option String) : Except Fault (Settings × Transport) := do
  let c ← s.config path
  c.check.mapError .config
  let t ← (Transport.ofConfig c).mapError .config
  return (c.settings, t)

/-- An operation of a provider. -/
def perform {α : Type} (path : Option String) (op : Settings → Api α) : Session α := do
  let (settings, t) ← s.provider path
  ExceptT.mk (Except.mapError Fault.failed <$> t.perform s.now (op settings))

/-! ## Commands -/

/-- What is printed for a query of a data source. -/
def list (config : Option String) (type : String) (id name : Option String)
    (filters : List String) : Session String := do
  match ← kindOf type with
  | .lifecycle _ => throw (.notSource type)
  | .source kind =>
    let q ← query kind id name filters
    let state ← s.perform config fun settings => Provider.query settings q
    return Report.state s.palette state

/-- What is printed for a resource. -/
def read (config : Option String) (type identifier : String) : Session String := do
  let _ ← kindOf type
  let state ← s.perform config fun settings =>
    Provider.read settings ⟨type, identifier⟩ (some identifier)
  if state.isPresent then return Report.state s.palette state
  else throw (.absent type identifier)

/-- Whether a type has resources that can be deleted. -/
def deletable (type : String) : Except Fault Unit := do
  if (← kindOf type).isSource then throw (.notDeletable type)

/-- Whether the line at the prompt confirms. -/
def isConfirmed : Except Fault Bool := do
  let line ← s.line.mapError .noInput
  return Text.trim line = "yes"

/-- What is printed when a resource is deleted, after the prompt. -/
def delete (config : Option String) (type identifier : String) (approved : Bool) :
    Session String := do
  deletable type
  let confirmed ← if approved then pure true else s.isConfirmed
  if confirmed then
    let id : ResourceId := ⟨type, identifier⟩
    s.perform config fun settings => Provider.delete settings id identifier
    return Report.lines ["  " ++ s.palette.paint .mark "✓" ++ " " ++ id.text]
  else
    return Report.lines ["", s.palette.paint .notice "Delete cancelled."]

end Surroundings

/-- **The check of a resource file**: the resource that it declares, if its attributes with the
defaults filled in conform to the schema. -/
def validate (content : String) : Except Fault Resource := do
  let r ← (ResourceFile.read content).mapError .resourceFile
  let kind ← kindOf r.id.type
  match kind.schema.violations (kind.schema.withDefaults r.attributes) with
  | [] => return r
  | errors => throw (.violations r.id errors)

/-- The text of a resource file. -/
def resourceText (path : String) (content : Except String (List UInt8)) :
    Except Fault String := do
  let bytes ← content.mapError (.unreadable path)
  match Text.decode? bytes with
  | none => throw (.unreadable path "stream did not contain valid UTF-8")
  | some text => return text

/-- What is printed by a command, after its prompt. -/
def execute (s : Surroundings) (i : Invocation) : Session String :=
  match i.command with
  | .list kind id name filters => s.list i.config kind id name filters
  | .read type identifier => s.read i.config type identifier
  | .delete type identifier approved => s.delete i.config type identifier approved
  | .validate path => do
    let text ← resourceText path (s.file path)
    let r ← validate text
    return Report.lines [s.palette.paint .success s!"✓ {r.id.text} is valid."]
  | .types => return Report.types s.palette
  | .describe type => do
    let kind ← kindOf type
    return Report.schema s.palette kind.schema

/-- The question before a command that removes something. -/
def prompt? (p : Palette) (i : Invocation) : Option String :=
  match i.command with
  | .delete type identifier false =>
    match Surroundings.deletable type with
    | .ok () =>
      some (Report.lines [p.paint .alarm "Delete" ++ " " ++ p.paint .heading type ++ " " ++
        identifier, "", "  Only 'yes' will be accepted to confirm."] ++ "  Enter a value: ")
    | .error _ => none
  | _ => none

/-- What the program prints for a result, with the exit status. -/
def Outcome.ofResult (p : Palette) : Except Fault String → Outcome
  | .ok text => ⟨text, "", 0⟩
  | .error fault => ⟨"", Report.lines [p.paint .alarm "Error:" ++ " " ++ fault.message], 1⟩

/-- **A command as a dialogue with the wire**, with what it prints after its prompt. -/
def run (s : Surroundings) (i : Invocation) : Exchange Outcome := do
  return Outcome.ofResult s.palette (← (execute s i).run)

end CloudProvider.Cli
