import CloudProvider.Files
import CloudProvider.Json.Document.Record
import CloudProvider.Settings
import CloudProvider.Text.Blank
import CloudProvider.Text.Utf8

/-!
# Configurations

A configuration is a JSON object in a file; members that the file lacks have defaults. Variables of
the environment take precedence over the file.

* `Config.ofJson`, `Config.ofText`, `Config.ofFile`: the configuration that a value, a text or a
  file gives.
* `Config.text`: the text that a configuration is saved as.
* `Config.load`, `Config.save`: configurations in the files of a tree.
* `Config.override`: a configuration with the variables of an environment put over it.
* `Config.check`, `Config.credentials`: what a provider needs of a configuration.
-/

namespace CloudProvider

/-- How asynchronous requests are polled. -/
structure Config.Polls where
  attempts : UInt32 := 120
  /-- The seconds between two polls. -/
  interval : UInt64 := 5
  deriving DecidableEq, Repr

/-- The configuration of a provider. -/
structure Config where
  region : String := "ap-guangzhou"
  secretId : Option String := none
  secretKey : Option String := none
  /-- The base URL to use instead of the one of each service. -/
  endpoint : Option String := none
  pageSize : UInt64 := 100
  polls : Config.Polls := {}
  deriving DecidableEq, Repr

/-- The key that requests are signed with, and its id. -/
structure Credentials where
  secretId : String
  secretKey : String
  deriving DecidableEq

/-- Credentials as they may be shown: without the key. -/
def Credentials.shown (c : Credentials) : String :=
  "Credentials \x7b secret_id: " ++ Text.quoted c.secretId ++ ", secret_key: \"******\" \x7d"

namespace Config

/-! ## Faults -/

/-- Why a configuration cannot be used. -/
inductive Fault where
  /-- The file cannot be read or written. -/
  | unreadable (path reason : String)
  | unparsable (path : String) (issue : Issue)
  | noRegion
  | badPageSize (n : UInt64)
  | noAttempts
  | noCredentials
  deriving DecidableEq, Repr

/-- The greatest number of items that a page may hold. -/
def maxPageSize : UInt64 := 100

/-- The variables that take precedence over the file. -/
def secretIdVariable : String := "TENCENTCLOUD_SECRET_ID"
def secretKeyVariable : String := "TENCENTCLOUD_SECRET_KEY"
def regionVariable : String := "TENCENTCLOUD_REGION"

/-- The wording of a fault. -/
def Fault.message : Fault → String
  | unreadable path reason => s!"failed to read config file {path}: {reason}"
  | unparsable path issue => s!"failed to parse config file {path}: {issue.message}"
  | noRegion => "invalid configuration: region must not be empty"
  | badPageSize n =>
    s!"invalid configuration: page_size must be in [1, {maxPageSize}], got {n}"
  | noAttempts => "invalid configuration: async_poll.max_attempts must be positive"
  | noCredentials =>
    "missing credentials: set secret_id/secret_key or " ++
      s!"{secretIdVariable}/{secretKeyVariable}"

/-! ## Reading -/

variable {J : Type}

/-- The columns of the poll settings, in values whose scalars `scalar` gives. -/
def Polls.row (scalar : J → Except Issue Json) : Row J Polls :=
  Polls.mk
    <$> .column "max_attempts" (fun j => scalar j >>= Json.asNat32) ({} : Polls).attempts
    <*> .column "interval_secs" (fun j => scalar j >>= Json.asNat64) ({} : Polls).interval

/-- The columns of a configuration, in values whose scalars `scalar` gives and whose poll settings
`polls` gives. -/
def row (scalar : J → Except Issue Json) (polls : J → Except Issue Polls) : Row J Config :=
  let text? (j : J) : Except Issue (Option String) := scalar j >>= Json.asOption Json.asText
  Config.mk
    <$> .column "region" (fun j => scalar j >>= Json.asText) ({} : Config).region
    <*> .column "secret_id" text? none
    <*> .column "secret_key" text? none
    <*> .column "endpoint" text? none
    <*> .column "page_size" (fun j => scalar j >>= Json.asNat64) ({} : Config).pageSize
    <*> .column "async_poll" polls {}

/-- **The configuration that a value gives.** -/
def ofJson : Json → Except Issue Config :=
  (row .ok ((Polls.row .ok).ofJson "AsyncPollConfig")).ofJson "ProviderConfig"

/-- **The configuration that a text gives.** -/
def ofText : String → Except Issue Config :=
  (row Document.surface ((Polls.row Document.surface).ofDocument "AsyncPollConfig")).ofText
    "ProviderConfig"

/-- **The configuration that a file gives**, from its bytes or the reason why they cannot be
read. -/
def ofFile (path : String) (content : Except String (List UInt8)) : Except Fault Config := do
  let bytes ← content.mapError (.unreadable path)
  match Text.decode? bytes with
  | none => throw (.unreadable path "stream did not contain valid UTF-8")
  | some text => (ofText text).mapError (.unparsable path)

/-- **The configuration that a path leads to.** -/
def load (files : Files) (path : String) : Except Fault Config :=
  ofFile path ((files.read path).mapError Files.Fault.message)

/-! ## Saving -/

/-- A configuration as a value, with all members in their order. -/
def toJson (c : Config) : Json :=
  let text? (s : Option String) : Json := s.elim .null .str
  .obj [("region", .str c.region), ("secret_id", text? c.secretId),
    ("secret_key", text? c.secretKey), ("endpoint", text? c.endpoint),
    ("page_size", .int c.pageSize.toNat),
    ("async_poll", .obj [("max_attempts", .int c.polls.attempts.toNat),
      ("interval_secs", .int c.polls.interval.toNat)])]

/-- **The text that a configuration is saved as.** -/
def text (c : Config) : String := c.toJson.pretty

/-- **The files with a configuration saved among them.** Missing directories are made. -/
def save (c : Config) (files : Files) (path : String) : Except Fault Files :=
  (files.save path (Text.encode c.text)).mapError fun f => .unreadable path f.message

/-! ## Use -/

/-- **A configuration with the variables of an environment put over it.** An empty variable counts
as not set. -/
def override (lookUp : String → Option String) (c : Config) : Config :=
  let given (name : String) : Option String := (lookUp name).filter (· ≠ "")
  { c with
    secretId := (given secretIdVariable).or c.secretId
    secretKey := (given secretKeyVariable).or c.secretKey
    region := (given regionVariable).getD c.region }

/-- The settings of the provider of a configuration. -/
def settings (c : Config) : Settings where
  region := c.region
  pageSize := c.pageSize
  polling := ⟨c.polls.attempts.toNat, c.polls.interval.toNat⟩

/-- **Whether the values of a configuration are in range.** -/
def check (c : Config) : Except Fault Unit :=
  if Text.trim c.region = "" then .error .noRegion
  else if c.pageSize = 0 ∨ maxPageSize < c.pageSize then .error (.badPageSize c.pageSize)
  else if c.polls.attempts = 0 then .error .noAttempts
  else .ok ()

/-- **The credentials that requests need.** -/
def credentials (c : Config) : Except Fault Credentials :=
  match c.secretId.filter (· ≠ ""), c.secretKey.filter (· ≠ "") with
  | some id, some key => .ok ⟨id, key⟩
  | _, _ => .error .noCredentials

end Config

end CloudProvider
