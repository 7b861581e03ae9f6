import CloudProvider.Dialogue

/-!
# Asynchronous requests

Some requests are only taken on by the remote, which gives them an id. They are polled until their
status says that they are over.

* `Status.ofText`: what a status says.
* `waitFor`: the polls of one request.
-/

namespace CloudProvider.AsyncRequest

/-- What is known of a request. -/
inductive Status where
  | pending | succeeded | failed
  deriving DecidableEq, Repr

namespace Status

/-- What the text of a status says; one that is not known counts as pending. -/
def ofText (s : String) : Status :=
  if s = "SUCCESS" then .succeeded
  else if s = "FAILED" ∨ s = "KILLED" ∨ s = "REMOVED" then .failed
  else .pending

/-- Whether a request is over. -/
def isFinal : Status → Bool
  | .pending => false
  | _ => true

end Status

/-- What one poll shows: the text of the status, and an explanation of it. -/
structure Observation where
  status : String
  info : String
  deriving DecidableEq, Repr

/-- How often a request is polled, and how many seconds apart. -/
structure Polling where
  attempts : Nat
  interval : Nat
  deriving DecidableEq, Repr

/-- The longest time, in seconds, that is waited at once: thirty years of 365 days. -/
def longestPause : Nat := 30 * 365 * 86400

/-- The seconds waited between two polls. -/
def Polling.pause (p : Polling) : Nat := min p.interval longestPause

def succeededEvent (requestId : String) (attempt : Nat) : Event where
  level := .debug
  message := "async request succeeded"
  fields := [("request_id", .text requestId), ("attempt", .number attempt)]

def pendingEvent (requestId : String) (attempt : Nat) (status : String) : Event where
  level := .debug
  message := "async request pending"
  fields :=
    [("request_id", .text requestId), ("attempt", .number attempt), ("status", .text status)]

variable {Q A : Type}

/-- The polls from the one after `attempt` on, of which `left` are allowed. -/
def pollFrom (requestId : String) (polling : Polling) (observe : Operation Q A Observation)
    (attempt : Nat) : Nat → Operation Q A Unit
  | 0 => throw ⟨.requestUnfinished requestId polling.attempts, none⟩
  | left + 1 => do
    let attempt := attempt + 1
    let o ← observe
    match Status.ofText o.status with
    | .succeeded => Operation.log (succeededEvent requestId attempt)
    | .failed => throw ⟨.requestFailed requestId o.info, none⟩
    | .pending =>
      Operation.log (pendingEvent requestId attempt o.status)
      if 0 < left then Operation.sleep polling.pause
      pollFrom requestId polling observe attempt left

/-- **A request polled until it succeeds.** It is an error if it fails, or if it is still pending
after the last poll. -/
def waitFor (requestId : String) (polling : Polling) (observe : Operation Q A Observation) :
    Operation Q A Unit :=
  pollFrom requestId polling observe 0 polling.attempts

end CloudProvider.AsyncRequest
