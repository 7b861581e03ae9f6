import CloudProvider.Http.Envelope
import CloudProvider.Http.Signature
import CloudProvider.Http.Status
import CloudProvider.Http.Url.Basic

/-!
# Calls over HTTP

Each call is one signed POST request with a JSON body.

* `Request`, `Answer`: what goes over the wire.
* `excerpt`: the front of a body, as messages show it.
* `Transport.call`: one call as a dialogue with the wire.
* `Transport.perform`: an operation that calls the remote as a dialogue with the wire.
-/

namespace CloudProvider.Http

/-! ## The wire -/

/-- A POST request. -/
structure Request where
  url : Url
  /-- The headers, in order of their names. -/
  headers : List (String × String)
  body : String

/-- An answer that came whole. -/
structure Response where
  status : Status
  body : List UInt8

/-- Why there is no whole answer. -/
inductive Failure where
  /-- No connection was made, or it was closed before an answer. -/
  | noAnswer
  /-- The connection was closed within the body. -/
  | cutShort
  deriving DecidableEq, Repr

/-- What comes back for a request. -/
abbrev Answer := Except Failure Response

/-- A dialogue with the wire. -/
abbrev Exchange := Dialogue Request Answer

/-! ## Texts -/

/-- How many bytes of a body messages show. -/
def excerptLength : Nat := 200

/-- **The front of a body**, as messages show it: whole characters only, with a note of the length
if something is left out. -/
def excerpt (body : String) : String :=
  if excerptLength < body.utf8ByteSize then
    let front := body.sliceTo (Text.lastPos body excerptLength)
    s!"{front.copy}... [truncated, {body.utf8ByteSize} bytes total]"
  else body

/-- The text of the bytes of a body, without a byte order mark in front. -/
def bodyText : List UInt8 → String
  | 0xEF :: 0xBB :: 0xBF :: rest => Text.decodeLossy rest
  | bytes => Text.decodeLossy bytes

/-- How the program names itself. -/
def userAgent : String := "tccloud/0.1.0"

namespace Request

/-- Whether a text may stand as the value of a header. -/
def isHeaderValue (s : String) : Bool :=
  s.toList.all fun c => c = '\t' || (' ' ≤ c && c ≠ '\x7f')

/-- The greatest number of bytes of a URL that can be sent to. -/
def maxUrlLength : Nat := 65534

/-- Whether a URL can be sent to: it is not too long, and its host holds no character that URLs may
hold and requests may not. -/
def isReachable (u : Url) : Bool :=
  (u.scheme = "http" || u.scheme = "https") &&
    Text.utf8Length u.anonymous.text.toList ≤ maxUrlLength &&
    !u.authority?.any fun s => s.toList.any (· ∈ ['"', '\x60', '\x7b', '\x7d'])

/-- Why a request cannot be sent at all. -/
def refusal? (r : Request) : Option String :=
  if r.headers.any fun h => !isHeaderValue h.2 then some "builder error"
  else if isReachable r.url then none
  else some s!"builder error for url ({r.url.anonymous.text})"

/-- The wording of a failure. -/
def failureMessage (r : Request) : Failure → String
  | .noAnswer => s!"error sending request for url ({r.url.anonymous.text})"
  | .cutShort => "error decoding response body"

end Request

/-! ## Calls -/

/-- What requests depend on. -/
structure Transport where
  credentials : Credentials
  region : String
  /-- The base URL to use instead of the one of each service. -/
  endpoint : Option String

namespace Transport

/-- The transport of a configuration. -/
def ofConfig (c : Config) : Except Config.Fault Transport := do
  return ⟨← c.credentials, c.region, c.endpoint⟩

/-- The URL to post to and the host in it, or why there is none. -/
def target (t : Transport) (service : Service) : Except String (Url × String) :=
  match t.endpoint with
  | none =>
    .ok ({ scheme := "https", host := some (.name service.host), path := "/" }, service.host)
  | some endpoint =>
    match Url.ofText endpoint with
    | .error fault => .error fault.message
    | .ok url =>
      match url.authority? with
      | some host => .ok (url, host)
      | none => .error s!"endpoint '{endpoint}' has no host"

/-- The request of a call. -/
def request (t : Transport) (now : Int) (service : Service) (action : String) (url : Url)
    (host body : String) : Request where
  url
  headers :=
    [("authorization", Signature.authorization t.credentials service host body now),
     ("content-type", Signature.contentType),
     ("host", host),
     ("user-agent", userAgent),
     ("x-tc-action", action),
     ("x-tc-region", t.region),
     ("x-tc-timestamp", toString now),
     ("x-tc-version", service.version)]
  body

def posting (action : String) (url : Url) : Event :=
  .ofTexts .debug "POST" [("action", action), ("url", url.text)]

def refused (action : String) (status : Status) (body : String) : Event :=
  .ofTexts .error "API error"
    [("action", action), ("status", status.text), ("body", excerpt body)]

/-- What an answer says. -/
def readAnswer (action : String) (r : Request) : Answer → Exchange Reply
  | .error failure =>
    .done (.error (clientError action "NetworkError" (r.failureMessage failure)))
  | .ok response =>
    let body := bodyText response.body
    if response.status.isSuccess then .done (Envelope.read action body)
    else
      .log (refused action response.status body) <| .done <| .error <|
        clientError action "HttpStatusCodeError" s!"{response.status.text} - {excerpt body}"

/-- **One call**, at so many seconds after the start of 1970. -/
def call (t : Transport) (now : Int) (service : Service) (action : String) (parameters : Json) :
    Exchange Reply :=
  match t.target service with
  | .error message => .done (.error (clientError action "InvalidEndpoint" message))
  | .ok (url, host) =>
    let r := t.request now service action url host parameters.compact
    .log (posting action url) <|
      match r.refusal? with
      | some message => .done (.error (clientError action "NetworkError" message))
      | none => .ask r (readAnswer action r)

/-- **An operation that calls the remote**, as a dialogue with the wire. -/
def perform {α : Type} (t : Transport) (now : Int) (op : Api α) : Exchange (Except Error α) :=
  op.run.through fun c => t.call now c.action.service c.action.name c.request

end Transport

end CloudProvider.Http
