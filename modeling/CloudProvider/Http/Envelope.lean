import CloudProvider.Api
import CloudProvider.Json.Document

/-!
# Envelopes of answers

The body of an answer is an object whose member `Response` holds the content, or the error that the
remote reports.

* `Envelope.read`: what is in an envelope.
-/

namespace CloudProvider.Http

/-- A failure met on the way to the remote or back. -/
def clientError (action code message : String) : ApiError :=
  { action, code := "ClientError." ++ code, message }

namespace Envelope

/-- The text under a name, or the empty one. -/
def textUnder (name : String) (j : Json) : String := ((j.member? name).bind Json.str?).getD ""

/-- The content of an envelope, or the error in it. -/
def content (action : String) (response : Json) : Reply :=
  match response.member? "Error" with
  | none => .ok response
  | some error =>
    .error
      { action
        code := textUnder "Code" error
        message := textUnder "Message" error
        requestId := (response.member? "RequestId").bind Json.str? }

/-- **What is in the envelope that a body writes.** -/
def read (action body : String) : Reply :=
  match Json.read? body with
  | none => .error (clientError action "ParseJsonError" Issue.notJson.message)
  | some envelope =>
    match envelope.member? "Response" with
    | none => .error (clientError action "ParseJsonError" "response has no Response field")
    | some response => content action response

end Envelope

end CloudProvider.Http
