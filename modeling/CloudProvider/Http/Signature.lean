import CloudProvider.Api
import CloudProvider.Config
import CloudProvider.Date
import CloudProvider.Digest.Hmac

/-!
# Signatures of requests

A request is signed with a key that is derived from the secret one for a day and a service. The
signature covers the content type, the host and the body.

* `Signature.authorization`: the header that carries the signature.
-/

namespace CloudProvider.Http.Signature

def algorithm : String := "TC3-HMAC-SHA256"

/-- The content type of all requests. -/
def contentType : String := "application/json; charset=utf-8"

/-- The headers that the signature covers. -/
def signedHeaders : String := "content-type;host"

/-- What ends the scope of a signature. -/
def terminator : String := "tc3_request"

def hexDigest (s : String) : String := Digest.hex (Digest.Sha256.digest (Text.encode s))

/-- The parts of a request that are signed, one a line. -/
def canonicalRequest (host body : String) : String :=
  "\n".intercalate
    ["POST", "/", "", s!"content-type:{contentType}", s!"host:{host}", "", signedHeaders,
     hexDigest body]

/-- The day and the service that a signature holds for. -/
def scope (service : Service) (now : Int) : String :=
  s!"{(Date.ofSeconds now).text}/{service.name}/{terminator}"

/-- The text that is signed. -/
def signedText (service : Service) (host body : String) (now : Int) : String :=
  "\n".intercalate
    [algorithm, toString now, scope service now, hexDigest (canonicalRequest host body)]

/-- The key for a day and a service. -/
def derivedKey (secretKey : String) (service : Service) (now : Int) : List UInt8 :=
  [(Date.ofSeconds now).text, service.name, terminator].foldl
    (fun key part => Digest.hmac key (Text.encode part)) (Text.encode ("TC3" ++ secretKey))

/-- **The header that carries the signature** of a request to a host. -/
def authorization (credentials : Credentials) (service : Service) (host body : String)
    (now : Int) : String :=
  let key := derivedKey credentials.secretKey service now
  let signature := Digest.hex (Digest.hmac key (Text.encode (signedText service host body now)))
  s!"{algorithm} Credential={credentials.secretId}/{scope service now}, " ++
    s!"SignedHeaders={signedHeaders}, Signature={signature}"

end CloudProvider.Http.Signature
