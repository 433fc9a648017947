import PageWalk.Text.LowerCase
import PageWalk.Url.Parser
import PageWalk.Url.Query

/-!
# Redaction

The values of query parameters that may hold a secret are not reported. A URL without any, and a
text that is no URL, stay as they are.
-/

namespace PageWalk.Url

set_option autoImplicit false

namespace Redaction

/-- A parameter is sensitive when its name contains one of these words. -/
def sensitiveWords : List String :=
  ["token", "access_token", "refresh_token", "auth", "authorization", "password", "secret", "key",
    "apikey", "api_key", "id_token", "email", "phone", "ssn", "username", "code", "session_id",
    "sid"]

def isSensitive (name : String) : Bool :=
  sensitiveWords.any fun word => Text.occursIn word.toList (Text.lower name.toList)

def mask : String := "REDACTED"

def maskPair (pair : String × String) : String × String :=
  if isSensitive pair.1 then (pair.1, mask) else pair

end Redaction

def queryPairs (u : Url) : List (String × String) :=
  (u.query.map Query.pairs).getD []

def isSensitive (u : Url) : Bool :=
  u.queryPairs.any fun pair => Redaction.isSensitive pair.1

def redacted (u : Url) : Url :=
  { u with query := some (Query.write (u.queryPairs.map Redaction.maskPair)) }

/-- A text with a mask for every sensitive value, if it is a URL that has any. -/
def redact (raw : String) : String :=
  match parse raw with
  | .ok u => if u.isSensitive then u.redacted.text else raw
  | .error _ => raw

end PageWalk.Url
