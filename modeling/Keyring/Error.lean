import Keyring.Decimal.Natural
import Keyring.Http.Status
import Keyring.Json.Fault
import Keyring.Pem
import Keyring.Rsa.Signature
import Keyring.Time.Duration
import Keyring.Url.Parse

/-!
What can go wrong.

* `Error`: a cause, by the part of the work that it belongs to.
* `Error.kind`, `Error.isTransient`: what a caller decides by.
* `Error.message`: the wording.
-/

namespace Keyring

/-- Why no answer came from the network. -/
inductive TransportFault where
  /-- The request did not reach a server, or the server did not answer it in time. -/
  | unanswered (url : Url)
  /-- The address is none that requests can be sent to. -/
  | unsendable (url : Url)
  /-- There were too many redirects. -/
  | redirects (url : Url)
  /-- The body ended before its end. -/
  | brokenBody
  deriving Repr, DecidableEq

/-- The wording of a fault. -/
def TransportFault.message : TransportFault → String
  | .unanswered url => "error sending request for url (" ++ url.render ++ ")"
  | .unsendable url => "builder error for url (" ++ url.render ++ ")"
  | .redirects url => "error following redirect for url (" ++ url.render ++ ")"
  | .brokenBody => "error decoding response body"

/-- Why a configuration or what depends on it is refused. -/
inductive ConfigFault where
  /-- The address has another scheme than the required one. -/
  | insecure (url : Url)
  | noHost
  | zeroLimit
  | shortTimeout
  | longWindow
  | zeroWindow
  /-- The headers do not say how long the keys may be kept. -/
  | noMaxAge
  /-- The body is longer than allowed. -/
  | oversized (limit : UInt64)
  | noEmail
  | noPrivateKey
  /-- Any other field and reason. -/
  | other (field reason : String)
  deriving Repr, DecidableEq

/-- The field that a fault is about. -/
def ConfigFault.field : ConfigFault → String
  | .insecure _ => "key_url"
  | .noHost => "key_url"
  | .zeroLimit => "max_response_bytes"
  | .shortTimeout => "fetch_timeout"
  | .longWindow => "stale_while_error"
  | .zeroWindow => "stale_while_error"
  | .noMaxAge => "max-age"
  | .oversized _ => "max_response_bytes"
  | .noEmail => "email"
  | .noPrivateKey => "private_key"
  | .other field _ => field

/-- The wording of an address whose scheme is not that of encrypted transport. -/
def insecureMessage (url : Url) : String := "Upstream URL " ++ url.render ++ " must use HTTPS."

/-- The wording of a fault. -/
def ConfigFault.reason : ConfigFault → String
  | .insecure url => insecureMessage url
  | .noHost => "Must include a host component."
  | .zeroLimit => "Must be greater than zero."
  | .shortTimeout => "Must be at least 100ms."
  | .longWindow => "Must not exceed 86400s."
  | .zeroWindow => "Must be greater than zero when serving stale keys."
  | .noMaxAge => "Could not find expiry time from HTTP headers."
  | .oversized limit =>
    "Response body exceeds the configured guard of " ++ toString limit.toNat ++ " bytes."
  | .noEmail => "Service account email not available."
  | .noPrivateKey => "Private key not available."
  | .other _ reason => reason

/-- Why an input is malformed. -/
inductive FormatFault where
  /-- The certificate of a key cannot be read. -/
  | certificate (kid : String)
  /-- The key in a certificate cannot be read. -/
  | subjectKey (kid : String)
  /-- There is no armoured private key. -/
  | noPrivateKey (fault : Pem.Fault)
  /-- A private key is in no known encoding. -/
  | privateKey
  /-- A token has not three segments. -/
  | segments
  /-- The first segment of a token is not base64. -/
  | header (fault : Base64.Fault)
  /-- The algorithm of a token is another one. -/
  | algorithm (name : Option String)
  /-- A token does not say which key it is signed with. -/
  | noKeyId
  /-- The number in a directive is none. -/
  | maxAge (directive : String) (fault : Decimal.NaturalFault)
  /-- Keys that may be kept so long would never expire. -/
  | lifetime (seconds : UInt64)
  /-- Anything else. -/
  | other (text : String)
  deriving Repr, DecidableEq

/-- The wording of a fault. How exactly a certificate or key fails to be read is not told. -/
def FormatFault.message : FormatFault → String
  | .certificate kid => "Certificate for key id '" ++ kid ++ "' cannot be parsed:..."
  | .subjectKey kid => "RSA key for key id '" ++ kid ++ "' cannot be decoded:..."
  | .noPrivateKey f => "No private key data found: " ++ f.message ++ "."
  | .privateKey => "Private key must be PKCS#8 or PKCS#1 encoded; PKCS#8:..."
  | .segments => "Token must contain exactly three segments."
  | .header f => "Token header is not valid base64url: " ++ f.message ++ "."
  | .algorithm name =>
    "Token algorithm " ++ quotedOption name ++ " is not supported; expected RS256."
  | .noKeyId => "Token header does not declare a kid."
  | .maxAge d f => "Invalid max-age directive '" ++ d ++ "': " ++ f.message ++ "."
  | .lifetime s => "max-age of " ++ toString s.toNat ++ "s is out of range."
  | .other text => text

/-- Why a key is of the wrong type. -/
inductive KeyTypeFault where
  /-- A certificate holds a key of another algorithm. -/
  | certificate (kid algorithm : String)
  /-- A private key is of another algorithm. -/
  | privateKey (algorithm : String)
  /-- Anything else. -/
  | other (text : String)
  deriving Repr, DecidableEq

/-- The wording of a fault. -/
def KeyTypeFault.message : KeyTypeFault → String
  | .certificate kid a =>
    "Certificate for key id '" ++ kid ++ "' carries a non-RSA key (" ++ a ++ ")."
  | .privateKey a => "Private key is not an RSA key (" ++ a ++ ")."
  | .other text => text

/-- Why a signature is refused, or cannot be made. -/
inductive SignatureFault where
  /-- The signature is not base64. -/
  | encoding (fault : Base64.Fault)
  /-- The signature is not one of the key. -/
  | mismatch (kid : String)
  /-- The signature cannot be made. -/
  | signing (fault : Rsa.SigningFault)
  /-- Anything else. -/
  | other (text : String)
  deriving Repr, DecidableEq

/-- The wording of a fault. -/
def SignatureFault.message : SignatureFault → String
  | .encoding f => "Signature is not valid base64url: " ++ f.message ++ "."
  | .mismatch kid => "Signature does not verify with key '" ++ kid ++ "'."
  | .signing f => "RSA signing failed: " ++ f.message ++ "."
  | .other text => text

/-- Why a request is not even tried. -/
inductive SecurityFault where
  /-- The address has another scheme than the required one. -/
  | insecure (url : Url)
  /-- Anything else. -/
  | other (text : String)
  deriving Repr, DecidableEq

/-- The wording of a fault. -/
def SecurityFault.message : SecurityFault → String
  | .insecure url => insecureMessage url
  | .other text => text

/-- What went wrong. -/
inductive Error where
  | pem (fault : Pem.Fault)
  | transport (fault : TransportFault)
  | json (failure : Json.Failure)
  | url (fault : Url.Fault)
  | config (fault : ConfigFault)
  | format (fault : FormatFault)
  /-- The server answered, but not with keys. -/
  | status (status : Http.Status) (url : Url) (body : Option String)
  | keyType (fault : KeyTypeFault)
  | metrics (text : String)
  | security (fault : SecurityFault)
  | signature (fault : SignatureFault)
  | unknownKeyId (kid : String)
  deriving Repr, BEq

/-- The kinds of errors. -/
inductive Error.Kind where
  | network
  | format
  | keyType
  | config
  | signature
  | unknownKeyId
  deriving Repr, DecidableEq

/-- The kind of an error. -/
def Error.kind : Error → Error.Kind
  | .transport _ => .network
  | .status _ _ _ => .network
  | .pem _ => .format
  | .json _ => .format
  | .format _ => .format
  | .keyType _ => .keyType
  | .url _ => .config
  | .config _ => .config
  | .metrics _ => .config
  | .security _ => .config
  | .signature _ => .signature
  | .unknownKeyId _ => .unknownKeyId

/-- Whether the same may succeed at another time. -/
def Error.isTransient : Error → Bool
  | .transport _ => true
  | .status s _ _ => s.isTransient
  | _ => false

/-- The wording of an error. -/
def Error.message : Error → String
  | .pem f => f.message
  | .transport f => f.message
  | .json f => f.message
  | .url f => f.message
  | .config f => "Configuration invalid for " ++ f.field ++ ": " ++ f.reason
  | .format f => "Malformed input: " ++ f.message
  | .status s address body =>
    "Upstream HTTP status " ++ s.render ++ " from " ++ address.render ++ ": " ++ quotedOption body
  | .keyType f => "Unsupported key type: " ++ f.message
  | .metrics text => "Metrics error: " ++ text
  | .security f => "Security violation: " ++ f.message
  | .signature f => "Signature rejected: " ++ f.message
  | .unknownKeyId kid => "No public key found for key id '" ++ kid ++ "'."

end Keyring
