import Keyring.Config
import Keyring.Json.Decode

/-!
Configurations as JSON documents.

* `Config.toValue`: a configuration as a document; all members are written.
* `Config.ofDocument`: the configuration of a document; members other than the address may be
  missing and then have the usual values.
-/

namespace Keyring

/-! ### Lengths of time -/

namespace Duration

/-- A length of time as seconds and nanoseconds. -/
def toValue (d : Duration) : Json.Value :=
  .object [("secs", .natural d.seconds), ("nanos", .natural (UInt64.ofNat d.nanos))]

/-- The bound of the seconds. -/
def secondsBound : Nat := UInt64.size

/-- The bound of the nanoseconds as they are written; what exceeds a second is carried. -/
def nanosBound : Nat := UInt32.size

/-- What a length of time is called. -/
def expected : String := "struct Duration"

/-- The length of so many seconds and nanoseconds, which may exceed a second. -/
def ofParts (seconds nanos : Nat) : Except Json.Cause Duration :=
  let total := seconds + nanos / nanosPerSecond
  if total < secondsBound then
    .ok { seconds := UInt64.ofNat total, nanos := nanos % nanosPerSecond
          nanos_lt := Nat.mod_lt _ (by decide) }
  else .error (.refused "overflow deserializing Duration")

/-- The members that have been read so far. -/
structure Parts where
  /-- the seconds, if their member has been read -/
  seconds : Option Nat
  /-- the nanoseconds, if their member has been read -/
  nanos : Option Nat
  deriving Repr, DecidableEq

/-- The length that the members make; both have to be there. -/
def Parts.finish (p : Parts) : Except Json.Cause Duration :=
  match p.seconds, p.nanos with
  | none, _ => .error (.missingField "secs")
  | some _, none => .error (.missingField "nanos")
  | some s, some n => ofParts s n

/-- Whole seconds. -/
def readSeconds (s : List UInt8) : Json.Reading Nat := Json.readNatural secondsBound "u64" s

/-- Nanoseconds. -/
def readNanos (s : List UInt8) : Json.Reading Nat := Json.readNatural nanosBound "u32" s

/-- One member; there are no others. -/
def readMember (p : Parts) (name : String) (s : List UInt8) : Json.Reading Parts :=
  if name = "secs" then
    (Json.readField name p.seconds.isSome readSeconds s).map
      fun v => ({ p with seconds := some v.1 }, v.2)
  else if name = "nanos" then
    (Json.readField name p.nanos.isSome readNanos s).map
      fun v => ({ p with nanos := some v.1 }, v.2)
  else .error (.unsettled (.unknownField name "`secs` or `nanos`") s)

/-- An element that has to be there. -/
def readElement (index : Nat) (read : List UInt8 → Json.Reading Nat) (s : List UInt8) :
    Json.Reading Nat :=
  match Json.readElement (index = 0) read s with
  | .error f => .error f
  | .ok (some n, r) => .ok (n, r)
  | .ok (none, r) => .error (.unsettled (.wrongLength index expected) r)

/-- A length of time that is written as a list. -/
def readElements (s : List UInt8) : Except Json.Fault (Duration × List UInt8) := do
  let (seconds, s) ← readElement 0 readSeconds s
  let (nanos, s) ← readElement 1 readNanos s
  match ofParts seconds nanos with
  | .ok d => return (d, s)
  | .error c => throw (.unsettled c s)

/-- A length of time. -/
def read (s : List UInt8) : Json.Reading Duration :=
  Json.readRecord expected (Json.readObject readMember ⟨none, none⟩ Parts.finish)
    (Json.readList readElements) s

end Duration

/-! ### Policies -/

namespace FailurePolicy

/-- The name of a policy. -/
def name : FailurePolicy → String
  | .clear => "clear"
  | .serveStale => "serve_stale"

/-- The policy of a name. -/
def ofName (s : String) : Except Json.Cause FailurePolicy :=
  if s = name .clear then .ok .clear
  else if s = name .serveStale then .ok .serveStale
  else .error (.unknownVariant s "`clear` or `serve_stale`")

end FailurePolicy

/-! ### Configurations -/

namespace Config

/-- A configuration as a document. -/
def toValue (c : Config) : Json.Value :=
  .object [
    ("key_url", .text c.keyUrl.render),
    ("require_https", .bool c.requireHttps),
    ("max_response_bytes", .natural c.maxResponseBytes),
    ("fetch_timeout", c.fetchTimeout.toValue),
    ("failure_policy", .text c.failurePolicy.name),
    ("stale_while_error", c.staleWhileError.toValue)]

/-- What a configuration is called. -/
def expected : String := "struct KeySourceConfig"

/-- The members that have been read so far. -/
structure Parts where
  /-- the address -/
  keyUrl : Option Url
  /-- whether the transport has to be encrypted -/
  requireHttps : Option Bool
  /-- the longest document -/
  maxResponseBytes : Option Nat
  /-- how long fetching may take -/
  fetchTimeout : Option Duration
  /-- what happens to expired keys -/
  failurePolicy : Option FailurePolicy
  /-- how long expired keys are used -/
  staleWhileError : Option Duration
  deriving Repr, DecidableEq

/-- Nothing has been read. -/
def Parts.empty : Parts := ⟨none, none, none, none, none, none⟩

/-- The configuration for an address with what has been read, and the usual values for the rest. -/
def Parts.complete (p : Parts) (url : Url) : Config where
  keyUrl := url
  requireHttps := p.requireHttps.getD true
  maxResponseBytes := (p.maxResponseBytes.map UInt64.ofNat).getD defaultMaxResponseBytes
  fetchTimeout := p.fetchTimeout.getD defaultFetchTimeout
  failurePolicy := p.failurePolicy.getD .clear
  staleWhileError := p.staleWhileError.getD defaultStaleWhileError

/-- The configuration that the members make; the address has to be there. -/
def Parts.finish (p : Parts) : Except Json.Cause Config :=
  match p.keyUrl with
  | none => .error (.missingField "key_url")
  | some url => .ok (p.complete url)

/-- An address. -/
def readUrl (s : List UInt8) : Json.Reading Url :=
  Json.readTextAs "a string representing an URL"
    (fun text => (Url.parse text).mapError fun f => .refused (f.message ++ ": " ++ quoted text)) s

/-- A whole number of 64 bits. -/
def readLimit (s : List UInt8) : Json.Reading Nat := Json.readNatural UInt64.size "u64" s

/-- A policy. -/
def readPolicy (s : List UInt8) : Json.Reading FailurePolicy :=
  Json.readVariant FailurePolicy.ofName s

/-- One member; one with another name is passed over. -/
def readMember (p : Parts) (name : String) (s : List UInt8) : Json.Reading Parts :=
  if name = "key_url" then
    (Json.readField name p.keyUrl.isSome readUrl s).map
      fun v => ({ p with keyUrl := some v.1 }, v.2)
  else if name = "require_https" then
    (Json.readField name p.requireHttps.isSome Json.readBool s).map
      fun v => ({ p with requireHttps := some v.1 }, v.2)
  else if name = "max_response_bytes" then
    (Json.readField name p.maxResponseBytes.isSome readLimit s).map
      fun v => ({ p with maxResponseBytes := some v.1 }, v.2)
  else if name = "fetch_timeout" then
    (Json.readField name p.fetchTimeout.isSome Duration.read s).map
      fun v => ({ p with fetchTimeout := some v.1 }, v.2)
  else if name = "failure_policy" then
    (Json.readField name p.failurePolicy.isSome readPolicy s).map
      fun v => ({ p with failurePolicy := some v.1 }, v.2)
  else if name = "stale_while_error" then
    (Json.readField name p.staleWhileError.isSome Duration.read s).map
      fun v => ({ p with staleWhileError := some v.1 }, v.2)
  else (Json.skipMember s).map fun r => (p, r)

/-- A configuration that is written as a list. -/
def readElements (s : List UInt8) : Except Json.Fault (Config × List UInt8) := do
  let (url, s) ← Json.readElement true readUrl s
  match url with
  | none => throw (.unsettled (.wrongLength 0 (expected ++ " with 6 elements")) s)
  | some url =>
    let (requireHttps, s) ← Json.readElement false Json.readBool s
    let (maxResponseBytes, s) ← Json.readElement false readLimit s
    let (fetchTimeout, s) ← Json.readElement false Duration.read s
    let (failurePolicy, s) ← Json.readElement false readPolicy s
    let (staleWhileError, s) ← Json.readElement false Duration.read s
    let parts : Parts :=
      ⟨some url, requireHttps, maxResponseBytes, fetchTimeout, failurePolicy, staleWhileError⟩
    return (parts.complete url, s)

/-- A configuration. -/
def read (s : List UInt8) : Json.Reading Config :=
  Json.readRecord expected (Json.readObject readMember Parts.empty Parts.finish)
    (Json.readList readElements) s

/-- The configuration of a document. -/
def ofDocument (document : List UInt8) : Except Error Config :=
  (Json.readDocument read document).mapError .json

end Config

end Keyring
