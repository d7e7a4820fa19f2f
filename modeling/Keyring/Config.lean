import Keyring.Error

/-!
The configuration of a source of keys.

* `Config`: where keys are fetched from, and what is done when they cannot be.
* `Config.ofUrl`: a configuration with the usual values.
* `Config.withRequireHttps` and so on: one with another value.
* `Config.validate`: whether a configuration can be used.
-/

namespace Keyring

/-- What happens to expired keys when fetching fails. -/
inductive FailurePolicy where
  /-- Expired keys are dropped. -/
  | clear
  /-- Expired keys are served for a while. -/
  | serveStale
  deriving Repr, DecidableEq

/-- Where keys are fetched from, and what is done when they cannot be. -/
structure Config where
  /-- the address of the key document -/
  keyUrl : Url
  /-- whether the transport has to be encrypted -/
  requireHttps : Bool
  /-- the longest document that is read -/
  maxResponseBytes : UInt64
  /-- how long fetching may take -/
  fetchTimeout : Duration
  /-- what happens to expired keys when fetching fails -/
  failurePolicy : FailurePolicy
  /-- how long expired keys are used when fetching fails -/
  staleWhileError : Duration
  deriving Repr, DecidableEq

namespace Config

/-- One mebibyte. -/
def defaultMaxResponseBytes : UInt64 := 1048576

/-- Ten seconds. -/
def defaultFetchTimeout : Duration := Duration.ofSeconds 10

/-- A tenth of a second. -/
def leastFetchTimeout : Duration := { seconds := 0, nanos := 100000000 }

/-- One minute. -/
def defaultStaleWhileError : Duration := Duration.ofSeconds 60

/-- One day. -/
def greatestStaleWhileError : Duration := Duration.ofSeconds 86400

/-- The configuration for an address with the usual values. -/
def forUrl (url : Url) : Config where
  keyUrl := url
  requireHttps := true
  maxResponseBytes := defaultMaxResponseBytes
  fetchTimeout := defaultFetchTimeout
  failurePolicy := .clear
  staleWhileError := defaultStaleWhileError

/-- The configuration for the text of an address with the usual values. -/
def ofUrl (text : String) : Except Error Config :=
  match Url.parse text with
  | .ok url => .ok (forUrl url)
  | .error f => .error (.url f)

/-! ### Other values -/

/-- The configuration with or without the demand for an encrypted transport. -/
def withRequireHttps (c : Config) (required : Bool) : Config := { c with requireHttps := required }

/-- The configuration with another bound for the document. -/
def withMaxResponseBytes (c : Config) (bound : UInt64) : Config :=
  { c with maxResponseBytes := bound }

/-- The configuration with another time for fetching. -/
def withFetchTimeout (c : Config) (timeout : Duration) : Config :=
  { c with fetchTimeout := timeout }

/-- The configuration with another policy. -/
def withFailurePolicy (c : Config) (policy : FailurePolicy) : Config :=
  { c with failurePolicy := policy }

/-- The configuration with another time for which expired keys are used. -/
def withStaleWhileError (c : Config) (window : Duration) : Config :=
  { c with staleWhileError := window }

/-! ### Use -/

/-- The first reason, in this order, why a configuration cannot be used. -/
def fault? (c : Config) : Option ConfigFault :=
  if c.requireHttps && !c.keyUrl.isHttps then some (.insecure c.keyUrl)
  else if c.keyUrl.host?.isNone then some .noHost
  else if c.maxResponseBytes = 0 then some .zeroLimit
  else if c.fetchTimeout < leastFetchTimeout then some .shortTimeout
  else if greatestStaleWhileError < c.staleWhileError then some .longWindow
  else if c.failurePolicy = .serveStale && c.staleWhileError.toNanos = 0 then some .zeroWindow
  else none

/-- Whether a configuration can be used. -/
def validate (c : Config) : Except Error Unit :=
  match c.fault? with
  | some f => .error (.config f)
  | none => .ok ()

end Config

/-- Whether the transport to an address is encrypted, as it has to be. -/
def Url.enforceHttps (url : Url) : Except Error Unit :=
  if url.isHttps then .ok () else .error (.security (.insecure url))

end Keyring
