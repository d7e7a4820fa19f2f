import Keyring.Url.Address

/-!
Addresses of resources.

* `Url.Host`, `Url.Authority`, `Url.Path`, `Url`: the parts of an address, in the form in which they
  are written.
* `Url.render`: an address as text.
* `Url.isSpecial`, `Url.defaultPort?`: what some schemes have of their own.
-/

namespace Keyring

/-- A host. -/
inductive Url.Host where
  /-- A name. -/
  | name (text : String)
  /-- An address of 32 bits. -/
  | four (bits : Nat)
  /-- An address of eight groups. -/
  | eight (groups : List Nat)
  deriving Repr, DecidableEq

/-- What follows `//`. -/
structure Url.Authority where
  /-- the name of the user, empty if there is none -/
  user : String
  /-- the password, if one was given -/
  password : Option String
  /-- the host, none where it is empty -/
  host : Option Url.Host
  /-- the port, unless it is the default of the scheme -/
  port : Option Nat
  deriving Repr, DecidableEq

/-- What follows the authority. -/
inductive Url.Path where
  /-- A text that names no steps. -/
  | plain (text : String)
  /-- Steps, each after a slash. -/
  | steps (names : List String)
  deriving Repr, DecidableEq

/-- An address of a resource. -/
structure Url where
  /-- the scheme, in lower case -/
  scheme : String
  /-- the authority, if there are two slashes -/
  authority : Option Url.Authority
  /-- the path -/
  path : Url.Path
  /-- what follows the question mark -/
  query : Option String
  /-- what follows the hash -/
  fragment : Option String
  deriving Repr, DecidableEq

namespace Url

/-- The port of a scheme that is left out. -/
def defaultPort? (scheme : String) : Option Nat :=
  if scheme = "http" || scheme = "ws" then some 80
  else if scheme = "https" || scheme = "wss" then some 443
  else if scheme = "ftp" then some 21
  else none

/-- Whether addresses of a scheme always have a host and a path. -/
def isSpecial (scheme : String) : Bool := (defaultPort? scheme).isSome || scheme = "file"

/-- A host as text. -/
def Host.render : Host → String
  | .name s => s
  | .four n => String.ofList (Address.writeFour n)
  | .eight gs => "[" ++ String.ofList (Address.writeEight gs) ++ "]"

/-- A port as text. -/
def renderPort : Option Nat → String
  | some p => ":" ++ toString p
  | none => ""

/-- The user before a host, with its password. -/
def Authority.renderUser (a : Authority) : String :=
  match a.password with
  | some p => a.user ++ ":" ++ p ++ "@"
  | none => if a.user.isEmpty then "" else a.user ++ "@"

/-- The host and the port. -/
def Authority.renderHost (a : Authority) : String :=
  (a.host.map Host.render).getD "" ++ renderPort a.port

/-- The authority with its slashes. -/
def Authority.render (a : Authority) : String := "//" ++ a.renderUser ++ a.renderHost

/-- A path as text. -/
def Path.render : Path → String
  | .plain s => s
  | .steps names => String.join (names.map ("/" ++ ·))

/-- The authority and the path. A path after no authority must not look like one. -/
def renderPlace (url : Url) : String :=
  match url.authority, url.path with
  | some a, p => a.render ++ p.render
  | none, .steps ("" :: s :: r) => "/." ++ (Path.steps ("" :: s :: r)).render
  | none, p => p.render

/-- An address without its fragment. -/
def renderResource (url : Url) : String :=
  url.scheme ++ ":" ++ url.renderPlace ++ (url.query.map ("?" ++ ·)).getD ""

/-- An address as text. -/
def render (url : Url) : String :=
  url.renderResource ++ (url.fragment.map ("#" ++ ·)).getD ""

/-- The host, if there is one. -/
def host? (url : Url) : Option Host := url.authority.bind (·.host)

/-- The port that requests go to. -/
def port? (url : Url) : Option Nat :=
  match url.authority.bind (·.port) with
  | some p => some p
  | none => defaultPort? url.scheme

/-- Whether the scheme is that of encrypted transport. -/
def isHttps (url : Url) : Bool := url.scheme = "https"

end Url

end Keyring
