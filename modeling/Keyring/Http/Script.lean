import Keyring.Http.Exchange

/-!
A network that answers from a list.

* `Http.Network`: answers still to be given, and the requests that came.
* `Http.Network.send`: the transport over such a network.
-/

namespace Keyring.Http

/-- A network that answers from a list. -/
structure Network where
  /-- whether requests get there -/
  reachable : Bool
  /-- what becomes of the next requests, one after the other; all further ones fail -/
  script : List Reply
  /-- the requests that came, the last one first -/
  received : List Request
  deriving Repr, DecidableEq

namespace Network

/-- A network before any request. -/
def ofScript (reachable : Bool) (script : List Reply) : Network := ⟨reachable, script, []⟩

/-- What becomes of a request. One over encrypted transport takes its place in the list, but is not
answered. -/
def send : Transport Network := fun net request =>
  if !net.reachable then (.failure, net)
  else
    let net' := { net with script := net.script.tail, received := request :: net.received }
    if request.url.isHttps then (.failure, net')
    else (net.script.head?.getD .failure, net')

/-- The requests that came, in their order. -/
def requests (net : Network) : List Request := net.received.reverse

end Network

end Keyring.Http
