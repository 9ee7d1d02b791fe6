import DeviceRpc.Node.Basic
import DeviceRpc.Text.JsonString

/-!
# The operations listener

Four pages by path: whether the node lives, whether it is ready, its metrics and
its objects. A page is asked for with GET, or with HEAD for everything but the
body; other methods are not allowed, and other paths are not found. The target of a
request is a path, or an absolute address whose scheme and host do not matter.
-/

namespace DeviceRpc

/-- An answer of the operations listener. -/
structure Response where
  status : Nat
  contentType : Option String := none
  body : String := ""
  deriving DecidableEq, Repr

namespace Node

/-- A page of plain text. -/
def plain (status : Nat) (body : String) : Response :=
  { status, contentType := some "text/plain; charset=utf-8", body }

/-- An object as JSON. -/
def objectJson (o : ObjectView) : String :=
  "\x7b\"name\":" ++ Text.jsonString o.name ++ ",\"index\":" ++ toString o.index.toNat
    ++ ",\"health\":" ++ (if o.healthy then "\"ok\"" else "\"error\"") ++ "\x7d"

/-- The page of a path. The metrics go through their families in some order. -/
def page? (n : Node) (order : NodeMetrics.Traversals) (health : MonitorId → Bool)
    (reconnects : Driver → UInt64) (path : String) : Option Response :=
  match path with
  | "/healthz" => some (plain 200 "ok")
  | "/readyz" =>
    some <|
      if n.metrics.draining then plain 503 "draining"
      else if n.isReady health then plain 200 "ready"
      else plain 503 "unhealthy"
  | "/metrics" =>
    some {
      status := 200
      contentType := some "text/plain; version=0.0.4; charset=utf-8"
      body := n.metrics.text order (n.extra health reconnects) }
  | "/objects" =>
    some {
      status := 200
      contentType := some "application/json"
      body := "[" ++ ",".intercalate ((n.objects health).map objectJson) ++ "]" }
  | _ => none

/-- Whether a character may stand in a scheme. -/
def isSchemeChar (c : Char) : Bool := c.isAlphanum || c ∈ ['+', '-', '.', '~']

/-- What follows the scheme of an absolute address. -/
def afterScheme? : List Char → Option (List Char)
  | ':' :: '/' :: '/' :: rest => some rest
  | c :: rest => if isSchemeChar c then afterScheme? rest else none
  | [] => none

/-- Whether a character stands after a host. -/
def endsHost (c : Char) : Bool := c ∈ ['/', '?', '#']

/-- What follows the host of an absolute address; the host is not empty. -/
def afterHost? (target : List Char) : Option (List Char) := do
  let rest ← afterScheme? target
  let c ← rest.head?
  if endsHost c then none else some (rest.dropWhile fun c => !endsHost c)

/-- The path that a target asks for, without a query or a fragment. -/
def targetPath? (target : String) : Option String :=
  let path (s : List Char) := String.ofList (s.takeWhile fun c => c ≠ '?' && c ≠ '#')
  if target.toList.head? = some '/' then some (path target.toList)
  else (afterHost? target.toList).map path

/-- The answer to a method and a target. -/
def respond (n : Node) (order : NodeMetrics.Traversals) (health : MonitorId → Bool)
    (reconnects : Driver → UInt64) (method target : String) : Response :=
  match (targetPath? target).bind (n.page? order health reconnects) with
  | none => { status := 404 }
  | some page =>
    if method = "GET" then page
    else if method = "HEAD" then { page with body := "" }
    else { status := 405 }

end Node

end DeviceRpc
