import DeviceRpc.Link.Endpoint
import DeviceRpc.Link.Failure
import DeviceRpc.World.Files

/-!
# The network

Connections, listeners and the files that sockets leave. A connection is two
pipes, one for each direction. Reading at the end of a pipe that the other side
closed says so, once with a reset where that side left bytes of ours unread;
writing to a side that closed breaks. A path can be dialed while its listener
lives; there is no way to another host.

**Claiming a path.** A listener takes a path only if nothing stands there or a
socket that nobody answers on, and that socket is removed first. Closing a server
removes what stands at its path, unless that is a directory.
-/

namespace DeviceRpc

/-- One direction of a connection. -/
structure Pipe where
  /-- Written and not yet read. -/
  bytes : Bytes := []
  /-- Nothing more will be written. -/
  sealed : Bool := false
  /-- Nothing more will be read. -/
  deaf : Bool := false
  /-- The writer went and left bytes from the other direction unread. -/
  reset : Bool := false
  deriving DecidableEq, Repr

instance : Inhabited Pipe := ⟨{}⟩

/-- A connection. -/
structure Connection where
  toAcceptor : Pipe := {}
  toDialer : Pipe := {}
  deriving DecidableEq, Repr

instance : Inhabited Connection := ⟨{}⟩

namespace Connection

/-- What a side reads from. -/
def inbound (c : Connection) : Side → Pipe
  | .dialer => c.toDialer
  | .acceptor => c.toAcceptor

/-- What a side writes to. -/
def outbound (c : Connection) (s : Side) : Pipe := c.inbound s.other

/-- The connection with what a side reads from changed. -/
def changeInbound (c : Connection) (s : Side) (f : Pipe → Pipe) : Connection :=
  match s with
  | .dialer => { c with toDialer := f c.toDialer }
  | .acceptor => { c with toAcceptor := f c.toAcceptor }

/-- The connection with what a side writes to changed. -/
def changeOutbound (c : Connection) (s : Side) (f : Pipe → Pipe) : Connection :=
  c.changeInbound s.other f

/-- A side writes. -/
def send (c : Connection) (s : Side) (bs : Bytes) : Connection × Except LinkFailure Unit :=
  let out := c.outbound s
  if out.deaf ∨ out.sealed then (c, .error .brokenPipe)
  else (c.changeOutbound s fun p => { p with bytes := p.bytes ++ bs }, .ok ())

/-- A side reads at most `n` bytes; nothing where it has to wait. -/
def receive (c : Connection) (s : Side) (n : Nat) : Connection × Option Received :=
  let inn := c.inbound s
  match inn.bytes.take (max n 1) with
  | first :: rest =>
    (c.changeInbound s fun p => { p with bytes := p.bytes.drop (max n 1) },
      some (.bytes first rest))
  | [] =>
    if inn.reset then (c.changeInbound s ({ · with reset := false }), some .reset)
    else if inn.sealed then (c, some .ended)
    else (c, none)

/-- A side writes nothing more. -/
def finish (c : Connection) (s : Side) : Connection :=
  c.changeOutbound s ({ · with sealed := true })

/-- A side goes; `abrupt` where nobody ever took it up. -/
def hangUp (c : Connection) (s : Side) (abrupt : Bool := false) : Connection :=
  let unread := abrupt || !(c.inbound s).bytes.isEmpty
  (c.changeInbound s ({ · with bytes := [], deaf := true })).changeOutbound s fun p =>
    { p with sealed := true, reset := p.reset || unread }

end Connection

/-- A listener. -/
structure Listener where
  endpoint : Endpoint
  /-- Connections that were dialed and not yet accepted, in order. -/
  backlog : List ConnectionId := []
  isOpen : Bool := true
  /-- It was told to stop. -/
  stopping : Bool := false
  deriving DecidableEq, Repr

/-- Everything that connects. -/
structure Network where
  files : Files := []
  listeners : List Listener := []
  connections : List Connection := []

namespace Network

/-- The longest path that a socket can have, in bytes, is one less. -/
def pathLimit : Nat := 108

/-- Why a path cannot belong to a socket at all. -/
def unfitPath (path : String) : Option LinkFailure :=
  let bs := Utf8.encode path
  if bs.contains 0 then some (.io "paths must not contain interior null bytes")
  else if pathLimit ≤ bs.length then some (.io "path must be shorter than SUN_LEN")
  else none

/-- What becomes of a path that leads nowhere. -/
def pathFailure (fault : PathFault) : LinkFailure := .io fault.message

/-- Whether somebody answers on a listener. -/
def answers (n : Network) (listener : Option ListenerId) : Option ListenerId := do
  let id ← listener
  if (← n.listeners[id]?).isOpen then some id else none

/-- Changes a connection. -/
def onConnection (n : Network) (id : ConnectionId) (f : Connection → Connection) : Network :=
  { n with connections := n.connections.modify id f }

/-- Changes a listener. -/
def onListener (n : Network) (id : ListenerId) (f : Listener → Listener) : Network :=
  { n with listeners := n.listeners.modify id f }

/-- Dials a path. -/
def dialPath (n : Network) (path : String) : Network × Except LinkFailure Handle :=
  match unfitPath path, n.files.find path with
  | some e, _ => (n, .error e)
  | none, .error fault => (n, .error (pathFailure fault))
  | none, .ok (.socket listener) =>
    match n.answers listener with
    | some id =>
      let connection := n.connections.length
      ({ n with connections := n.connections ++ [default] }.onListener id fun l =>
          { l with backlog := l.backlog ++ [connection] },
        .ok ⟨connection, .dialer⟩)
    | none => (n, .error .connectionRefused)
  | none, .ok _ => (n, .error .connectionRefused)

/-- Dials an endpoint. -/
def dial (n : Network) : Endpoint → Network × Except LinkFailure Handle
  | .unix path => n.dialPath path
  | .tcp _ _ => (n, .error .networkUnreachable)

/-- A side of a connection goes. -/
def hangUp (n : Network) (h : Handle) : Network := n.onConnection h.connection (·.hangUp h.side)

/-- Makes room for a listener at a path. To find out whether somebody answers, it
dials and hangs up at once. -/
def clearStale (n : Network) (path : String) : Network × Except LinkFailure Unit :=
  match n.files.find path with
  | .error .missing => (n, .ok ())
  | .error fault => (n, .error (pathFailure fault))
  | .ok (.socket _) =>
    match n.dialPath path with
    | (n, .ok h) => (n.hangUp h, .error (.invalidAddress (path ++ ": socket is in use")))
    | (n, .error _) => ({ n with files := n.files.remove path }, .ok ())
  | .ok _ => (n, .error (.invalidAddress (path ++ ": exists and is not a socket")))

/-- Adds a listener. -/
def addListener (n : Network) (endpoint : Endpoint) : Network × ListenerId :=
  ({ n with listeners := n.listeners ++ [{ endpoint }] }, n.listeners.length)

/-- Binds a path that is free. -/
def bindPath (n : Network) (path : String) : Network × Except LinkFailure ListenerId :=
  match unfitPath path, n.files.vacancy path with
  | some e, _ => (n, .error e)
  | none, .error fault => (n, .error (pathFailure fault))
  | none, .ok place =>
    let (n, id) := n.addListener (.unix path)
    ({ n with files := n.files.putAt place (.socket (some id)) }, .ok id)

/-- Listens on an endpoint. -/
def listen (n : Network) (endpoint : Endpoint) : Network × Except LinkFailure ListenerId :=
  match endpoint with
  | .tcp _ _ =>
    let (n, id) := n.addListener endpoint
    (n, .ok id)
  | .unix path =>
    match n.clearStale path with
    | (n, .ok ()) => n.bindPath path
    | (n, .error e) => (n, .error e)

/-- Accepts nothing more. Connections that nobody accepted are dropped; `remove`
also takes away what stands at the listener's path. -/
def unlisten (n : Network) (id : ListenerId) (remove : Bool) : Network :=
  match n.listeners[id]? with
  | none => n
  | some l =>
    let n := l.backlog.foldl (fun n c => n.onConnection c (·.hangUp .acceptor true)) n
    let n := n.onListener id ({ · with isOpen := false, backlog := [] })
    match l.endpoint with
    | .unix path =>
      if remove then { n with files := n.files.remove path } else n
    | .tcp _ _ => n

/-- The next connection of a listener, or the word to stop; nothing where it has to
wait. -/
def accept (n : Network) (id : ListenerId) : Network × Option (Option Handle) :=
  match n.listeners[id]? with
  | none => (n, none)
  | some l =>
    if l.stopping then (n, some none)
    else match l.backlog with
      | [] => (n, none)
      | c :: backlog => (n.onListener id ({ · with backlog }), some (some ⟨c, .acceptor⟩))

end Network

end DeviceRpc
