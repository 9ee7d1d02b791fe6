import DeviceRpc.Link.Handle
import DeviceRpc.Path

/-!
# Files

The part of a file system that sockets need: regular files, directories, and
socket files, each made by a listener that may be gone by now.
-/

namespace DeviceRpc

/-- What stands at a place. -/
inductive FileKind where
  | regular
  | directory
  /-- The socket of a listener; with none it was left behind by someone else. -/
  | socket (listener : Option ListenerId)
  deriving DecidableEq, Repr

/-- Files by place, no place twice. -/
abbrev Files := List (Place × FileKind)

namespace Files

/-- What stands at a place. -/
def at? (files : Files) (place : Place) : Option FileKind :=
  if place.isBase then some .directory else files.lookup place

/-- Whether something stands at a place, and whether it is a directory. -/
def stands (files : Files) (place : Place) : Option Bool :=
  (files.at? place).map (· = .directory)

/-- The file that a path leads to. -/
def find (files : Files) (path : String) : Except PathFault FileKind := do
  match files.at? (← Path.find files.stands path) with
  | some kind => .ok kind
  | none => .error .missing

/-- The place for a new file at a path where nothing stands. A slash at the end asks
for a directory that is not there. -/
def vacancy (files : Files) (path : String) : Except PathFault Place := do
  let place ← Path.walk files.stands path
  if path.endsWith "/" then .error .missing else .ok place

/-- The files with one put at a place. -/
def putAt (place : Place) (kind : FileKind) (files : Files) : Files :=
  (place, kind) :: files.filter (·.1 ≠ place)

/-- The files with one put at a path, if the path leads anywhere and nothing stands
there. -/
def put (path : String) (kind : FileKind) (files : Files) : Files :=
  match if kind = .directory then Path.walk files.stands path else files.vacancy path with
  | .ok place => if (files.at? place).isNone then files.putAt place kind else files
  | .error _ => files

/-- The files without the one at a path. A directory stays. -/
def remove (path : String) (files : Files) : Files :=
  match Path.find files.stands path with
  | .ok place =>
    if files.at? place = some .directory then files else files.filter (·.1 ≠ place)
  | .error _ => files

end Files

end DeviceRpc
