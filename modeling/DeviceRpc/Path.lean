import DeviceRpc.Text.Split
import DeviceRpc.Text.Utf8

/-!
# Paths

A path is walked name by name, and every name but the last must lead to a
directory: a dot stays where it is, two dots go up, and both want a directory to
start from. A slash at the end wants one too. What stands where is up to whoever
asks; only the working directory, the root and what is above the working directory
are directories in any case.
-/

namespace DeviceRpc

/-- Why a path leads nowhere, or to nothing that can be read. -/
inductive PathFault where
  | missing | notDirectory | isDirectory | tooLong | zeroByte
  deriving DecidableEq, Repr

/-- What the system says of it. -/
def PathFault.message : PathFault → String
  | missing => "No such file or directory (os error 2)"
  | notDirectory => "Not a directory (os error 20)"
  | isDirectory => "Is a directory (os error 21)"
  | tooLong => "File name too long (os error 36)"
  | zeroByte => "file name contained an unexpected NUL byte"

/-- A place: the names on the way to it from the working directory. The way from the
root starts with an empty name, and each step above the working directory is
two dots. -/
abbrev Place := List String

namespace Place

/-- Whether a place is a directory in any case. -/
def isBase (here : Place) : Bool := here.all fun name => name = "" || name = ".."

/-- The directory that a place is in. -/
def up (here : Place) : Place :=
  if here = [""] then here
  else if here.isBase then here ++ [".."]
  else here.dropLast

/-- One step further. -/
def step (here : Place) (name : String) : Place :=
  if name = "." then here else if name = ".." then here.up else here ++ [name]

end Place

namespace Path

/-- A path has fewer bytes than this. -/
def lengthLimit : Nat := 4096

/-- A name has at most so many bytes. -/
def nameLimit : Nat := 255

/-- The names on a path. -/
def names (path : String) : List String :=
  ((Text.splitAll '/' path.toList).map String.ofList).filter (· ≠ "")

/-- Where a path starts. -/
def start (path : String) : Place := if path.startsWith "/" then [""] else []

/-- Goes on from a place; `stands` tells what stands there, if anything, and whether
that is a directory. -/
def walkFrom (stands : Place → Option Bool) : Place → List String → Except PathFault Place
  | here, [] => .ok here
  | here, name :: rest =>
    match if here.isBase then some true else stands here with
    | some true =>
      if nameLimit < (Utf8.encode name).length then .error .tooLong
      else walkFrom stands (here.step name) rest
    | some false => .error .notDirectory
    | none => .error .missing

/-- The place that a path leads to, whether or not anything stands there. -/
def walk (stands : Place → Option Bool) (path : String) : Except PathFault Place :=
  let bytes := Utf8.encode path
  if bytes.contains 0 then .error .zeroByte
  else if lengthLimit ≤ bytes.length then .error .tooLong
  else if path = "" then .error .missing
  else walkFrom stands (start path) (names path)

/-- What stands where a path leads to, with a slash at its end only a directory. -/
def find (stands : Place → Option Bool) (path : String) : Except PathFault Place := do
  let place ← walk stands path
  match if place.isBase then some true else stands place with
  | none => .error .missing
  | some isDirectory =>
    if path.endsWith "/" && !isDirectory then .error .notDirectory else .ok place

/-- Why a file cannot be read where there are only directories that stand in any
case. -/
def unreadable (path : String) : PathFault :=
  match find (fun _ => none) path with
  | .error fault => fault
  | .ok _ => .isDirectory

end Path

end DeviceRpc
