import DeviceRpc.Metrics.Node
import DeviceRpc.Text.Split

/-!
# Expositions on the bench

The order in which an exposition shows the series of a family is nobody's, so a
bench picks one for what it asks for, and compares expositions line by line with the
series of each family sorted by their lines. A series of a histogram has several
lines, which stay together.
-/

namespace DeviceRpc

namespace Metrics

/-- The series by their labels as a sample shows them. -/
def Traversal.byLabels (α : Type) : Traversal α where
  list family := family.mergeSort fun a b => decide (body a.1 ++ "\x7d" ≤ body b.1 ++ "\x7d")
  perm family := List.mergeSort_perm family _

end Metrics

namespace Exposition

/-- The order in which a bench goes through the families of a node. -/
def order : NodeMetrics.Traversals where
  counters _ := .byLabels UInt64
  dispatchDuration := .byLabels Metrics.Histogram
  activeConnections := .byLabels Int64

/-- Whether some lines come no later than others, compared line by line. -/
def notAfter : List String → List String → Bool
  | [], _ => true
  | _ :: _, [] => false
  | a :: as, b :: bs => if a = b then notAfter as bs else decide (a < b)

/-- The lines in groups of a size, the last with those that are left. The first group
takes as many as there is room for. -/
def grouped (size : Nat) : (room : Nat) → List String → List (List String)
  | _, [] => [[]]
  | room, line :: rest =>
    match room with
    | 0 => [] :: joining line (grouped size (size - 1) rest)
    | room + 1 => joining line (grouped size room rest)
where
  /-- The groups with one more line at the start of the first. -/
  joining (line : String) : List (List String) → List (List String)
    | [] => [[line]]
    | group :: groups => (line :: group) :: groups

/-- How many lines a series takes under the heading of its family. -/
def seriesSize (heading : String) : Nat :=
  if heading.endsWith " histogram" then Metrics.bounds.length + 3 else 1

/-- The lines with the series of each family sorted. Gone through from the last line to the
first, samples wait for the heading of their family, which says how many lines a series
takes. -/
def sortFamilies (lines : List String) : List String :=
  let (samples, sorted) := lines.foldr withLine ([], [])
  samples ++ sorted
where
  /-- One more line before samples that wait for their heading and families that are sorted. -/
  withLine (line : String) : List String × List String → List String × List String
    | (samples, sorted) =>
      if line.startsWith "# TYPE " then
        let size := seriesSize line
        ([], line :: ((grouped size size samples).mergeSort notAfter).flatten ++ sorted)
      else (line :: samples, sorted)

/-- An exposition line by line, as a bench compares it: what follows the families
keeps its order. -/
def lines (text : String) : List String :=
  let lines := (Text.lines text).dropLast
  let isLast (line : String) : Bool := line = "# TYPE obsrpc_draining gauge"
  sortFamilies (lines.takeWhile (!isLast ·)) ++ lines.dropWhile (!isLast ·)

end Exposition

/-- The lines of an exposition as a bench compares them. -/
def NodeMetrics.lines (extra : List (String × Nat)) (m : NodeMetrics) : List String :=
  Exposition.lines (m.text Exposition.order (extra.map fun (name, n) => (name, .ofNat n)))

end DeviceRpc
