/-!
# Labels

A metric series is told apart by its labels, pairs of a key and a value whose
order does not matter: the pairs are kept sorted. The body of a sample writes
each value between double quotes, with a backslash before a quote and before a
backslash and a line feed spelled out, so no value can end its quotes or its
line.
-/

namespace DeviceRpc.Metrics

/-- The labels of a series, sorted. -/
abbrev Labels := List (String × String)

/-- The order of pairs: by key, then by value. -/
def pairLe (a b : String × String) : Bool :=
  if a.1 = b.1 then decide (a.2 ≤ b.2) else decide (a.1 ≤ b.1)

/-- The labels that some pairs stand for, in whatever order. -/
def labels (pairs : List (String × String)) : Labels := pairs.mergeSort pairLe

/-- The text with every `c` replaced. -/
def replaceAll (c : Char) (new : List Char) (text : List Char) : List Char :=
  text.flatMap fun d => if d = c then new else [d]

/-- A value as a sample shows it. Backslashes are doubled first, so the ones that spell out a quote
or a line feed stay single. -/
def escape (value : String) : String :=
  String.ofList (replaceAll '\n' ['\\', 'n'] (replaceAll '"' ['\\', '"']
    (replaceAll '\\' ['\\', '\\'] value.toList)))

/-- A pair as a sample shows it. -/
def pairBody (pair : String × String) : String := pair.1 ++ "=\"" ++ escape pair.2 ++ "\""

/-- Pairs as a sample shows them, between the braces. -/
def body (pairs : List (String × String)) : String := ",".intercalate (pairs.map pairBody)

end DeviceRpc.Metrics
