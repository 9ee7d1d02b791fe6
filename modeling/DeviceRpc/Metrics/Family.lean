import DeviceRpc.Metrics.Label

/-!
# Metric families

A family holds one value for each label set that was ever used. Counters and
gauges wrap around at sixty-four bits; a histogram counts its observations, adds
them up, and counts for each bound those that do not exceed it. A family is shown
series by series, in whatever order they are gone through.
-/

namespace DeviceRpc.Metrics

/-- A value for each label set, no label set twice. -/
abbrev Family (α : Type) := List (Labels × α)

/-- The family with the value of one label set changed, from the default where
there was none. -/
def Family.update {α : Type} [Inhabited α] (key : Labels) (change : α → α) :
    Family α → Family α
  | [] => [(key, change default)]
  | (k, v) :: rest =>
    if k = key then (k, change v) :: rest else (k, v) :: Family.update key change rest

/-- Upper bounds of the histogram, in microseconds. -/
def bounds : List Nat := [100, 500, 1000, 5000, 10000, 50000, 100000, 500000, 1000000]

/-- Observed durations. -/
structure Histogram where
  count : UInt64 := 0
  /-- The microseconds of all observations together. -/
  sum : UInt64 := 0
  /-- For each bound the observations that do not exceed it. -/
  buckets : List UInt64 := bounds.map fun _ => 0
  deriving DecidableEq, Repr

instance : Inhabited Histogram := ⟨{}⟩

/-- The histogram with one more duration. One that sixty-four bits cannot hold
counts as the longest that they can. -/
def Histogram.observe (nanoseconds : Nat) (h : Histogram) : Histogram :=
  let micros := min (nanoseconds / 1000) (UInt64.size - 1)
  { count := h.count + 1
    sum := h.sum + UInt64.ofNat micros
    buckets := List.zipWith (fun bound n => if micros ≤ bound then n + 1 else n) bounds h.buckets }

/-! ## Families as text -/

/-- An order to go through the series of a family, which has none of its own. -/
structure Traversal (α : Type) where
  list : Family α → Family α
  perm : ∀ family, (list family).Perm family

/-- A family of numbers as text: its type, and a sample for each series. -/
def numberText {α : Type} (kind name : String) (digits : α → String) (series : Family α) :
    String :=
  "# TYPE " ++ name ++ " " ++ kind ++ "\n"
    ++ String.join (series.map fun (key, v) =>
      name ++ "\x7b" ++ body key ++ "\x7d " ++ digits v ++ "\n")

/-- A family of histograms as text: its type, and for each series a bucket for every
bound and one without, the sum and the count. -/
def histogramText (name : String) (series : Family Histogram) : String :=
  "# TYPE " ++ name ++ " histogram\n"
    ++ String.join (series.map fun (key, h) =>
      let bucket (bound : String) (n : UInt64) : String :=
        name ++ "_bucket\x7b" ++ body (key ++ [("le", bound)]) ++ "\x7d " ++ toString n.toNat
          ++ "\n"
      String.join (List.zipWith (fun bound n => bucket (toString bound) n) bounds h.buckets)
        ++ bucket "+Inf" h.count
        ++ name ++ "_sum\x7b" ++ body key ++ "\x7d " ++ toString h.sum.toNat ++ "\n"
        ++ name ++ "_count\x7b" ++ body key ++ "\x7d " ++ toString h.count.toNat ++ "\n")

end DeviceRpc.Metrics
