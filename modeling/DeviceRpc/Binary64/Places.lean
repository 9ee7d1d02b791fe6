import DeviceRpc.Binary64.Basic

/-!
# Numbers with three places

A reading is shown with three digits after the point, rounded from the exact
value with a half going to the even neighbour.
-/

namespace DeviceRpc.Binary64

/-- Digits padded with zeros on the left. -/
def padded (width n : Nat) : String :=
  let digits := toString n
  String.ofList (List.replicate (width - digits.length) '0') ++ digits

/-- The value with three places after the point. -/
def threePlaces (x : Binary64) : String :=
  if x.isNaN then "NaN"
  else
    let sign := if x.isNegative then "-" else ""
    if x.isInfinite then sign ++ "inf"
    else
      let thousandths := x.timesRounded 1000
      sign ++ toString (thousandths / 1000) ++ "." ++ padded 3 (thousandths % 1000)

end DeviceRpc.Binary64
