/-!
# Texts of durations

A duration is written in the largest unit that leaves a whole part, with the digits of its
fraction that are needed.
-/

namespace EndpointMonitor.Text

/-- The three digits of a number below a thousand, without trailing zeros. -/
def fractionDigits (n : Nat) : List Char :=
  let ds := Nat.toDigits 10 n
  let padded := List.replicate (3 - ds.length) '0' ++ ds
  (padded.reverse.dropWhile (· == '0')).reverse

/-- The text of a duration in milliseconds. -/
def durationText (millis : UInt64) : String :=
  if millis = 0 then "0ns"
  else if millis < 1000 then toString millis ++ "ms"
  else
    let whole := toString (millis / 1000)
    match fractionDigits (millis % 1000).toNat with
    | [] => whole ++ "s"
    | ds => whole ++ "." ++ String.ofList ds ++ "s"

end EndpointMonitor.Text
