import EndpointMonitor.Number.Radix
import EndpointMonitor.Text.Blank

/-!
# Numbers in texts

A text stands for a double if it is a decimal number, with or without a fraction and an
exponent, or a name of an infinity or of not-a-number. The result is the double nearest to
the number that is written.
-/

namespace EndpointMonitor

namespace Decimal

/-- An exponent that is the whole text; nothing at all is the exponent zero. -/
def exponent? : List Char → Option Int
  | [] => some 0
  | c :: rest =>
    if c = 'e' ∨ c = 'E' then
      let (negative, rest) := Radix.takeSign rest
      match Radix.takeDigits 10 rest with
      | ([], _) => none
      | (ds, []) => some (if negative then -(Radix.ofDigits 10 ds : Int) else Radix.ofDigits 10 ds)
      | _ => none
    else none

/-- The double nearest to `significand * 10 ^ exponent`. An exponent beyond every double,
whatever the number of digits, is as good as infinitely far. -/
def nearest (significand : Nat) (digits : Nat) (exponent : Int) : Float :=
  if significand = 0 then 0.0
  else if 400 < exponent then 1.0 / 0.0
  else if exponent + digits < -400 then 0.0
  else if 0 ≤ exponent then Float.ofScientific significand false exponent.toNat
  else Float.ofScientific significand true (-exponent).toNat

/-- The number without a sign that is the whole text. -/
def unsigned? (cs : List Char) : Option Float :=
  let (whole, rest) := Radix.takeDigits 10 cs
  let (fraction, rest) := match rest with
    | '.' :: rest => Radix.takeDigits 10 rest
    | rest => ([], rest)
  if whole.isEmpty && fraction.isEmpty then none
  else
    (exponent? rest).map fun e =>
      nearest (Radix.ofDigits 10 (whole ++ fraction)) (whole ++ fraction).length
        (e - fraction.length)

/-- The double that a name stands for. -/
def named? (cs : List Char) : Option Float :=
  match String.ofList (cs.map Char.toLower) with
  | "inf" => some (1.0 / 0.0)
  | "infinity" => some (1.0 / 0.0)
  | "nan" => some (0.0 / 0.0)
  | _ => none

/-- The double that a text stands for. -/
def float? (text : String) : Option Float :=
  let (negative, rest) := Radix.takeSign text.toList
  (unsigned? rest <|> named? rest).map fun x => if negative then -x else x

end Decimal

end EndpointMonitor
