import EndpointMonitor.Json.Basic
import EndpointMonitor.Number.Radix

/-!
# Numbers and dates of a TOML document

An integer has 64 bits and a sign; it may be written in four bases, with single underscores
between its digits. A date or a time is only checked, because no setting holds one: it becomes
an object with one field.
-/

namespace EndpointMonitor.Toml

/-- Digits with single underscores between them: their values, and the rest. -/
def readDigits (base : Nat) : Nat → List Char → Option (List Nat × List Char)
  | 0, _ => none
  | fuel + 1, cs =>
    match cs with
    | [] => none
    | c :: rest =>
      match Radix.digit? base c with
      | none => none
      | some d =>
        match rest with
        | '_' :: more => (readDigits base fuel more).map fun (ds, rest) => (d :: ds, rest)
        | next :: _ =>
          if (Radix.digit? base next).isSome then
            (readDigits base fuel rest).map fun (ds, rest) => (d :: ds, rest)
          else some ([d], rest)
        | [] => some ([d], [])

/-- An integer in one of the bases with a letter. -/
def readBased (base : Nat) (cs : List Char) : Option (Json × List Char) := do
  let (ds, rest) ← readDigits base (cs.length + 1) cs
  let n := Radix.ofDigits base ds
  if n < 9223372036854775808 then return (.int n, rest) else none

/-- A fraction after its point. -/
def readFraction (cs : List Char) : Option (List Nat × List Char) :=
  readDigits 10 (cs.length + 1) cs

/-- An exponent after its letter. -/
def readPower (cs : List Char) : Option (Int × List Char) := do
  let (negative, cs) := Radix.takeSign cs
  let (ds, rest) ← readDigits 10 (cs.length + 1) cs
  let n : Nat := ds.foldl (fun acc d => if acc < 1000000000 then acc * 10 + d else acc) 0
  return (if negative then -(n : Int) else n, rest)

/-- The double of the digits times a power of ten. Only below zero it may be infinite. -/
def floatOf (negative : Bool) (ds : List Nat) (power : Int) : Option Json :=
  let m := Radix.ofDigits 10 ds
  let bounded : Int := max (-100000) (min power 100000)
  let x := if m = 0 then 0.0
    else if 0 ≤ bounded then
      if bounded > 400 then 1.0 / 0.0 else Float.ofScientific (m * Nat.pow 10 bounded.toNat) false 0
    else Float.ofScientific m true (-bounded).toNat
  if x.isInf && !negative then none else some (.num (.float (if negative then -x else x)))

/-- A decimal integer or a float. -/
def readDecimal (cs : List Char) : Option (Json × List Char) := do
  let (negative, cs) := Radix.takeSign cs
  match cs with
  | 'i' :: 'n' :: 'f' :: rest =>
    return (.num (.float (if negative then -(1.0 / 0.0) else 1.0 / 0.0)), rest)
  | 'n' :: 'a' :: 'n' :: rest => return (.num (.float (0.0 / 0.0)), rest)
  | _ =>
    let (whole, rest) ← readDigits 10 (cs.length + 1) cs
    guard (whole.length = 1 || whole.head? != some 0)
    let (fraction, rest, hasPoint) ← match rest with
      | '.' :: more => (readFraction more).map fun (ds, rest) => (ds, rest, true)
      | rest => some ([], rest, false)
    let (power, rest, hasPower) ← match rest with
      | 'e' :: more => (readPower more).map fun (p, rest) => (p, rest, true)
      | 'E' :: more => (readPower more).map fun (p, rest) => (p, rest, true)
      | rest => some ((0 : Int), rest, false)
    if hasPoint || hasPower then
      let x ← floatOf negative (whole ++ fraction) (power - fraction.length)
      return (x, rest)
    else
      let n : Int := Radix.ofDigits 10 whole
      let n := if negative then -n else n
      if -9223372036854775808 ≤ n ∧ n < 9223372036854775808 then return (.int n, rest) else none

/-- A number. -/
def readNumber (cs : List Char) : Option (Json × List Char) :=
  match cs with
  | '0' :: 'x' :: rest => readBased 16 rest
  | '0' :: 'o' :: rest => readBased 8 rest
  | '0' :: 'b' :: rest => readBased 2 rest
  | _ => readDecimal cs

/-- The number of a fixed number of digits. -/
def readFixed (base : Nat) : Nat → Nat → List Char → Option (Nat × List Char)
  | 0, acc, cs => some (acc, cs)
  | n + 1, acc, cs =>
    match cs with
    | c :: rest => do
      let d ← Radix.digit? base c
      readFixed base n (acc * base + d) rest
    | [] => none

/-- The number of days of a month. -/
def daysOfMonth (year month : Nat) : Nat :=
  if month = 2 then
    if year % 4 = 0 && (year % 100 != 0 || year % 400 = 0) then 29 else 28
  else if [4, 6, 9, 11].contains month then 30
  else 31

/-- A date: the text after it, if the date exists. -/
def readDate (cs : List Char) : Option (List Char) := do
  let (year, rest) ← readFixed 10 4 0 cs
  match rest with
  | '-' :: rest =>
    let (month, rest) ← readFixed 10 2 0 rest
    guard (1 ≤ month ∧ month ≤ 12)
    match rest with
    | '-' :: rest =>
      let (day, rest) ← readFixed 10 2 0 rest
      guard (1 ≤ day ∧ day ≤ daysOfMonth year month)
      return rest
    | _ => none
  | _ => none

/-- A time of day: the text after it. -/
def readTime (cs : List Char) : Option (List Char) := do
  let (hour, rest) ← readFixed 10 2 0 cs
  guard (hour ≤ 23)
  match rest with
  | ':' :: rest =>
    let (minute, rest) ← readFixed 10 2 0 rest
    guard (minute ≤ 59)
    match rest with
    | ':' :: rest =>
      let (second, rest) ← readFixed 10 2 0 rest
      guard (second ≤ 60)
      match rest with
      | '.' :: more =>
        let digits := more.takeWhile Char.isDigit
        guard (!digits.isEmpty)
        return more.drop digits.length
      | rest => return rest
    | _ => none
  | _ => none

/-- The offset from universal time: the text after it. A text that does not start like an offset
has none. -/
def readOffset (cs : List Char) : Option (List Char) :=
  let signed (rest : List Char) : Option (List Char) := do
    let (hour, rest) ← readFixed 10 2 0 rest
    guard (hour ≤ 23)
    match rest with
    | ':' :: rest =>
      let (minute, rest) ← readFixed 10 2 0 rest
      guard (minute ≤ 59)
      return rest
    | _ => none
  match cs with
  | 'Z' :: rest | 'z' :: rest => some rest
  | '+' :: rest | '-' :: rest => signed rest
  | rest => some rest

/-- The value that stands for a date or a time. -/
def dateValue (cs rest : List Char) : Json :=
  .obj [("moment", .str (String.ofList (cs.take (cs.length - rest.length))))]

/-- Whether a text starts like a date: four digits and a dash. -/
def startsLikeDate (cs : List Char) : Bool :=
  match readFixed 10 4 0 cs with
  | some (_, '-' :: _) => true
  | _ => false

/-- Whether a text starts like a time of day: two digits and a colon. -/
def startsLikeTime (cs : List Char) : Bool :=
  match readFixed 10 2 0 cs with
  | some (_, ':' :: _) => true
  | _ => false

/-- A date, a time of day, or both. -/
def readMoment (cs : List Char) : Option (Json × List Char) := do
  if startsLikeDate cs then
    let rest ← readDate cs
    match rest with
    | c :: more =>
      if (c = 'T' ∨ c = 't' ∨ c = ' ') ∧ startsLikeTime more then
        let rest ← readTime more
        let rest ← readOffset rest
        return (dateValue cs rest, rest)
      else return (dateValue cs rest, rest)
    | [] => return (dateValue cs [], [])
  else
    let rest ← readTime cs
    return (dateValue cs rest, rest)

end EndpointMonitor.Toml
