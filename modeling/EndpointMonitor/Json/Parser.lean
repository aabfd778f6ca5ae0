import EndpointMonitor.Character.CodeSet
import EndpointMonitor.Json.Basic
import EndpointMonitor.Number.Radix

/-!
# Reading JSON text

A document is one value with blanks around it. A number that fits the 64-bit ranges and has
neither a fraction nor an exponent is an integer. Every other number is a double: its leading
digits that fit a word, times or divided by one power of ten in double arithmetic.
-/

namespace EndpointMonitor.Json

/-- A blank between the tokens of a document. -/
def isSpace (c : Char) : Bool :=
  c == ' ' || c == '\n' || c == '\t' || c == '\r'

/-- The value of four hexadecimal digits. -/
def hex4? : List Char → Option (Nat × List Char)
  | a :: b :: c :: d :: rest => do
    let a ← Radix.hexDigit? a
    let b ← Radix.hexDigit? b
    let c ← Radix.hexDigit? c
    let d ← Radix.hexDigit? d
    return (((a * 16 + b) * 16 + c) * 16 + d, rest)
  | _ => none

/-- The character a `\u` escape stands for; the two halves of a pair come as two escapes. -/
def unicodeEscape? (cs : List Char) : Option (Char × List Char) := do
  let (high, rest) ← hex4? cs
  if 0xD800 ≤ high ∧ high < 0xDC00 then
    match rest with
    | '\\' :: 'u' :: more =>
      let (low, rest) ← hex4? more
      if 0xDC00 ≤ low ∧ low < 0xE000 then
        return (Char.ofNat (0x10000 + (high - 0xD800) * 0x400 + (low - 0xDC00)), rest)
      else none
    | _ => none
  else return (← charOf? high, rest)

/-- The text up to the closing quote. -/
def readString : Nat → List Char → List Char → Option (String × List Char)
  | 0, _, _ => none
  | _ + 1, _, [] => none
  | fuel + 1, acc, c :: rest =>
    if c = '"' then some (String.ofList acc.reverse, rest)
    else if c = '\\' then
      match rest with
      | '"' :: rest => readString fuel ('"' :: acc) rest
      | '\\' :: rest => readString fuel ('\\' :: acc) rest
      | '/' :: rest => readString fuel ('/' :: acc) rest
      | 'b' :: rest => readString fuel (Char.ofNat 8 :: acc) rest
      | 'f' :: rest => readString fuel (Char.ofNat 12 :: acc) rest
      | 'n' :: rest => readString fuel ('\n' :: acc) rest
      | 'r' :: rest => readString fuel ('\r' :: acc) rest
      | 't' :: rest => readString fuel ('\t' :: acc) rest
      | 'u' :: rest =>
        match unicodeEscape? rest with
        | some (c, rest) => readString fuel (c :: acc) rest
        | none => none
      | _ => none
    else if c.toNat < 32 then none
    else readString fuel (c :: acc) rest

/-- The largest prefix of the digits that fits a word, and the number of digits left out. -/
def leadingWord (digits : List Nat) (start : Nat) : Nat × Nat :=
  match digits with
  | [] => (start, 0)
  | d :: rest =>
    if start * 10 + d < 18446744073709551616 then leadingWord rest (start * 10 + d)
    else (start, digits.length)

/-- `significand * 10 ^ exponent` in double arithmetic, or `none` when it is too large. -/
def scaleByTen (significand : Nat) (exponent : Int) : Option Float :=
  let f := Float.ofNat significand
  let power (k : Nat) : Float := Float.ofScientific 1 false k
  if exponent ≥ 0 then
    if exponent ≤ 308 then
      let product := f * power exponent.toNat
      if product.isInf then none else some product
    else if significand = 0 then some f else none
  else
    let k := (-exponent).toNat
    let rec divide : Nat → Float → Nat → Float
      | 0, f, _ => f
      | fuel + 1, f, k =>
        if k ≤ 308 then f / power k
        else if f == 0.0 then f
        else divide fuel (f / power 308) (k - 308)
    some (divide 4 f k)

/-- The exponent part after its letter: the sign, then at least one digit. -/
def readExponent (cs : List Char) : Option (Int × List Char) :=
  let (negative, cs) := Radix.takeSign cs
  match Radix.takeDigits 10 cs with
  | ([], _) => none
  | (ds, rest) =>
    let n : Nat := ds.foldl (fun acc d => if acc < 1000000000000 then acc * 10 + d else acc) 0
    some (if negative then -(n : Int) else n, rest)

/-- A number that starts at the given text. -/
def readNumber (cs : List Char) : Option (JsonNumber × List Char) := do
  let (negative, cs) := match cs with
    | '-' :: rest => (true, rest)
    | rest => (false, rest)
  let (whole, rest) := Radix.takeDigits 10 cs
  guard (!whole.isEmpty && (whole.length = 1 || whole.head? != some 0))
  let (lead, dropped) := leadingWord whole 0
  let signed (x : Float) : JsonNumber := .float (if negative then -x else x)
  let (fraction, rest, hasPoint) ← match rest with
    | '.' :: more =>
      match Radix.takeDigits 10 more with
      | ([], _) => none
      | (ds, rest) => some (ds, rest, true)
    | rest => some ([], rest, false)
  let (significand, exponent) : Nat × Int :=
    if dropped > 0 then
      let (s, left) := leadingWord fraction lead
      (s, (dropped : Int) - (fraction.length - left : Nat))
    else
      let (s, left) := leadingWord fraction lead
      (s, -(fraction.length - left : Nat))
  match rest with
  | e :: more =>
    if e = 'e' ∨ e = 'E' then do
      let (written, rest) ← readExponent more
      let x ← scaleByTen significand (exponent + written)
      return (signed x, rest)
    else finish negative hasPoint dropped lead significand exponent signed rest
  | [] => finish negative hasPoint dropped lead significand exponent signed rest
where
  /-- Decide the kind of a number without an exponent. -/
  finish (negative hasPoint : Bool) (dropped lead significand : Nat) (exponent : Int)
      (signed : Float → JsonNumber) (rest : List Char) : Option (JsonNumber × List Char) :=
    if hasPoint || dropped > 0 then do
      let x ← scaleByTen significand exponent
      return (signed x, rest)
    else if !negative then some (.int lead, rest)
    else if lead = 0 ∨ 9223372036854775808 < lead then some (signed (Float.ofNat lead), rest)
    else some (.int (-lead), rest)

/-- Drop the blanks at the front. -/
def skipSpace (cs : List Char) : List Char :=
  cs.dropWhile isSpace

mutual

/-- One value at the front of a text. -/
def readValue : Nat → List Char → Option (Json × List Char)
  | 0, _ => none
  | fuel + 1, cs =>
    match skipSpace cs with
    | 'n' :: 'u' :: 'l' :: 'l' :: rest => some (.null, rest)
    | 't' :: 'r' :: 'u' :: 'e' :: rest => some (.bool true, rest)
    | 'f' :: 'a' :: 'l' :: 's' :: 'e' :: rest => some (.bool false, rest)
    | '"' :: rest => (readString (rest.length + 1) [] rest).map fun (s, rest) => (.str s, rest)
    | '[' :: rest =>
      match skipSpace rest with
      | ']' :: rest => some (.arr [], rest)
      | rest => (readItems fuel rest).map fun (items, rest) => (.arr items, rest)
    | '\x7b' :: rest =>
      match skipSpace rest with
      | '\x7d' :: rest => some (.obj [], rest)
      | rest => (readFields fuel rest).map fun (fields, rest) => (mkObj fields, rest)
    | rest => (readNumber rest).map fun (n, rest) => (.num n, rest)

/-- Values separated by commas, up to the closing bracket. -/
def readItems : Nat → List Char → Option (List Json × List Char)
  | 0, _ => none
  | fuel + 1, cs => do
    let (item, rest) ← readValue fuel cs
    match skipSpace rest with
    | ']' :: rest => return ([item], rest)
    | ',' :: rest =>
      let (items, rest) ← readItems fuel rest
      return (item :: items, rest)
    | _ => none

/-- Fields separated by commas, up to the closing brace. -/
def readFields : Nat → List Char → Option (List (String × Json) × List Char)
  | 0, _ => none
  | fuel + 1, cs => do
    match skipSpace cs with
    | '"' :: rest =>
      let (key, rest) ← readString (rest.length + 1) [] rest
      match skipSpace rest with
      | ':' :: rest =>
        let (value, rest) ← readValue fuel rest
        match skipSpace rest with
        | '\x7d' :: rest => return ([(key, value)], rest)
        | ',' :: rest =>
          let (fields, rest) ← readFields fuel rest
          return ((key, value) :: fields, rest)
        | _ => none
      | _ => none
    | _ => none

end

/-- Read a whole document. -/
def parse? (text : String) : Option Json :=
  let cs := text.toList
  match readValue (cs.length + 1) cs with
  | some (value, rest) => if (skipSpace rest).isEmpty then some value else none
  | none => none

end EndpointMonitor.Json
