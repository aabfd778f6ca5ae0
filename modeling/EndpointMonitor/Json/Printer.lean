import EndpointMonitor.Json.Basic
import EndpointMonitor.Number.Shortest

/-!
# Compact JSON text

The text has no blanks. Only quotes, backslashes and control characters are escaped, and a
double is written in its shortest form; a double that is not finite becomes `null`.
-/

namespace EndpointMonitor.Json

/-- The lower-case hexadecimal digit of a number below sixteen. -/
def hexDigit (n : Nat) : Char :=
  if n < 10 then Char.ofNat (48 + n) else Char.ofNat (87 + n)

/-- A character as it stands inside a quoted text. -/
def escapeChar (c : Char) : List Char :=
  if c = '"' then ['\\', '"']
  else if c = '\\' then ['\\', '\\']
  else if c = '\n' then ['\\', 'n']
  else if c = '\r' then ['\\', 'r']
  else if c = '\t' then ['\\', 't']
  else if c.toNat = 8 then ['\\', 'b']
  else if c.toNat = 12 then ['\\', 'f']
  else if c.toNat < 32 then ['\\', 'u', '0', '0', hexDigit (c.toNat / 16), hexDigit (c.toNat % 16)]
  else [c]

/-- A text in quotes. -/
def quote (s : String) : String :=
  "\"" ++ String.ofList (s.toList.flatMap escapeChar) ++ "\""

/-- The text of a number. -/
def numberText : JsonNumber → String
  | .int i => toString i
  | .float x => if x.isFinite then Decimal.shortestText x else "null"

mutual

/-- The compact text of a value. -/
def render : Json → String
  | .null => "null"
  | .bool true => "true"
  | .bool false => "false"
  | .num n => numberText n
  | .str s => quote s
  | .arr items => "[" ++ renderItems items ++ "]"
  | .obj fields => "\x7b" ++ renderFields fields ++ "\x7d"

/-- The texts of the items, with commas between them. -/
def renderItems : List Json → String
  | [] => ""
  | [item] => render item
  | item :: rest => render item ++ "," ++ renderItems rest

/-- The texts of the fields, with commas between them. -/
def renderFields : List (String × Json) → String
  | [] => ""
  | [(key, value)] => quote key ++ ":" ++ render value
  | (key, value) :: rest => quote key ++ ":" ++ render value ++ "," ++ renderFields rest

end

end EndpointMonitor.Json
