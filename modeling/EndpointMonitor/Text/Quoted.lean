import EndpointMonitor.Text.Shown

/-!
# Quoted texts

A quoted text is readable: what cannot be shown as it is stands as an escape, by a letter
or by its code point. A list of texts is written between brackets.
-/

namespace EndpointMonitor.Text

/-- The escape of a character by its code point. -/
def codePointEscape (c : Char) : List Char :=
  ['\\', 'u', '\x7b'] ++ Nat.toDigits 16 c.toNat ++ ['\x7d']

/-- A character inside quotes. -/
def quotedChar (c : Char) : List Char :=
  if c = '"' then ['\\', '"']
  else if c = '\\' then ['\\', '\\']
  else if c = '\n' then ['\\', 'n']
  else if c = '\r' then ['\\', 'r']
  else if c = '\t' then ['\\', 't']
  else if c.toNat = 0 then ['\\', '0']
  else if isShown c then [c]
  else codePointEscape c

/-- A text in quotes. -/
def quoted (s : String) : String :=
  String.ofList ('"' :: s.toList.flatMap quotedChar ++ ['"'])

/-- A list of texts in quotes. -/
def quotedList (xs : List String) : String :=
  "[" ++ ", ".intercalate (xs.map quoted) ++ "]"

end EndpointMonitor.Text
