/-!
# White space at the ends of a text

A blank is a character with the Unicode property `White_Space`. Trimming drops the blanks
at both ends and keeps every character between them.
-/

namespace EndpointMonitor.Text

/-- The characters with the Unicode property `White_Space`. -/
def isBlank (c : Char) : Bool :=
  (0x9 ≤ c.val && c.val ≤ 0xD) || c.val == 0x20 || c.val == 0x85 || c.val == 0xA0 ||
  c.val == 0x1680 || (0x2000 ≤ c.val && c.val ≤ 0x200A) || c.val == 0x2028 ||
  c.val == 0x2029 || c.val == 0x202F || c.val == 0x205F || c.val == 0x3000

/-- The text without its leading blanks. -/
def trimLeft (cs : List Char) : List Char :=
  cs.dropWhile isBlank

/-- The text without its trailing blanks. -/
def trimRight (cs : List Char) : List Char :=
  (cs.reverse.dropWhile isBlank).reverse

/-- The text without the blanks at its two ends. -/
def trim (cs : List Char) : List Char :=
  trimRight (trimLeft cs)

/-- `trim` on strings. -/
def trimmed (s : String) : String :=
  String.ofList (trim s.toList)

/-- Whether a text consists of blanks only. -/
def isBlankText (s : String) : Bool :=
  s.toList.all isBlank

@[simp] theorem trim_nil : trim [] = [] := rfl

/-- What does not begin with a blank loses nothing at its start. -/
theorem trimLeft_cons {c : Char} {cs : List Char} (h : isBlank c = false) :
    trimLeft (c :: cs) = c :: cs := by
  simp [trimLeft, h]

/-- What does not end with a blank loses nothing at its end. -/
theorem trimRight_concat {c : Char} {cs : List Char} (h : isBlank c = false) :
    trimRight (cs ++ [c]) = cs ++ [c] := by
  simp [trimRight, h]

end EndpointMonitor.Text
