import EndpointMonitor.Character.Category

/-!
# Marks that belong to the character before them

A mark that extends the character before it is part of what a reader takes for one. A base is
a character that is shown and extends nothing.
-/

namespace EndpointMonitor.Character

/-- Characters that extend the one before them, though they are not marks without a width. -/
def otherGraphemeExtend : CodeSet :=
  .ofRuns [
    "9be 1 18 1 166 1 18 1 66 1 18 1 e8 1 1 1 4 2 1 2 9 2 67 1 18 1 77 1 f 1 935 1 1e 1 400 1 5 1",
    "1 1 5 2 65 1 47 2 418 1 1021 2 7923 1 6c 1 55dd 2 1220 1 74 1 108 1 e 1 9 1 60 1 9 1 2 1 1 3",
    "5 1 e0 1 c 1 f1 1 106 1 279 1 c 1 603 1 50ae 2 6173 2 6 6 c2ead 60"]

/-- The characters that extend the one before them. -/
def graphemeExtend : CodeSet :=
  (Category.ofCodes ["Me", "Mn"]).union otherGraphemeExtend

/-- The characters that are shown and do not extend the one before them. -/
def graphemeBase : CodeSet :=
  ((Category.ofCodes ["Cc", "Cf", "Cn", "Co", "Zl", "Zp"]).union graphemeExtend).compl

/-- The signs that join two consonants. -/
def graphemeLink : CodeSet :=
  .ofRuns [
    "94d 1 7f 1 7f 1 7f 1 7f 1 7f 1 7f 1 7f 1 6d 2 10 1 7c 1 6f 1 7f 1 c9 1 b4 2 6d9 2 1e 1 9d 1",
    "28d 1 e3 1 65 2 46 2 118b 1 7a86 1 25 1 97 1 8e 1 6c 1 135 1 f6 1 5e51 1 606 1 29 1 e 1 39 1",
    "79 2 8b 1 74 1 b4 1 62 1 80 3 71 1 7f 1 fc 1 7f 1 76 1 74 1 10d 1 103 2 a1 1 53 1 12 1 51 1",
    "1a5 1 104 2 51 1 1a9 2 41ec 1"]

/-- The signs that go with the digits after them. -/
def prependedConcatenationMark : CodeSet :=
  .ofRuns ["600 6 d7 1 31 1 180 2 50 1 107da 1 f 1"]

end EndpointMonitor.Character
