import EndpointMonitor.Character.Category
import EndpointMonitor.Character.Grapheme

/-!
# Characters that are not shown

Blanks, controls of direction and of variants, and code points that never stand for a character.
-/

namespace EndpointMonitor.Character

/-- The blanks. -/
def whiteSpace : CodeSet :=
  .ofRuns ["9 5 12 1 64 1 1a 1 15df 1 97f b 1d 2 5 1 2f 1 fa0 1"]

/-- The controls of the direction of a text. -/
def bidiControl : CodeSet :=
  .ofRuns ["61c 1 19f1 2 1a 5 37 4"]

/-- The controls that choose a variant of the character before them. -/
def variationSelector : CodeSet :=
  .ofRuns ["180b 3 1 1 e5f0 10 d02f0 f0"]

/-- Characters that are not shown where they are not known, though they are no controls. -/
def otherDefaultIgnorable : CodeSet :=
  .ofRuns ["34f 1 e0f 2 653 2 8af 1 10fe 1 ce3b 1 4f 9 d0007 1 1 1e 60 80 f0 e10"]

/-- The characters that are not shown where they are not known. Controls that hold a note, or that
arrange other characters, are not among them. -/
def defaultIgnorable : CodeSet :=
  let hidden := CodeSet.unions
    [otherDefaultIgnorable, Category.ofCodes ["Cf"], variationSelector]
  let shown := CodeSet.unions
    [whiteSpace, .range 0xFFF9 0xFFFB, .range 0x13430 0x1343F, prependedConcatenationMark]
  hidden.diff shown

/-- The code points that never stand for a character. -/
def noncharacter : CodeSet :=
  .ofRuns [
    "fdd0 20 20e 2 fffe 2 fffe 2 fffe 2 fffe 2 fffe 2 fffe 2 fffe 2 fffe 2 fffe 2 fffe 2 fffe 2",
    "fffe 2 fffe 2 fffe 2 fffe 2 fffe 2"]

/-- The characters that should not be used any more. -/
def deprecated : CodeSet :=
  .ofRuns ["149 1 529 1 903 1 1 1 829 2 8c5 6 2b9 2 ddcd6 1"]

end EndpointMonitor.Character
