import EndpointMonitor.Character.Category

/-!
# Punctuation, digits and mathematics

Signs between words and sentences, signs that are mirrored, the digits of base sixteen, and the
characters of formulas.
-/

namespace EndpointMonitor.Character

/-- The dashes. -/
def dash : CodeSet :=
  .ofRuns [
    "2d 1 55c 1 33 1 e41 1 405 1 809 6 3d 1 27 1 f 1 186 1 c04 1 2 1 1f 2 4 1 1c 1 1be 1 13 1 6f 1",
    "cd90 2 25 1 a 1 a9 1 e60 1 13e 1"]

/-- The dashes that join parts of a word. -/
def hyphen : CodeSet :=
  .ofRuns ["2d 1 7f 1 4dc 1 127b 1 809 2 e05 1 2e3 1 cd67 1 a9 1 57 1"]

/-- The quotation marks. -/
def quotationMark : CodeSet :=
  .ofRuns ["22 1 4 1 83 1 f 1 1f5c 8 19 2 e07 1 1c9 4 d 3 ce21 4 bd 1 4 1 5a 2"]

/-- The signs that end a part of a text. -/
def terminalPunctuation : CodeSet :=
  .ofRuns [
    "21 1 a 1 1 1 b 2 3 1 33e 1 8 1 201 1 39 1 48 1 e 1 1 3 b4 1 2b b 1 1 eb 2 36 6 1 8 1f 1 105 2",
    "4f4 2 ac 1 4 6 137 2 315 8 305 1 7c 3 47 2 9d 3 3 1 27 4 2 2 13a 2 162 4 a2 2 a 2 1 3 1d 3 bb",
    "5 3e 2 3a4 1 17 2 9 3 caf 3 132 1 d 1 4 1 a 1 1 2 3 2 1ac 2 74fb 2 10d 3 e3 5 17e 2 56 2 5f 1",
    "97 3 93 3 7f 1 10 2 f9 1 5226 1 2 2 39 3 1 4 a9 1 a 1 1 1 b 2 3 1 41 1 2 1 43a 1 30 1 486 1",
    "c7 1 136 2 98 6 44 6 59 4 3b8 5 2c 4 bd 7 70 4 7f 3 81 2 6 1 10 2 58 5 6c 1 12a 2 75 3 c 2",
    "166 4 3 f 69 2 f9 3 205 1 1 1 fb 2 57 2 4 2 19e 3 2d 1 285 2 4a 2 52b 5 45f9 2 85 1 41 3 a 1",
    "229 2 127 2 4e06 1 1de7 4"]

/-- The signs that end a sentence. -/
def sentenceTerminal : CodeSet :=
  .ofRuns [
    "21 1 c 1 10 1 549 1 93 3 b4 1 2b 3 f6 1 3d 1 1 1 3 2 125 2 6e4 2 316 1 4 2 305 1 c6 2 9d 2 2d",
    "1 5 1 13a 2 162 4 a2 2 a 2 2 2 1d 3 bb 2 41 2 3a4 1 17 2 9 3 caf 3 132 1 d 1 16 2 1ad 1 74fc",
    "1 10e 2 e3 1 3 1 17e 2 56 2 5f 1 98 2 93 3 90 2 f9 1 5226 1 2 2 3b 1 3 2 a9 1 c 1 10 1 41 1",
    "af4 2 4fd 5 2c 4 bd 2 75 4 7f 3 81 2 6 1 10 2 58 2 1 2 6c 1 12a 2 75 2 175 2 5 f 69 2 f9 3",
    "205 1 1 1 fb 2 57 2 1a4 2 2b4 2 4a 2 4b29 2 85 1 41 2 b 1 229 2 128 1 4e06 1 1de8 1"]

/-- The signs that are mirrored where the text runs from right to left. -/
def bidiMirrored : CodeSet :=
  .ofRuns [
    "28 2 12 1 1 1 1c 1 1 1 1d 1 1 1 2d 1 f 1 e7e 4 75d 2 99c 2 a 2 36 2 e 2 b1 1 c0 4 3 6 3 1 3 2",
    "3 4 1 4 1 1 1 1 4 9 5 1 1 12 5 4 9 2 1 1 1 8 1 20 2 4 5 1 9 2 2 13 5 2 9 5 2 2 4 18 2 10 8 4",
    "14 2 7 2 43d e 4a 1 2 4 1 2 1 3 5 4 5 3 3 e 193 16 2 6 1 e 8 1 7 6 3 1 4 5 1 2 2 5 4 1 1 3 2",
    "2 a 6 2 2 c 13 1 4 2 1 1 1 2 1 1 4 5 2 6 3 18 2 b 2 4 4 1 2 2 2 4 2b 2 8 1 28 5 1 1 1 3 5 5 3",
    "4 1 3 5 1 1 100 1 203 4 3 2 1 2 e 2 2 a 2b 8 1ab a 2 8 ce3d 6 5 2 a2 2 12 1 1 1 1c 1 1 1 1d 1",
    "1 1 1 2 1 2 d777 1 39 1 39 1 39 1 39 1"]

/-- The digits of base sixteen in ASCII. -/
def asciiHexDigit : CodeSet :=
  .ofRuns ["30 a 7 6 1a 6"]

/-- The digits of base sixteen, of any width. -/
def hexDigit : CodeSet :=
  .ofRuns ["30 a 7 6 1a 6 fea9 a 7 6 1a 6"]

/-- Characters of formulas that are not in the category of mathematical signs. -/
def otherMath : CodeSet :=
  .ofRuns [
    "5e 1 371 3 2 1 1a 2 2 2 1c20 1 1b 3 b 1 20 4 18 2 e 2 41 d 4 1 3 2 4 5 12 1 4 1 2 a 1 1 3 5 6",
    "1 3 2 2 2 1 3 1 6 3 4 5 5 4b 5 2 4 1 2 1 2 1 1 1 5 2 2 4 2 4 12 2 2 1 1 1 7 1 1 6 2 122 4 a8",
    "2 1 1 18 1 11 1 1bd 2 c 9 5 5 5 2 2 2 3 5 e 1 1 1 2 6 18 2 39 1 1 1 1d 4 9 2 156 2 1f a 193",
    "16 3f 4 20 2 d463 1 1 1 4 1 d3 1 1 1 d4c1 55 1 47 1 2 2 1 2 2 2 4 1 c 1 1 1 7 1 41 1 4 2 8 1",
    "7 1 1c 1 4 1 5 1 1 3 7 1 154 2 19 1 19 1 1f 1 19 1 1f 1 19 1 1f 1 19 1 1f 1 19 1 8 2 32 1600",
    "4 1 1b 1 2 1 1 2 1 1 a 1 4 1 1 1 1 6 1 4 1 1 1 1 1 1 3 1 2 1 1 2 1 1 1 1 1 1 1 1 1 1 2 1 1 2",
    "4 1 7 1 4 1 4 1 1 1 a 1 11 5 3 1 5 1 11"]

/-- The characters of formulas. -/
def math : CodeSet :=
  (Category.ofCodes ["Sm"]).union otherMath

end EndpointMonitor.Character
