import EndpointMonitor.Character.Case

/-!
# Letters and signs of writing

Letters in the wide sense: the alphabetic characters, the characters of words, the characters for
words or for parts of them, and the signs that change or lengthen a letter.
-/

namespace EndpointMonitor.Character

/-- Alphabetic characters that are neither letters nor numbers written with letters. -/
def otherAlphabetic : CodeSet :=
  .ofRuns [
    "345 1 1d d 240 e 1 1 1 2 1 2 1 1 48 b 30 d 1 7 10 1 65 7 4 4 2 2 4 1 23 1 1e 10 66 b 65 2 3 9",
    "1 3 1 4 6a 1 3c c 3 7 6 14 36 2 2 f 1 2 5 3 a 2 1d 3 3a 7 2 2 2 2 a 1 a 2 1d 3 3a 5 4 2 2 2 4",
    "1 1e 2 3 1 b 3 3a 8 1 3 1 2 15 2 16 3 4 3 3a 7 2 2 2 2 9 2 a 2 1e 1 3b 5 3 3 1 3 a 1 28 5 39",
    "7 1 3 1 3 8 2 b 2 1d 3 3a 7 1 3 1 3 8 2 b 2 f 1 c 4 3a 7 1 3 1 3 a 1 a 2 1d 3 4b 6 1 1 1 8 12",
    "2 3d 1 2 7 12 1 63 1 2 6 1 2 10 1 a3 13 9 b 1 24 6e c 1 1 2 4 17 4 4 3 1 3 2 7 3 4 d c 1 1 a",
    "4 674 2 1e 2 1e 2 1e 2 42 13 bc 2 22 1 76 c 4 9 de 5 39 a 2 14 4a 2 b 3 31 5 30 f 3c 3 1e 9 2",
    "2 39 b 32 13 19c 22 6c1 34 8f6 20 7874 8 22 2 162 1 8 1 17 5 58 2 32 10 1 1 39 1 26 5 1c c 2d",
    "4 30 c 25 1 43 e c 1 8 2 2d 3 32 1 1 3 2 2 5 1 2c 5 5 1 ed 8 4f33 1 857 5 686 3 1 2 5 4 314 4",
    "41 1 141 2 4f 1 103 3 35 e 2d 2 b 3 2d 9 9 1 3d 3 24 c 12 2 39 3 30 d e 2 5c 9 2 1 6 1 2 1 9d",
    "a 17 4 3a 7 2 2 2 2 a 1 a 2 54 9 1 1 2 1 1 4 1 2 67 d 1 3 6a 12 ed 7 2 7 1d 2 52 f 1 1 6a b",
    "67 e 101 d f7 6 1 2 2 2 3 1 1 1 8e 7 2 6 4 1 1c a 2a 5 1 4 12 b 2e e 197 8 1 7 53 16 1 e 7a 6",
    "3 1 1 2 1 3 1 1 3 1 42 5 1 2 1 4 15c 4 9 2 1 1 30 7 3 3 41dd 11 e20 1 1 37 7 4 5d 2 4cac 1",
    "2361 7 1 11 2 7 1 2 1 5 64 1 8b7 1 7e8 1a 6 1a 6 1a"]

/-- The alphabetic characters. -/
def alphabetic : CodeSet :=
  .unions [lowercase, uppercase, Category.ofCodes ["Lt", "Lm", "Lo", "Nl"], otherAlphabetic]

/-- The decimal digits of all scripts. -/
def digit : CodeSet :=
  Category.ofCodes ["Nd"]

/-- The characters that say whether their neighbours are joined. -/
def joinControl : CodeSet :=
  .ofRuns ["200c 2"]

/-- The characters of words. -/
def word : CodeSet :=
  .unions [alphabetic, Category.ofGroup 'M', digit, Category.ofCodes ["Pc"], joinControl]

/-- The signs that change the sound of a letter. -/
def diacritic : CodeSet :=
  .ofRuns [
    "5e 1 1 1 47 1 6 1 4 1 2 2 1f7 9f 1 8 5 6 11 2 4 1 9 2 fd 5 d1 1 37 11 1 1b 1 1 1 2 1 1 86 8 4",
    "2 86 2 4 2 3 3 43 1b 5b b 3a b 22 2 7e 8 29 a 10 1c 3d 1 10 1 3 4 1c 1 4a 1 10 1 6e 1 10 1 6e",
    "1 10 1 2f 3 3c 1 10 1 7 1 77 1 6e 1 10 1 6e 1 10 1 6d 2 10 1 7c 1 6f 1 c 6 1 1 6b 1 d 5 4b 2",
    "1b 1 1 1 1 1 4 2 42 3 1 2 3e 1 70 1 1 2 28 2 4 5 19 7 1 1 a 2 2c1 3 3b4 2 1e 1 94 b 9 1 15b 3",
    "124 1 14 8 2 1 30 f 2 b 68 1 f 1 26 9 36 2 3a 1 b 2 42 2 40 6 52 19 4 1 6 1 2 3 32 3f 59 c 25",
    "b 1bd 1 1 3 b 3 d 3 d 3 d 2 cf0 3 13d 1 1fa 6 69 4 5f 1 7572 1 c 2 1 1 1c 2 52 2 e 22 66 3 6d",
    "2 c 1 25 1 97 1 1b 12 39 4 24 1 5f 1 c 1 24 1 95 3 41 4 33 1 64 5 9 3 80 2 4f30 1 301 10 10e",
    "1 1 1 2f 1 2d 2 43 1 2fc 1 49f 6 1 2a 1 9 27d 3 4 1 a5 2 23b 6 26 1 1a 5 18f 3 46 b 31 4 c0 1",
    "29 1 48 2 78 2 3e 1 4c 1 9 3 68 2 b2 2 50 2 10 1 18 7 3 5 59 3 1 2 d 2 5f 1 3 1 7b 2 fb 2 7e",
    "1 76 2 73 1 10d 2 102 2 4 1 9c 1 53 1 12 1 51 1 1a5 1 102 1 1 2 51 1 1a9 2 17 1 14ec f 2cd9 1",
    "9c0 5 3b 7 234 2 222 11 50 2 3ffe 4 1 7 1 2 1f01 2e 2 17 220 3 3 6 8 8 2 7 1e 4 e82 3e c2 7",
    "177 1 3d 4 2fe 2 2e0 7 6d 3 1 3"]

/-- The signs that lengthen a letter or repeat it. -/
def extender : CodeSet :=
  .ofRuns [
    "b7 1 218 2 36e 1 1b9 1 276 1 89 1 59 1 2f0 1 7f 1 943 1 38 1 263 1 18e 1 44 1 1389 1 2b 5 67",
    "2 5d 3 6f16 1 5f6 1 3c2 1 16 1 89 1 6c 1 15 2 547b 1 810 2 5cb 1 1b 1 4 1 4c7 1 125 1 74 2",
    "1f2 3 4cf 1 50a9 2 49c 2 1 1 7158 2 4b1 1 354 3"]

/-- The marks that belong to a letter closer than the marks before them. -/
def modifierCombiningMark : CodeSet :=
  .ofRuns ["654 2 2 1 83 1 6 1 3 2 1e1 2 1 3 3 1 1f 1"]

/-- The vowels that are written before the letter that they follow in speech. -/
def logicalOrderException : CodeSet :=
  .ofRuns ["e40 5 7b 5 af0 3 2 1 90fa 2 2 1 1 2"]

/-- The characters for words or for parts of them. -/
def ideographic : CodeSet :=
  .ofRuns [
    "3006 2 19 9 e 3 3c5 19c0 40 5200 5900 16e 2 6a 750a 1 1b 17f8 8 4d6 29 a 2467 18c 4d04 a6e0",
    "20 103a 6 de 2 1682 e 1d31 f 26e 9a2 21e 5e2 134b 5 1060"]

/-- The Han characters that are shared by several languages. -/
def unifiedIdeograph : CodeSet :=
  .ofRuns [
    "3400 19c0 40 5200 5a0e 2 1 1 1 2 a 1 1 1 1 2 2 3 105d6 a6e0 20 103a 6 de 2 1682 e 1d31 f 26e",
    "11a2 134b 5 1060"]

/-- The parts under which Han characters are listed. -/
def radical : CodeSet :=
  .ofRuns ["2e80 1a 1 59 c d6"]

/-- The signs that describe a Han character by one part. -/
def idsUnaryOperator : CodeSet :=
  .ofRuns ["2ffe 2"]

/-- The signs that describe a Han character by two parts. -/
def idsBinaryOperator : CodeSet :=
  .ofRuns ["2ff0 2 2 a 1f1 1"]

/-- The signs that describe a Han character by three parts. -/
def idsTrinaryOperator : CodeSet :=
  .ofRuns ["2ff2 2"]

end EndpointMonitor.Character
