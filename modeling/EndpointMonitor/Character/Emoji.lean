import EndpointMonitor.Character.Runs

/-!
# Emoji

Small pictures, and the characters that they are made up of.
-/

namespace EndpointMonitor.Character

/-- The characters that can be shown as pictures. -/
def emoji : CodeSet :=
  .ofRuns [
    "23 1 6 1 5 a 6f 1 4 1 1f8d 1 c 1 d8 1 16 1 5a 6 f 2 16f 2 c 1 a6 1 19 b 4 3 c7 1 e7 2 a 1 9 1",
    "3a 4 1 5 9 1 2 1 2 2 2 1 4 1 2 1 1 2 2 1 3 1 3 2 8 3 5 1 1 1 5 c b 2 2 1 1 2 1 1 12 1 2 2 12",
    "6 1 1 1 2 3 2 5 1 2 2 4 2 b 2 5 2 2 1 5 2 1 1 1 2 14 2 5 6 1 4 2 1 4 1 2 1 2 6 1 1 2 1 1 1 1",
    "1 6 1 3 1 6 1 a 2 f 1 2 1 4 1 1 1 4 3 1 1 b 2 30 3 9 1 e 1 e 1 174 2 1cf 3 13 2 33 1 4 1 4da",
    "1 c 1 259 1 1 1 1bd6a 1 ca 1 a0 2 c 2 e 1 2 a 4b 1a 1 2 17 1 14 1 2 9 15 2 ae 22 2 70 2 2 1 3",
    "2 53 2 3 1 107 1 3f b 6 1 18 7 2 2 8 c 1 2 4 2 1 4 2 d 2 2 1 8 2 9 1 5 3 c 3 8 3 2 1 1 1 4 1",
    "6 1 3 1 6 56 30 46 5 8 2 3 4 a 3 1 1 2 3 1 2 a e3 c 4 1 11b 2f 1 a 1 b9 70 d 3 a 5 38 7 f 2 b",
    "6 9"]

/-- The characters that are shown as pictures. -/
def emojiPresentation : CodeSet :=
  .ofRuns [
    "231a 2 cd 4 3 1 2 1 209 2 15 2 32 c 2b 1 13 1 d 1 8 2 11 2 5 2 8 1 5 1 15 1 7 2 1 1 4 1 2 1 7",
    "1 4 2 1c 1 23 1 1 1 4 3 1 1 3d 3 18 1 e 1 35b 2 33 1 4 1 1c4ae 1 ca 1 be 1 2 a 4b 1a 1 1 18 1",
    "14 1 2 5 1 3 15 2 ae 21 c 9 1 46 1 16 c 2b 4 5 c 11 3 1 3 47 1 1 1 bb 2 3f d 4 1 18 12 1 1a 2",
    "d 1 56 55 30 46 6 1 3 3 2 3 4 4 b 2 7 9 e3 c 4 1 11b 2f 1 a 1 b9 70 d 3 a 5 38 7 f 2 b 6 9"]

/-- The tones of skin. -/
def emojiModifier : CodeSet :=
  .ofRuns ["1f3fb 5"]

/-- The pictures that take a tone of skin. -/
def emojiModifierBase : CodeSet :=
  .ofRuns [
    "261d 1 db 1 10 4 1cc77 1 3c 3 2 1 2 3 75 2 2 b 15 13 3 1 4 3 1 3 7 1 1 1 18 1 c9 2 4 1 15 1 4",
    "2 ae 3 3 5 53 1 10 3 9 1 b 1 23f 1 2 1 8 8 6 1 9 a 2 3 38 1 3d 2 1 2 1 1 11 3 1 d e5 3 2a 9"]

/-- The characters that make up pictures and are none on their own. -/
def emojiComponent : CodeSet :=
  .ofRuns ["23 1 6 1 5 a 1fd3 1 d5 1 dd2b 1 f3d6 1a 1fb 5 5b0 4 c066c 60"]

/-- The pictures, and what is set aside for them. -/
def extendedPictographic : CodeSet :=
  .ofRuns [
    "a9 1 4 1 1f8d 1 c 1 d8 1 16 1 5a 6 f 2 16f 2 c 1 5f 1 46 1 19 b 4 3 c7 1 e7 2 a 1 9 1 3a 4 1",
    "6 1 c 1 72 a 76 2 b 1 1 1 1 6 1 3 1 6 1 a 2 f 1 2 1 4 1 1 1 4 3 1 1 b 5 2d 3 9 1 e 1 e 1 174",
    "2 1cf 3 13 2 33 1 4 1 4da 1 c 1 259 1 1 1 1bd66 100 d 3 1f 1 3c 6 c 2 e 1 2 a 12 39 1b f a 1",
    "14 1 2 9 1 4 9 1b2 5 13e 8 10a 30 80 74 c 55 2b c 4 38 8 a 6 28 8 1e 52 c 2f 1 a 1 1b9 100",
    "3fe"]

/-- The letters that make up flags. -/
def regionalIndicator : CodeSet :=
  .ofRuns ["1f1e6 1a"]

end EndpointMonitor.Character
