import EndpointMonitor.Number.Radix
import EndpointMonitor.Text.Split
import EndpointMonitor.Url.Direction
import EndpointMonitor.Url.Fault
import EndpointMonitor.Url.Joining
import EndpointMonitor.Url.NameMapping
import EndpointMonitor.Url.Punycode

/-!
# Domain names

A name is read from bytes, which may be written as `%` and two digits. Its characters are replaced
by those that it has instead of them, and its letters are composed with their marks. Then a label
that starts with `xn--` has to decode to one that is in that form already, and no label may hold
characters with a role in a URL, controls or blanks, start with a mark, or be misread.
-/

namespace EndpointMonitor.Domain

/-- The bytes of a text in which `%` and two digits stand for a byte. -/
def bytes : List Char → List UInt8
  | [] => []
  | c :: rest =>
    let plain := (String.singleton c).toUTF8.toList
    if c = '%' then
      match rest with
      | a :: b :: more =>
        match Radix.hexDigit? a, Radix.hexDigit? b with
        | some x, some y => UInt8.ofNat (x * 16 + y) :: bytes more
        | _, _ => plain ++ bytes (a :: b :: more)
      | rest => plain ++ bytes rest
    else plain ++ bytes rest

/-- The marks, with which no label starts. -/
def marks : CodeSet :=
  .ofRuns [
    "300 40 2 1 3 9 1 20 113 7 107 2d 1 1 1 2 1 2 1 1 48 b 30 15 10 1 65 7 2 6 2 2 1 4 23 1 1e 1b",
    "5b b 3a 9 9 1 18 4 1 9 1 3 1 5 2b 3 3b 9 2a 18 1 21 36 3 1 12 1 7 a 2 1d 3 38 1 1 7 2 2 2 3 9",
    "1 a 2 1a 1 2 3 38 1 1 5 4 2 2 3 3 1 1e 2 3 1 b 3 38 1 1 8 1 3 1 3 14 2 16 6 1 3 38 1 1 7 2 2",
    "2 3 7 3 a 2 1e 1 3b 5 3 3 1 4 9 1 28 5 37 1 1 7 1 3 1 4 7 2 b 2 1d 3 38 1 1 7 1 3 1 4 7 2 b 2",
    "f 1 c 4 37 2 1 7 1 3 1 4 9 1 a 2 1d 3 46 1 4 6 1 1 1 8 12 2 3d 1 2 7 c 8 62 1 2 9 b 7 49 2 1b",
    "1 1 1 1 1 4 2 31 2 1 1 5 7 1 3 1 2 5 6 1 4 1 4 1 4 1 4 1 4 1 c 1 3 9 1 64 14 17 4 4 3 1 3 2 7",
    "3 4 d c 1 1 a 4 2bf 3 3b2 4 1c 3 1d 2 1e 2 42 1e 9 1 a7 2 22 1 76 c 4 c db 5 39 a 1 1d 2 1 30",
    "2e 2 c 14 5 2f 11 26 9 c 3 1e d 38 e 30 14 98 3 1 15 4 1 6 1 2 3 c6 40 2d0 21 bfe 3 8d 1 60",
    "20 22a 6 69 2 75d4 4 1 a 20 2 50 2 110 1 3 1 4 1 17 5 4 1 53 2 32 12 1a 12 d 1 26 8 19 d 2c 4",
    "2f e 24 1 43 e c 1 8 2 2d 3 32 1 1 3 2 2 5 2 1 1 29 5 5 2 ec 8 1 2 4f30 1 301 10 3cd 1 e2 1",
    "95 5 686 3 1 2 5 4 28 3 4 1 a5 2 23d 4 41 5 13d 2 4d 6 46 b 31 4 7a 3 35 f 29 1 2 2 a 4 2d b",
    "7 1 3d 3 24 e 10 2 2c 1 c 3 30 e 8 4 1 2 5c c 6 1 2 1 9d c 15 4 37 2 1 7 2 2 2 3 9 1 a 2 2 7",
    "3 5 43 9 1 1 2 1 1 4 1 5 1 1 e 2 52 12 17 1 51 14 eb 7 2 9 1b 2 52 11 6a d 65 f 100 f f5 6 1",
    "2 2 4 1 1 1 2 8d 7 2 7 3 1 1c a 28 7 1 4 8 1 9 b 2e 10 c6 8 c7 8 1 8 52 16 1 e 7a 6 3 1 1 2 1",
    "7 1 1 42 5 1 2 1 5 15b 4 9 2 1 1 30 7 3 5 17 1 14e5 1 6 f 2cc8 12 9c0 5 3b 7 418 1 1 37 7 4",
    "51 1 b 2 4cab 2 1261 2e 2 17 21e 5 3 6 8 8 2 7 1e 4 94 3 7bb 37 4 32 8 1 e 1 16 5 1 f 550 7 1",
    "11 2 7 1 2 1 5 64 1 a0 7 177 1 3d 4 1fc 4 fe 2 f3 1 2 1 7 2 5 1 1da 7 6d 7"]

/-- The characters with a role in a URL, which no name holds. -/
def reserved : List Char :=
  ['%', '#', '/', ':', '<', '>', '?', '@', '[', '\\', ']', '^', '|']

/-- Whether a label may hold a character. -/
def isAllowed (c : Char) : Bool :=
  0x80 ≤ c.toNat || (0x20 < c.toNat && c.toNat ≠ 0x7F && !reserved.contains c)

/-- Whether a character is in every alphabet. -/
def isAscii (c : Char) : Bool :=
  c.toNat < 0x80

/-- The most characters of a label beyond ASCII. -/
def longest : Nat :=
  1000

/-- Whether a label may stand in a name. -/
def isLabel (label : List Char) : Bool :=
  label.all isAllowed && (label.all isAscii || label.length ≤ longest) &&
    !(label.head?.any fun c => marks.contains c.toNat) && Joining.fits [] label

/-- Whether a text is in the form that its characters and marks have in a name. -/
def isNormal (cs : List Char) : Bool :=
  (cs.all fun c => isAscii c || NameMapping.kept.contains c.toNat) &&
    Composition.normalize cs == cs

/-- The mark of an encoded label. -/
def encodedMark : List Char :=
  ['x', 'n', '-', '-']

/-- The most characters of an encoded label after its mark. -/
def longestEncoded : Nat :=
  2000

/-- The label that a label of a name stands for. -/
def decoded? (label : List Char) : Option (List Char) :=
  if encodedMark.isPrefixOf label then
    let code := label.drop encodedMark.length
    if longestEncoded < code.length then none
    else (Punycode.decode? code).filter fun cs => isNormal cs && !cs.all isAscii
  else some label

/-- Whether labels make up a name. -/
def areLabels (labels : List (List Char)) : Bool :=
  labels.all isLabel && Direction.areLabels labels

/-- The name that a text stands for. -/
def ofChars (cs : List Char) : Except UrlFault (List Char) :=
  let name? := do
    let text ← String.fromUTF8? ⟨(bytes cs).toArray⟩
    let name := Composition.normalize (← NameMapping.mapped? text.toList)
    let labels ← (Text.pieces '.' name).mapM decoded?
    if areLabels labels then some name else none
  match name? with
  | some name => .ok name
  | none => .error .invalidDomain

end EndpointMonitor.Domain
