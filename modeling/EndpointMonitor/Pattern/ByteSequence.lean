import EndpointMonitor.Character.CodeSet

/-!
# Sets of characters as sequences of byte ranges

A character is written as one to four bytes. The characters of a set are covered by sequences of
byte ranges, in each of which the bytes range independently of each other.
-/

namespace EndpointMonitor.Pattern

/-- The bytes from `first` to `last`. -/
structure ByteRange where
  first : Nat
  last : Nat
  deriving DecidableEq

namespace ByteSequence

/-- Cut a range into ranges in which the last `digits` digits to the base 64 are independent of
each other and of the digits before them. -/
def blocks : (digits low high : Nat) → List (Nat × Nat)
  | 0, low, high => [(low, high)]
  | digits + 1, low, high =>
    let unit := Nat.pow 64 (digits + 1)
    if low / unit = high / unit then blocks digits low high
    else
      let start := (low + unit - 1) / unit * unit
      let stop := (high + 1) / unit * unit
      (if low < start then blocks digits low (start - 1) else []) ++
        (if start < stop then [(start, stop - 1)] else []) ++
        (if stop ≤ high then blocks digits stop high else [])

/-- The bytes of a code point that is written with a number of bytes after the first one, whose
value is counted from `lead`. -/
def encode (lead : Nat) : (digits n : Nat) → List Nat
  | 0, n => [lead + n]
  | digits + 1, n => encode lead digits (n / 64) ++ [0x80 + n % 64]

/-- The code points that are written with a number of bytes after the first one: the number, what
is added to the first byte, and the first and the last code point. -/
def lengths : List (Nat × Nat × Nat × Nat) :=
  [(0, 0, 0, 0x7F), (1, 0xC0, 0x80, 0x7FF), (2, 0xE0, 0x800, 0xFFFF), (3, 0xF0, 0x10000, 0x10FFFF)]

/-- The sequences for the characters from `low` to `high`. -/
def ofRange (low high : Nat) : List (List ByteRange) :=
  lengths.flatMap fun (digits, lead, first, last) =>
    let low := max low first
    let high := min high last
    if low ≤ high then
      (blocks digits low high).map fun (a, b) =>
        (encode lead digits a).zipWith ByteRange.mk (encode lead digits b)
    else []

/-- The sequences for the characters of a set, in ascending order. -/
def ofSet (s : CodeSet) : List (List ByteRange) :=
  s.ranges.flatMap fun (low, high) => ofRange low high

end ByteSequence

end EndpointMonitor.Pattern
