import EndpointMonitor.Character.CodeSet

/-!
# Encoded labels

A label of any alphabet can be written in ASCII: its ASCII characters come first, and numbers
after the last hyphen say which character goes in where. Each number is written with digits
whose weights depend on the numbers before it.
-/

namespace EndpointMonitor.Punycode

/-- The value of a digit. -/
def digit? (c : Char) : Option Nat :=
  if 'a' ≤ c ∧ c ≤ 'z' then some (c.toNat - 'a'.toNat)
  else if 'A' ≤ c ∧ c ≤ 'Z' then some (c.toNat - 'A'.toNat)
  else if '0' ≤ c ∧ c ≤ '9' then some (c.toNat - '0'.toNat + 26)
  else none

/-- The digit below which a number ends, at a position of the number. -/
def threshold (position bias : Nat) : Nat :=
  min 26 (max 1 (36 * position - bias))

/-- The least number that is too large to be a weight. -/
def weightLimit : Nat :=
  4294967296

/-- A number that ends at its first digit below the threshold, and the rest. -/
def readNumber? (bias : Nat) : Nat → Nat → Nat → List Char → Option (Nat × List Char)
  | _, _, _, [] => none
  | position, weight, sum, c :: rest =>
    match digit? c with
    | none => none
    | some d =>
      let sum := sum + d * weight
      let t := threshold position bias
      if d < t then some (sum, rest)
      else if weightLimit ≤ weight * (36 - t) then none
      else readNumber? bias (position + 1) (weight * (36 - t)) sum rest

/-- The bias for the next number, from a scaled number. -/
def scaledBias (position delta : Nat) : Nat :=
  if 455 < delta then scaledBias (position + 1) (delta / 35)
  else 36 * position + 36 * delta / (delta + 38)
termination_by delta
decreasing_by omega

/-- The bias for the next number, from a number and the length of the text so far. -/
def nextBias (isFirst : Bool) (delta length : Nat) : Nat :=
  let delta := if isFirst then delta / 700 else delta / 2
  scaledBias 0 (delta + delta / length)

/-- Put in the characters that the numbers stand for, at most a given number of them. -/
def insert? (isFirst : Bool) (code bias index : Nat) (text : List Char) :
    Nat → List Char → Option (List Char)
  | _, [] => some text
  | 0, _ :: _ => none
  | limit + 1, digits => do
    let (delta, rest) ← readNumber? bias 1 1 0 digits
    let length := text.length + 1
    let place := index + delta
    let code := code + place / length
    let c ← charOf? code
    insert? false code (nextBias isFirst delta length) (place % length + 1)
      (text.insertIdx (place % length) c) limit rest

/-- The label that is encoded. Only a text has a hyphen after it, and it is ASCII. -/
def decode? (cs : List Char) : Option (List Char) :=
  let digits := (cs.reverse.takeWhile (· ≠ '-')).reverse
  let text := cs.take (cs.length - digits.length - 1)
  if digits.isEmpty || cs.head? == some '-' && text.isEmpty || text.any (0x80 ≤ ·.toNat) then none
  else insert? true 128 72 0 text digits.length digits

end EndpointMonitor.Punycode
