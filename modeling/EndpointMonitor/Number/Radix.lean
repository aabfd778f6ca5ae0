/-!
# Numerals

Digits above nine are letters of either case. A numeral consists of digits of its base only,
and nothing at all is the numeral of zero. A text may begin with a sign, and with some digits.
-/

namespace EndpointMonitor.Radix

/-- The value of a digit below sixteen. -/
def hexDigit? (c : Char) : Option Nat :=
  if '0' ≤ c ∧ c ≤ '9' then some (c.toNat - '0'.toNat)
  else if 'a' ≤ c ∧ c ≤ 'f' then some (c.toNat - 'a'.toNat + 10)
  else if 'A' ≤ c ∧ c ≤ 'F' then some (c.toNat - 'A'.toNat + 10)
  else none

/-- The value of a digit of a base of at most sixteen. -/
def digit? (base : Nat) (c : Char) : Option Nat :=
  (hexDigit? c).filter (· < base)

/-- The sign at the front of a text: whether it is a minus, and the rest. -/
def takeSign : List Char → Bool × List Char
  | '-' :: rest => (true, rest)
  | '+' :: rest => (false, rest)
  | rest => (false, rest)

/-- The digits at the front of a text, and the rest. -/
def takeDigits (base : Nat) (cs : List Char) : List Nat × List Char :=
  ((cs.takeWhile (digit? base · |>.isSome)).filterMap (digit? base),
    cs.dropWhile (digit? base · |>.isSome))

/-- The number that digits write. -/
def ofDigits (base : Nat) (ds : List Nat) : Nat :=
  ds.foldl (fun n d => n * base + d) 0

/-- The number that decimal digits stand for. -/
def digitsToNat (ds : List Char) : Nat :=
  ds.foldl (fun n c => n * 10 + (c.toNat - 48)) 0

/-- The number that a numeral stands for. -/
def number? (base : Nat) (cs : List Char) : Option Nat :=
  cs.foldlM (fun n c => (digit? base c).map (n * base + ·)) 0

@[simp] theorem number?_nil (base : Nat) : number? base [] = some 0 := rfl

end EndpointMonitor.Radix
