/-!
# Texts of binary floating-point numbers

A finite double is a natural number times a power of two, so all the arithmetic here is
exact. The shortest form has the fewest digits that read back as the same double, and among
those the digits nearest to it; a tie goes to the even last digit. The fixed form rounds the
exact value to a number of places, again with ties to even. The hexadecimal digits of its bits
tell a double apart from every other one.
-/

namespace EndpointMonitor

/-- The magnitude of a finite double: `mantissa * 2 ^ exponent`. -/
structure Magnitude where
  mantissa : Nat
  exponent : Int

namespace Magnitude

/-- The magnitude of a finite double, read off its bits. -/
def ofFloat (x : Float) : Magnitude :=
  let fraction := (x.toBits &&& 0xFFFFFFFFFFFFF).toNat
  let biased := ((x.toBits >>> 52) &&& 0x7FF).toNat
  if biased = 0 then ⟨fraction, -1074⟩ else ⟨fraction + 4503599627370496, (biased : Int) - 1075⟩

/-- `x * 10 ^ k` as a numerator and a denominator, where `x = n / d`. -/
def scaled (n d : Nat) (k : Int) : Nat × Nat :=
  if 0 ≤ k then (n * Nat.pow 10 k.toNat, d) else (n, d * Nat.pow 10 (-k).toNat)

/-- The numerator and the denominator of four times the unit in the last place. -/
def quarterUnit (m : Magnitude) : Nat × Nat :=
  if 0 ≤ m.exponent then (Nat.pow 2 m.exponent.toNat, 4) else (1, 4 * Nat.pow 2 (-m.exponent).toNat)

/-- The power of ten of the leading digit of `n / d`, for positive `n` and `d`. -/
def leadingPower (n d : Nat) : Int :=
  let guess : Int := ((Nat.toDigits 10 n).length : Int) - (Nat.toDigits 10 d).length
  let (a, b) := scaled n d (-guess)
  if b ≤ a then guess else guess - 1

/-- The neighbours of `n / d` on the grid of multiples of `10 ^ k`, tested for lying between
`low / d` and `high / d`; the nearer one wins, and of two equally near ones the even one. -/
def gridHit (low n high d : Nat) (closed : Bool) (k : Int) : Option Nat :=
  let (a, b) := scaled n d (-k)
  let below := a / b
  let inside (c : Nat) : Bool :=
    let (u, v) := scaled low d (-k)
    let (s, t) := scaled high d (-k)
    if closed then u ≤ c * v && c * t ≤ s else u < c * v && c * t < s
  match inside below, inside (below + 1) with
  | true, true =>
    let left := a - below * b
    let right := (below + 1) * b - a
    if left < right then some below
    else if right < left then some (below + 1)
    else if below % 2 = 0 then some below else some (below + 1)
  | true, false => some below
  | false, true => some (below + 1)
  | false, false => none

/-- The shortest digits `c` and the power of ten `k` with `c * 10 ^ k` reading back as the
positive magnitude. Seventeen digits always suffice. -/
def shortest (m : Magnitude) : Nat × Int :=
  let (unit, d) := m.quarterUnit
  let n := 4 * m.mantissa * unit
  let low := if m.mantissa = 4503599627370496 ∧ -1074 < m.exponent
    then (4 * m.mantissa - 1) * unit else (4 * m.mantissa - 2) * unit
  let high := (4 * m.mantissa + 2) * unit
  let top := leadingPower n d
  let hit := (List.range 17).findSome? fun (i : Nat) =>
    (gridHit low n high d (m.mantissa % 2 = 0) (top - i)).map fun c => (c, top - (i : Int))
  hit.getD (n / d, 0)

end Magnitude

/-- The quotient rounded to the nearest natural number, with ties to even. -/
def roundDiv (n d : Nat) : Nat :=
  let q := n / d
  let r := n % d
  if 2 * r < d then q else if d < 2 * r then q + 1 else if q % 2 = 0 then q else q + 1

namespace Decimal

/-- The decimal digits of a number. -/
def digits (n : Nat) : List Char :=
  Nat.toDigits 10 n

/-- Drop trailing zero digits, keeping at least one digit. -/
def dropZeros (ds : List Char) : List Char :=
  match (ds.reverse.dropWhile (· == '0')).reverse with
  | [] => ['0']
  | kept => kept

/-- The digits with a point such that the first digit has the given power of ten, and with
at least one digit on each side of the point. -/
def positional (ds : List Char) (power : Int) : List Char :=
  if power < 0 then
    '0' :: '.' :: List.replicate (-power - 1).toNat '0' ++ ds
  else
    let whole := power.toNat + 1
    let front := ds.take whole ++ List.replicate (whole - ds.length) '0'
    match ds.drop whole with
    | [] => front ++ ['.', '0']
    | rest => front ++ '.' :: rest

/-- One digit before the point and a signed exponent. -/
def scientific (ds : List Char) (power : Int) : List Char :=
  let mantissa := match ds with
    | [] => []
    | [d] => [d]
    | d :: rest => d :: '.' :: rest
  let exponent := (if power < 0 then '-' else '+') :: digits power.natAbs
  mantissa ++ 'e' :: exponent

/-- The shortest text of a finite double: positional from `1e-5` up to `1e16`, and with an
exponent outside that range. -/
def shortestText (x : Float) : String :=
  let m := Magnitude.ofFloat x
  let sign := if x.toBits >>> 63 = 1 then ['-'] else []
  if m.mantissa = 0 then String.ofList (sign ++ ['0', '.', '0'])
  else
    let (c, k) := m.shortest
    let ds := digits c
    let power := k + (ds.length : Int) - 1
    let kept := dropZeros ds
    let body := if -5 ≤ power ∧ power < 16 then positional kept power else scientific kept power
    String.ofList (sign ++ body)

/-- The text of a finite double with a fixed number of places. -/
def fixedText (places : Nat) (x : Float) : String :=
  let m := Magnitude.ofFloat x
  let (unit, d) := m.quarterUnit
  let n := roundDiv (4 * m.mantissa * unit * Nat.pow 10 places) d
  let whole := toString (n / Nat.pow 10 places)
  let rest := digits (n % Nat.pow 10 places)
  let padded := List.replicate (places - rest.length) '0' ++ rest
  let sign := if x.toBits >>> 63 = 1 then "-" else ""
  if places = 0 then sign ++ whole else sign ++ whole ++ "." ++ String.ofList padded

end Decimal

/-- The hexadecimal digits of the bits of a double; all that is not a number is alike. -/
def bitsText (x : Float) : String :=
  if x.isNaN then "nan"
  else
    let digits := Nat.toDigits 16 x.toBits.toNat
    String.ofList (List.replicate (16 - digits.length) '0' ++ digits)

end EndpointMonitor
