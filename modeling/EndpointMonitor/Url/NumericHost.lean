import EndpointMonitor.Number.Radix
import EndpointMonitor.Text.Split
import EndpointMonitor.Url.Fault

/-!
# Hosts that are numbers

An IPv4 address has up to four numbers, of which the last fills all the bytes that are left;
each is decimal, octal after a leading zero, or hexadecimal after `0x`. An IPv6 address has
eight groups of up to four hexadecimal digits, of which one run may be left out as `::`, and
its last two groups may be written as four decimal bytes.
-/

namespace EndpointMonitor

namespace Ipv4

/-- The number that a part of an address stands for. -/
def part? : List Char → Option Nat
  | [] => none
  | '0' :: c :: rest =>
    if c = 'x' ∨ c = 'X' then Radix.number? 16 rest else Radix.number? 8 (c :: rest)
  | cs => Radix.number? 10 cs

/-- The last label of a name; a dot at the end of the name counts for nothing. -/
def lastLabel? (labels : List (List Char)) : Option (List Char) :=
  match labels.reverse with
  | [] => none
  | [] :: rest => rest.head?
  | label :: _ => some label

/-- Whether a name has to be an address, because it ends in a number. -/
def isMeant (labels : List (List Char)) : Bool :=
  match lastLabel? labels with
  | none => false
  | some label => (!label.isEmpty && label.all Char.isDigit) || (part? label).isSome

/-- The value of the parts, if each fits into the bytes it stands for. -/
def value? : Nat → List Nat → Option Nat
  | _, [] => none
  | bytes, [last] => if last < Nat.pow 256 bytes then some last else none
  | bytes, n :: rest =>
    if n < 256 then (value? (bytes - 1) rest).map (n * Nat.pow 256 (bytes - 1) + ·) else none

/-- The address that the labels of a name stand for. -/
def ofLabels (labels : List (List Char)) : Except UrlFault Nat :=
  let labels := if labels.getLast? = some [] then labels.dropLast else labels
  match (labels.mapM part?).bind fun parts => if parts.length ≤ 4 then value? 4 parts else none with
  | some value => .ok value
  | none => .error .invalidIpv4

end Ipv4

namespace Ipv6

/-- A group of one to four hexadecimal digits. -/
def group? (cs : List Char) : Option Nat :=
  if cs.isEmpty ∨ 4 < cs.length then none else Radix.number? 16 cs

/-- A decimal byte without leading zeros. -/
def byte? (cs : List Char) : Option Nat :=
  match cs with
  | [] => none
  | ['0'] => some 0
  | '0' :: _ => none
  | cs => (Radix.number? 10 cs).filter (· < 256)

/-- Two groups written as four decimal bytes. -/
def quad? (cs : List Char) : Option (List Nat) := do
  match ← (Text.pieces '.' cs).mapM byte? with
  | [a, b, c, d] => return [a * 256 + b, c * 256 + d]
  | _ => none

/-- The groups between single colons; decimal bytes may only stand at the end of an address. -/
def groups? (atEnd : Bool) : List (List Char) → Option (List Nat)
  | [] => some []
  | [last] => ((group? last).map ([·])) <|> if atEnd then quad? last else none
  | cs :: rest => do return (← group? cs) :: (← groups? atEnd rest)

/-- The groups of a side of `::`, which may be empty. -/
def side? (atEnd : Bool) (cs : List Char) : Option (List Nat) :=
  if cs.isEmpty then some [] else groups? atEnd (Text.pieces ':' cs)

/-- The eight groups that an address stands for. -/
def value? (cs : List Char) : Option (List Nat) :=
  match Text.splitOnText [':', ':'] cs with
  | (whole, []) => (side? true whole).filter (·.length = 8)
  | (front, [back]) => do
    let front ← side? false front
    let back ← side? true back
    if front.length + back.length ≤ 7 then
      return front ++ List.replicate (8 - front.length - back.length) 0 ++ back
    else none
  | _ => none

/-- The eight groups of an address. -/
def ofChars (cs : List Char) : Except UrlFault (List Nat) :=
  match value? cs with
  | some groups => .ok groups
  | none => .error .invalidIpv6

end Ipv6

end EndpointMonitor
