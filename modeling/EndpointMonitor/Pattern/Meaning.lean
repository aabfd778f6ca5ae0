import EndpointMonitor.Character.CaseFold
import EndpointMonitor.Pattern.Form
import EndpointMonitor.Pattern.Property
import EndpointMonitor.Pattern.SyntaxReader

/-!
# The meaning of regular expressions

The meaning of a pattern is a form. Flags change what follows them up to the end of the group.
Without the Unicode flag a pattern may speak of ASCII characters only, because every match has to
be well-formed text: the complement of a set is refused, and so is a dot.
-/

namespace EndpointMonitor.Pattern

/-- The flags in force at some place of a pattern. -/
structure Flags where
  ignoreCase : Bool
  multiLine : Bool
  dotAll : Bool
  swapGreed : Bool
  unicode : Bool
  carriageReturn : Bool

namespace Flags

/-- The flags at the start of a pattern. -/
def initial : Flags :=
  ⟨false, false, false, false, true, false⟩

/-- The flags after a flag group. -/
def apply (f : Flags) (items : List FlagItem) : Flags :=
  { ignoreCase := (Reader.switched .ignoreCase items).getD f.ignoreCase
    multiLine := (Reader.switched .multiLine items).getD f.multiLine
    dotAll := (Reader.switched .dotAll items).getD f.dotAll
    swapGreed := (Reader.switched .swapGreed items).getD f.swapGreed
    unicode := (Reader.switched .unicode items).getD f.unicode
    carriageReturn := (Reader.switched .carriageReturn items).getD f.carriageReturn }

end Flags

namespace Meaning

/-- The capital letters of ASCII. -/
def asciiUpper : CodeSet :=
  .range 0x41 0x5A

/-- The small letters of ASCII. -/
def asciiLower : CodeSet :=
  .range 0x61 0x7A

/-- The letters of ASCII. -/
def asciiAlpha : CodeSet :=
  asciiUpper.union asciiLower

/-- The digits of ASCII. -/
def asciiDigit : CodeSet :=
  .range 0x30 0x39

/-- The letters and digits of ASCII. -/
def asciiAlnum : CodeSet :=
  asciiAlpha.union asciiDigit

/-- The ASCII classes with a name. -/
def namedSet (name : String) : CodeSet :=
  match name with
  | "alnum" => asciiAlnum
  | "alpha" => asciiAlpha
  | "ascii" => .ascii
  | "blank" => (CodeSet.single 0x9).union (.single 0x20)
  | "cntrl" => (CodeSet.range 0 0x1F).union (.single 0x7F)
  | "digit" => asciiDigit
  | "graph" => .range 0x21 0x7E
  | "lower" => asciiLower
  | "print" => .range 0x20 0x7E
  | "punct" => (CodeSet.range 0x21 0x7E).diff asciiAlnum
  | "space" => (CodeSet.range 0x9 0xD).union (.single 0x20)
  | "upper" => asciiUpper
  | "word" => asciiAlnum.union (.single 0x5F)
  | "xdigit" => .unions [asciiDigit, .range 0x41 0x46, .range 0x61 0x66]
  | _ => .empty

/-- The characters of a one-letter class. -/
def shorthandSet (unicode : Bool) : Shorthand → CodeSet
  | .digit => if unicode then Character.digit else namedSet "digit"
  | .space => if unicode then Character.whiteSpace else namedSet "space"
  | .word => if unicode then Character.word else namedSet "word"

/-- The ASCII letters of either case that differ from a member in case only, and the members. -/
def closeAscii (s : CodeSet) : CodeSet :=
  let letters := (List.range 26).map (0x41 + ·)
  let hit := letters.filter fun n => s.contains n || s.contains (n + 32)
  s.union (.ofList (hit ++ hit.map (· + 32)))

/-- A set with all case variants of its members, if case does not count. -/
def fold (f : Flags) (s : CodeSet) : CodeSet :=
  if !f.ignoreCase then s
  else if f.unicode then CaseFold.close s
  else closeAscii s

/-- The complement of a set, if asked for. Without Unicode there is none. -/
def negate (f : Flags) (negated : Bool) (s : CodeSet) : Option CodeSet :=
  if !negated then some s
  else if f.unicode then some s.compl
  else none

/-- The code point of a literal in a set; without Unicode it has to be ASCII. -/
def codePoint? (f : Flags) (l : Literal) : Option Nat :=
  if f.unicode || l.char.toNat < 128 then some l.char.toNat else none

/-- The set of a property. Properties need Unicode. -/
def propertySet (f : Flags) (name : PropertyName) (negated : Bool) : Option CodeSet := do
  guard f.unicode
  let s ← Property.find? name
  negate f negated (fold f s)

mutual

/-- The set of a class. -/
def classSet (f : Flags) : ClassSet → Option CodeSet
  | .literal l => (codePoint? f l).map .single
  | .range low high => do
    let a ← codePoint? f low
    let b ← codePoint? f high
    return (CodeSet.range a b).inter .characters
  | .named name negated => negate f negated (fold f (namedSet name))
  | .shorthand kind negated => negate f negated (shorthandSet f.unicode kind)
  | .property name negated => propertySet f name negated
  | .bracketed negated body => do negate f negated (fold f (← classSet f body))
  | .union items => (classSets f items).map .unions
  | .operation op left right => do
    let l := fold f (← classSet f left)
    let r := fold f (← classSet f right)
    return match op with
      | .intersection => l.inter r
      | .difference => l.diff r
      | .symmetricDifference => l.symmDiff r

/-- The sets of several classes. -/
def classSets (f : Flags) : List ClassSet → Option (List CodeSet)
  | [] => some []
  | item :: rest => do return (← classSet f item) :: (← classSets f rest)

end

/-- The test of an anchor. -/
def lookOf (f : Flags) : Anchor → Look
  | .textStart => .textStart
  | .textEnd => .textEnd
  | .lineStart => if f.multiLine then .lineStart f.carriageReturn else .textStart
  | .lineEnd => if f.multiLine then .lineEnd f.carriageReturn else .textEnd
  | .wordBoundary => .wordBoundary f.unicode
  | .notWordBoundary => .notWordBoundary f.unicode
  | .wordStart => .wordStart f.unicode
  | .wordEnd => .wordEnd f.unicode
  | .wordStartHalf => .wordStartHalf f.unicode
  | .wordEndHalf => .wordEndHalf f.unicode

/-- The form of a single character. A byte that is not ASCII is no character. -/
def literalForm (f : Flags) (l : Literal) : Option Form :=
  if !f.unicode && l.asByte && 128 ≤ l.char.toNat then none
  else if f.ignoreCase && (f.unicode || l.char.toNat < 128) then
    some (.ofSet f.unicode (fold f (.single l.char.toNat)))
  else some (.literal [l.char])

/-- The form of a single item. -/
def atomForm (f : Flags) : Atom → Option Form
  | .literal l => literalForm f l
  | .shorthand kind negated =>
    (negate f negated (shorthandSet f.unicode kind)).map (.ofSet f.unicode)
  | .property name negated => (propertySet f name negated).map (.ofSet true)
  | .anchor a => some (.look (lookOf f a))

/-- The form of a dot. -/
def dotForm (f : Flags) : Option Form :=
  let lineEnds : List Nat :=
    if f.dotAll then [] else if f.carriageReturn then [0xA, 0xD] else [0xA]
  if f.unicode then some (.ofSet true (CodeSet.ofList lineEnds).compl) else none

mutual

/-- The form of a pattern under some flags, and the flags after it. -/
def form (f : Flags) : Ast → Option (Form × Flags)
  | .empty => some (.empty, f)
  | .flags items => some (.empty, f.apply items)
  | .atom a => (atomForm f a).map fun e => (e, f)
  | .dot => (dotForm f).map fun e => (e, f)
  | .classSet negated body => do
    let s ← negate f negated (fold f (← classSet f body))
    return (.ofSet f.unicode s, f)
  | .repetition times body => do
    let (e, after) ← form f body
    return (.ofRepetition times.least times.most (times.lazy != after.swapGreed) e, after)
  | .group captures items body => do
    let (e, _) ← form (f.apply items) body
    return (if captures then .capture e else e, f)
  | .alternation options => (forms f options).map fun (es, after) => (.ofOptions es, after)
  | .concat parts => (forms f parts).map fun (es, after) => (.ofParts es, after)

/-- The forms of several patterns, each under the flags after the one before it. -/
def forms (f : Flags) : List Ast → Option (List Form × Flags)
  | [] => some ([], f)
  | part :: rest => do
    let (e, after) ← form f part
    let (es, last) ← forms after rest
    return (e :: es, last)

end

end Meaning

end EndpointMonitor.Pattern
