import EndpointMonitor.Character.CodeSet
import EndpointMonitor.Number.Radix
import EndpointMonitor.Pattern.Syntax
import EndpointMonitor.Text.Blank
import EndpointMonitor.Text.Letter
import EndpointMonitor.Text.Split

/-!
# Reading regular expressions

The reader refuses look-around, back-references, unknown escapes, repetitions of nothing,
counts that run backwards, and groups and classes that are not closed. In verbose mode,
blanks and comments between the items are skipped.
-/

namespace EndpointMonitor.Pattern

namespace Reader

/-- Skip blanks and comments in verbose mode. -/
def skip (verbose : Bool) (cs : List Char) : List Char :=
  if verbose then go cs false else cs
where
  /-- Skip inside or outside a comment. -/
  go : List Char → Bool → List Char
    | [], _ => []
    | c :: rest, true => go rest (c ≠ '\n')
    | c :: rest, false =>
      if Text.isBlank c then go rest false
      else if c = '#' then go rest true
      else c :: rest

/-- The characters that have a role of their own in some place of a pattern. -/
def isMeta (c : Char) : Bool :=
  ['\\', '.', '+', '*', '?', '(', ')', '|', '[', ']', '\x7b', '\x7d', '^', '$', '#', '&', '-',
    '~'].contains c

/-- The characters that a backslash leaves as they are. -/
def isEscapable (c : Char) : Bool :=
  isMeta c || (c.toNat < 128 && !c.isAlphanum && c ≠ '<' && c ≠ '>')

/-- A number of hexadecimal digits. -/
def fixedHex (verbose : Bool) : Nat → Nat → List Char → Option (Nat × List Char)
  | 0, acc, cs => some (acc, cs)
  | n + 1, acc, cs =>
    match cs with
    | [] => none
    | c :: rest =>
      match Radix.hexDigit? c with
      | some d => fixedHex verbose n (acc * 16 + d) (skip verbose rest)
      | none => none

/-- Hexadecimal digits up to a closing brace. -/
def bracedHex (verbose : Bool) : Nat → Option Nat → List Char → Option (Nat × List Char)
  | 0, _, _ => none
  | fuel + 1, acc, cs =>
    match skip verbose cs with
    | [] => none
    | c :: rest =>
      if c = '\x7d' then acc.map fun n => (n, skip verbose rest)
      else
        match Radix.hexDigit? c with
        | some d => bracedHex verbose fuel (some (acc.getD 0 * 16 + d)) rest
        | none => none

/-- The character of a hexadecimal escape, after its letter. -/
def readHex (verbose : Bool) (width : Nat) (cs : List Char) : Option (Literal × List Char) :=
  match skip verbose cs with
  | '\x7b' :: rest => do
    let (n, rest) ← bracedHex verbose (rest.length + 1) none rest
    let c ← charOf? n
    return (⟨c, false⟩, rest)
  | cs => do
    let (n, rest) ← fixedHex verbose width 0 cs
    let c ← charOf? n
    return (⟨c, width = 2⟩, rest)

/-- The property and the value before and after the first occurrence of a sign. -/
def valueAfter? (sign text : List Char) : Option PropertyName :=
  match Text.splitOnText sign text with
  | (_, []) => none
  | (before, after) => some (.value (String.ofList before) (String.ofList (sign.intercalate after)))

/-- The property that a text in braces names, and whether its characters are left out. A value
follows the first `!=`, which leaves out, else the first colon, else the first equals sign. -/
def propertyOf (text : List Char) : PropertyName × Bool :=
  match valueAfter? ['!', '='] text with
  | some name => (name, true)
  | none =>
    ((valueAfter? [':'] text <|> valueAfter? ['='] text).getD (.set (String.ofList text)), false)

/-- A class by property, after its letter. -/
def readProperty (verbose negated : Bool) (cs : List Char) : Option (Atom × List Char) :=
  match skip verbose cs with
  | '\x7b' :: rest =>
    let rec body : Nat → List Char → List Char → Option (Atom × List Char)
      | 0, _, _ => none
      | fuel + 1, acc, cs =>
        match skip verbose cs with
        | [] => none
        | c :: rest =>
          if c = '\x7d' then
            let (name, leftOut) := propertyOf acc.reverse
            some (.property name (negated != leftOut), rest)
          else body fuel (c :: acc) rest
    body (rest.length + 1) [] rest
  | '\\' :: _ => none
  | c :: rest => some (.property (.set (String.singleton c)) negated, skip verbose rest)
  | [] => none

/-- The characters of one kind at the start of a text, with blanks after each of them, and the text
after these. -/
def readRun (verbose : Bool) (ofKind : Char → Bool) : Nat → List Char → List Char × List Char
  | 0, cs => ([], cs)
  | _ + 1, [] => ([], [])
  | fuel + 1, c :: rest =>
    if ofKind c then
      let (run, rest) := readRun verbose ofKind fuel (skip verbose rest)
      (c :: run, rest)
    else ([], c :: rest)

/-- The characters of the names of word boundaries. -/
def isBoundaryChar (c : Char) : Bool :=
  c.isAlpha || c = '-'

/-- The word boundaries with a name. -/
def boundaryOf? (word : List Char) : Option Anchor :=
  if word = "start".toList then some .wordStart
  else if word = "end".toList then some .wordEnd
  else if word = "start-half".toList then some .wordStartHalf
  else if word = "end-half".toList then some .wordEndHalf
  else none

/-- The name of a word boundary, up to its closing brace. -/
def readBoundaryName (verbose : Bool) (cs : List Char) : Option (Anchor × List Char) :=
  match readRun verbose isBoundaryChar (cs.length + 1) cs with
  | (word, '\x7d' :: rest) => (boundaryOf? word).map fun a => (a, rest)
  | _ => none

/-- A word boundary that names its side, in braces after the boundary. Something else in
braces is left for a repetition. -/
def readBoundaryKind (verbose : Bool) (cs : List Char) : Option (Option Anchor × List Char) :=
  match cs with
  | '\x7b' :: inside =>
    match skip verbose inside with
    | [] => none
    | c :: rest =>
      if isBoundaryChar c then
        (readBoundaryName verbose (c :: rest)).map fun (a, rest) => (some a, rest)
      else some (none, cs)
  | _ => some (none, cs)

/-- An escape that is a single character after its backslash. -/
def shortEscape? (c : Char) : Option Atom :=
  if isEscapable c then some (.literal ⟨c, false⟩)
  else
    match c with
    | 'd' => some (.shorthand .digit false)
    | 'D' => some (.shorthand .digit true)
    | 's' => some (.shorthand .space false)
    | 'S' => some (.shorthand .space true)
    | 'w' => some (.shorthand .word false)
    | 'W' => some (.shorthand .word true)
    | 'a' => some (.literal ⟨Char.ofNat 7, false⟩)
    | 'f' => some (.literal ⟨Char.ofNat 12, false⟩)
    | 't' => some (.literal ⟨'\t', false⟩)
    | 'n' => some (.literal ⟨'\n', false⟩)
    | 'r' => some (.literal ⟨'\r', false⟩)
    | 'v' => some (.literal ⟨Char.ofNat 11, false⟩)
    | 'A' => some (.anchor .textStart)
    | 'z' => some (.anchor .textEnd)
    | 'B' => some (.anchor .notWordBoundary)
    | '<' => some (.anchor .wordStart)
    | '>' => some (.anchor .wordEnd)
    | _ => none

/-- An escape, after its backslash. -/
def readEscape (verbose : Bool) (cs : List Char) : Option (Atom × List Char) :=
  match cs with
  | [] => none
  | 'x' :: rest => (readHex verbose 2 rest).map fun (l, rest) => (.literal l, rest)
  | 'u' :: rest => (readHex verbose 4 rest).map fun (l, rest) => (.literal l, rest)
  | 'U' :: rest => (readHex verbose 8 rest).map fun (l, rest) => (.literal l, rest)
  | 'p' :: rest => readProperty verbose false rest
  | 'P' :: rest => readProperty verbose true rest
  | 'b' :: rest =>
    (readBoundaryKind verbose rest).map fun (kind, rest) =>
      (.anchor (kind.getD .wordBoundary), rest)
  | c :: rest => (shortEscape? c).map fun a => (a, rest)

/-- The classes with a name between colons. -/
def classNames : List String :=
  ["alnum", "alpha", "ascii", "blank", "cntrl", "digit", "graph", "lower", "print", "punct",
    "space", "upper", "word", "xdigit"]

/-- The name of a class, up to its closing colon and bracket. -/
def readClassName (negated : Bool) (cs : List Char) : Option (ClassSet × List Char) :=
  let name := String.ofList (cs.takeWhile (· ≠ ':'))
  match cs.dropWhile (· ≠ ':') with
  | ':' :: ']' :: rest =>
    if classNames.contains name then some (.named name negated, rest) else none
  | _ => none

/-- A class with a name between colons, after its opening bracket. -/
def readNamed : List Char → Option (ClassSet × List Char)
  | ':' :: '^' :: rest => readClassName true rest
  | ':' :: rest => readClassName false rest
  | _ => none

/-- A single item of a class. -/
def readClassAtom (verbose : Bool) (cs : List Char) : Option (Atom × List Char) :=
  match cs with
  | [] => none
  | '\\' :: rest => readEscape verbose rest
  | c :: rest => some (.literal ⟨c, false⟩, rest)

/-- An item of a class on its own. -/
def classItem : Atom → Option ClassSet
  | .literal l => some (.literal l)
  | .shorthand kind negated => some (.shorthand kind negated)
  | .property name negated => some (.property name negated)
  | .anchor _ => none

/-- The range from an item to another one. -/
def rangeOf : Atom → Atom → Option ClassSet
  | .literal low, .literal high => if low.char ≤ high.char then some (.range low high) else none
  | _, _ => none

/-- What follows an item and a dash: the end of a range, unless the dash stands for itself. -/
def readRangeEnd (verbose : Bool) (low : Atom) (cs : List Char) : Option (ClassSet × List Char) :=
  match skip verbose cs with
  | [] => none
  | ']' :: _ | '-' :: _ => (classItem low).map fun item => (item, '-' :: cs)
  | next =>
    (readClassAtom verbose next).bind fun (high, rest) =>
      (rangeOf low high).map fun item => (item, rest)

/-- An item of a class or a range of two items. -/
def readClassRange (verbose : Bool) (cs : List Char) : Option (ClassSet × List Char) :=
  (readClassAtom verbose cs).bind fun (low, rest) =>
    match skip verbose rest with
    | [] => none
    | '-' :: more => readRangeEnd verbose low more
    | rest => (classItem low).map fun item => (item, rest)

/-- Dashes at the start of a class stand for themselves. -/
def leadingDashes (verbose : Bool) (cs : List Char) : List ClassSet × List Char :=
  let (run, rest) := readRun verbose (· = '-') (cs.length + 1) cs
  (run.map fun c => .literal ⟨c, false⟩, rest)

/-- A class that is still open: its sign, the operation that waits for its right side, and the
items read so far in reverse order. -/
structure OpenClass where
  negated : Bool
  pending : Option (ClassOp × ClassSet)
  items : List ClassSet

/-- The set of the items read so far. -/
def OpenClass.close (c : OpenClass) : ClassSet :=
  let right := ClassSet.union c.items.reverse
  match c.pending with
  | some (op, left) => .operation op left right
  | none => right

/-- Start the right side of an operation. -/
def OpenClass.operate (c : OpenClass) (op : ClassOp) : OpenClass :=
  ⟨c.negated, some (op, c.close), []⟩

/-- Add an item. -/
def OpenClass.add (c : OpenClass) (item : ClassSet) : OpenClass :=
  { c with items := item :: c.items }

/-- Whether a class is negated, and the text after its sign. -/
def readSign (verbose : Bool) (cs : List Char) : Bool × List Char :=
  match skip verbose cs with
  | '^' :: rest => (true, skip verbose rest)
  | rest => (false, rest)

/-- The start of a class, after its opening bracket. -/
def openClass (verbose : Bool) (cs : List Char) : OpenClass × List Char :=
  let (negated, cs) := readSign verbose cs
  let (items, cs) := leadingDashes verbose cs
  match items, cs with
  | [], ']' :: rest => (⟨negated, none, [.literal ⟨']', false⟩]⟩, skip verbose rest)
  | items, cs => (⟨negated, none, items⟩, cs)

/-- The operation on two classes that a doubled sign stands for. -/
def readClassOp : List Char → Option (ClassOp × List Char)
  | '&' :: '&' :: rest => some (.intersection, rest)
  | '-' :: '-' :: rest => some (.difference, rest)
  | '~' :: '~' :: rest => some (.symmetricDifference, rest)
  | _ => none

/-- The rest of a class: the innermost open class and the classes around it. -/
def readClass (verbose : Bool) : Nat → OpenClass → List OpenClass → List Char →
    Option ((Bool × ClassSet) × List Char)
  | 0, _, _, _ => none
  | fuel + 1, inner, outer, cs =>
    match skip verbose cs with
    | [] => none
    | '[' :: rest =>
      match readNamed rest with
      | some (item, rest) => readClass verbose fuel (inner.add item) outer rest
      | none =>
        let (opened, rest) := openClass verbose rest
        readClass verbose fuel opened (inner :: outer) rest
    | ']' :: rest =>
      match outer with
      | [] => some ((inner.negated, inner.close), rest)
      | around :: outer =>
        readClass verbose fuel (around.add (.bracketed inner.negated inner.close)) outer rest
    | cs =>
      match readClassOp cs with
      | some (op, rest) => readClass verbose fuel (inner.operate op) outer rest
      | none =>
        match readClassRange verbose cs with
        | some (item, rest) => readClass verbose fuel (inner.add item) outer rest
        | none => none

/-- The flag of a letter. -/
def flagOf? : Char → Option Flag
  | 'i' => some .ignoreCase
  | 'm' => some .multiLine
  | 's' => some .dotAll
  | 'U' => some .swapGreed
  | 'u' => some .unicode
  | 'R' => some .carriageReturn
  | 'x' => some .verbose
  | _ => none

/-- Flags up to a colon or a closing parenthesis, which is left in the text. -/
def readFlags : List FlagItem → List Char → Option (List FlagItem × List Char)
  | _, [] => none
  | items, c :: rest =>
    if c = ':' ∨ c = ')' then
      if items.head? = some .negation then none else some (items.reverse, c :: rest)
    else
      match (if c = '-' then some FlagItem.negation else (flagOf? c).map FlagItem.flag) with
      | some item => if items.contains item then none else readFlags (item :: items) rest
      | none => none

/-- Whether flag items switch a flag on or off, or leave it. -/
def switched (f : Flag) (items : List FlagItem) : Option Bool :=
  go items true
where
  /-- The state after a negation differs from the one before it. -/
  go : List FlagItem → Bool → Option Bool
    | [], _ => none
    | .negation :: rest, _ => go rest false
    | .flag g :: rest, on => if g = f then some on else go rest on

/-- A character of a group name. -/
def isNameChar (c : Char) (first : Bool) : Bool :=
  c = '_' || Text.isAlphabetic c ||
  (!first && (c = '.' || c = '[' || c = ']' || Text.isNumeric c))

/-- The name of a group, up to its closing angle bracket. -/
def readName : List Char → List Char → Option (String × List Char)
  | _, [] => none
  | acc, c :: rest =>
    if c = '>' then
      if acc.isEmpty then none else some (String.ofList acc.reverse, rest)
    else if isNameChar c acc.isEmpty then readName (c :: acc) rest
    else none

/-- The number that decimal digits stand for. -/
def decimalOf? : List Char → Option Nat
  | [] => none
  | digits => some (Radix.digitsToNat digits)

/-- A count of a repetition, with blanks around it. -/
def readCount (verbose : Bool) (cs : List Char) : Option Nat × List Char :=
  let cs := cs.dropWhile Text.isBlank
  let (digits, rest) := readRun verbose Char.isDigit (cs.length + 1) cs
  ((decimalOf? digits).filter (· < 4294967296), rest.dropWhile Text.isBlank)

/-- Whether the mark of a lazy repetition follows, and the text after it. -/
def readLazy : List Char → Bool × List Char
  | '?' :: rest => (true, rest)
  | rest => (false, rest)

/-- The greatest count of a repetition, after the comma that follows the least one. -/
def readMost (verbose : Bool) (least : Option Nat) (cs : List Char) :
    Option ((Nat × Option Nat) × List Char) :=
  match skip verbose cs with
  | [] => none
  | '\x7d' :: rest => least.map fun n => ((n, none), '\x7d' :: rest)
  | rest =>
    match least, readCount verbose rest with
    | some n, (some m, rest) => some ((n, some m), rest)
    | _, _ => none

/-- The least and the greatest count of a repetition, after its opening brace. -/
def readLimits (verbose : Bool) (cs : List Char) : Option ((Nat × Option Nat) × List Char) :=
  match readCount verbose (skip verbose cs) with
  | (least, ',' :: rest) => readMost verbose least rest
  | (least, rest) => least.map fun n => ((n, some n), rest)

/-- The bounds of a counted repetition, after its opening brace. -/
def readBounds (verbose : Bool) (cs : List Char) : Option (Times × List Char) :=
  match readLimits verbose cs with
  | some ((least, most), '\x7d' :: rest) =>
    let (isLazy, rest) := readLazy (skip verbose rest)
    if most.all (least ≤ ·) then some (⟨least, most, isLazy⟩, rest) else none
  | _ => none

/-- A group that is still open: whether it captures, its flags, the verbose mode around it, its
finished options and the parts of the last one, both in reverse order. -/
structure OpenGroup where
  captures : Bool
  flags : List FlagItem
  verboseAround : Bool
  options : List Ast
  parts : List Ast

/-- The parts of one option as a pattern. -/
def concatOf : List Ast → Ast
  | [] => .empty
  | [part] => part
  | parts => .concat parts

/-- The contents of a group. -/
def OpenGroup.close (g : OpenGroup) : Ast :=
  match (concatOf g.parts.reverse :: g.options).reverse with
  | [option] => option
  | options => .alternation options

/-- Add a part. -/
def OpenGroup.add (g : OpenGroup) (part : Ast) : OpenGroup :=
  { g with parts := part :: g.parts }

/-- Start the next option. -/
def OpenGroup.alternate (g : OpenGroup) : OpenGroup :=
  { g with options := concatOf g.parts.reverse :: g.options, parts := [] }

/-- Repeat the last part, unless there is none that can be repeated. -/
def OpenGroup.repeatLast (g : OpenGroup) (times : Times) : Option OpenGroup :=
  match g.parts with
  | [] | .flags _ :: _ | .empty :: _ => none
  | part :: parts => some { g with parts := .repetition times part :: parts }

/-- What a parenthesis opens. -/
inductive Opening where
  | switch (items : List FlagItem)
  | plain (items : List FlagItem)
  | capture (name : Option String)

/-- What the flags behind a parenthesis open: nothing if the group ends with them, and then there
has to be a flag. -/
def readFlagged (cs : List Char) : Option (Opening × List Char) :=
  match readFlags [] cs with
  | some (items, ')' :: rest) => if items.isEmpty then none else some (.switch items, rest)
  | some (items, ':' :: rest) => some (.plain items, rest)
  | _ => none

/-- What a group opens whose parenthesis is followed by a question mark. The signs of look-around
are neither flags nor letters of a name. -/
def readKind : List Char → Option (Opening × List Char)
  | 'P' :: '<' :: rest | '<' :: rest =>
    (readName [] rest).map fun (name, rest) => (.capture (some name), rest)
  | rest => readFlagged rest

/-- The head of a group, after its opening parenthesis. -/
def readOpening (verbose : Bool) (cs : List Char) : Option (Opening × List Char) :=
  match skip verbose cs with
  | '?' :: rest => readKind rest
  | rest => some (.capture none, rest)

/-- The bounds of a repetition that is written as one sign. -/
def signBounds? : Char → Option (Nat × Option Nat)
  | '?' => some (0, some 1)
  | '*' => some (0, none)
  | '+' => some (1, none)
  | _ => none

/-- The part that a character is which starts nothing longer. -/
def partOf : Char → Ast
  | '.' => .dot
  | '^' => .atom (.anchor .lineStart)
  | '$' => .atom (.anchor .lineEnd)
  | c => .atom (.literal ⟨c, false⟩)

/-- A pattern that is still being read: the verbose mode, the innermost open group, the groups
around it, the names taken so far, and the text that is left. -/
structure OpenPattern where
  verbose : Bool
  inner : OpenGroup
  outer : List OpenGroup
  names : List String
  rest : List Char

namespace OpenPattern

/-- A pattern of which nothing has been read. What stands in no group is in one of its own. -/
def start (cs : List Char) : OpenPattern :=
  ⟨false, ⟨false, [], false, [], []⟩, [], [], cs⟩

/-- Add a part to the innermost group. -/
def add (p : OpenPattern) (part : Ast) (rest : List Char) : OpenPattern :=
  { p with inner := p.inner.add part, rest := rest }

/-- Start the next option of the innermost group. -/
def alternate (p : OpenPattern) (rest : List Char) : OpenPattern :=
  { p with inner := p.inner.alternate, rest := rest }

/-- Repeat the last part, unless there is none that can be repeated. -/
def repeatLast (p : OpenPattern) (times : Times) (rest : List Char) : Option OpenPattern :=
  (p.inner.repeatLast times).map fun inner => { p with inner := inner, rest := rest }

/-- Open a group. -/
def push (p : OpenPattern) (captures : Bool) (flags : List FlagItem) (names : List String)
    (rest : List Char) : OpenPattern where
  verbose := (switched .verbose flags).getD p.verbose
  inner := ⟨captures, flags, p.verbose, [], []⟩
  outer := p.inner :: p.outer
  names := names
  rest := rest

/-- Do what a parenthesis opens, unless the name of a group is taken. -/
def enter (p : OpenPattern) (opening : Opening) (rest : List Char) : Option OpenPattern :=
  match opening with
  | .switch items =>
    some { p.add (.flags items) rest with verbose := (switched .verbose items).getD p.verbose }
  | .plain items => some (p.push false items p.names rest)
  | .capture name =>
    if name.any p.names.contains then none
    else some (p.push true [] (name.toList ++ p.names) rest)

/-- Close the innermost group, unless no group is open. -/
def leave (p : OpenPattern) (rest : List Char) : Option OpenPattern :=
  match p.outer with
  | [] => none
  | around :: outer =>
    some { p with
      verbose := p.inner.verboseAround
      inner := around.add (.group p.inner.captures p.inner.flags p.inner.close)
      outer := outer
      rest := rest }

/-- Read an item that starts with a character, and the text after it. -/
def item (p : OpenPattern) (c : Char) (rest : List Char) : Option OpenPattern :=
  match c with
  | '(' => (readOpening p.verbose rest).bind fun (opening, rest) => p.enter opening rest
  | ')' => p.leave rest
  | '|' => some (p.alternate rest)
  | '[' =>
    let (opened, rest) := openClass p.verbose rest
    (readClass p.verbose (rest.length + 1) opened [] rest).map fun ((negated, body), rest) =>
      p.add (.classSet negated body) rest
  | '\x7b' => (readBounds p.verbose rest).bind fun (times, rest) => p.repeatLast times rest
  | '\\' => (readEscape p.verbose rest).map fun (a, rest) => p.add (.atom a) rest
  | c =>
    match signBounds? c with
    | some (least, most) =>
      let (isLazy, rest) := readLazy rest
      p.repeatLast ⟨least, most, isLazy⟩ rest
    | none => some (p.add (partOf c) rest)

/-- Read the rest of a pattern, item by item. -/
def finish : Nat → OpenPattern → Option Ast
  | 0, _ => none
  | fuel + 1, p =>
    match skip p.verbose p.rest with
    | [] => if p.outer.isEmpty then some p.inner.close else none
    | c :: rest => (p.item c rest).bind (finish fuel)

end OpenPattern

end Reader

/-- Read a pattern, or `none` if it is malformed. -/
def Ast.read (cs : List Char) : Option Ast :=
  (Reader.OpenPattern.start cs).finish (cs.length + 1)

end EndpointMonitor.Pattern
