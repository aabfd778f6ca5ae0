import EndpointMonitor.Character.CodeSet

/-!
# Patterns in normal form

A form is a pattern without flags and spellings: the sets of its classes and the tests of its
anchors are known. Forms are built by functions that keep them normal: neighbouring literals are
one, a set with a single member is a literal, lists are not nested in lists of the same kind, and
what the options of an alternation have in common at their start stands before it.
-/

namespace EndpointMonitor.Pattern

/-- A test of the place between two characters. A test of words may go by ASCII or by Unicode. -/
inductive Look where
  | textStart
  | textEnd
  | lineStart (carriageReturn : Bool)
  | lineEnd (carriageReturn : Bool)
  | wordBoundary (unicode : Bool)
  | notWordBoundary (unicode : Bool)
  | wordStart (unicode : Bool)
  | wordEnd (unicode : Bool)
  | wordStartHalf (unicode : Bool)
  | wordEndHalf (unicode : Bool)
  deriving DecidableEq

/-- A pattern in normal form. The set of no characters stands for what never matches. -/
inductive Form where
  | empty
  | literal (chars : List Char)
  | set (unicode : Bool) (members : CodeSet)
  | look (test : Look)
  | repetition (least : Nat) (most : Option Nat) (lazy : Bool) (body : Form)
  | capture (body : Form)
  | concat (parts : List Form)
  | alternation (options : List Form)

namespace Form

mutual

/-- Whether two forms are the same. No two captures are, since each keeps a text of its own. -/
def same : Form → Form → Bool
  | .empty, .empty => true
  | .literal s, .literal t => s == t
  | .set u s, .set v t => u == v && s.edges == t.edges
  | .look s, .look t => s == t
  | .repetition l m z a, .repetition k n y b => l == k && m == n && z == y && same a b
  | .concat s, .concat t => sameAll s t
  | .alternation s, .alternation t => sameAll s t
  | _, _ => false

/-- Whether two lists of forms are the same. -/
def sameAll : List Form → List Form → Bool
  | [], [] => true
  | a :: s, b :: t => same a b && sameAll s t
  | _, _ => false

end

/-- What never matches. -/
def never : Form :=
  .set false .empty

/-- The characters of a set. -/
def ofSet (unicode : Bool) (members : CodeSet) : Form :=
  match members.edges with
  | [] => never
  | [low, next] => if next = low + 1 then .literal [Char.ofNat low] else .set unicode members
  | _ => .set unicode members

/-- Put a part in front of others. Literals are joined, and the empty form adds nothing. -/
def joinPart : Form → List Form → List Form
  | .empty, rest => rest
  | .literal s, .literal t :: rest => .literal (s ++ t) :: rest
  | part, rest => part :: rest

/-- Put a part, or the parts of which it consists, in front of others. -/
def joinParts : Form → List Form → List Form
  | .concat parts, rest => parts.foldr joinPart rest
  | part, rest => joinPart part rest

/-- Parts one after the other. -/
def ofParts (parts : List Form) : Form :=
  match parts.foldr joinParts [] with
  | [] => .empty
  | [part] => part
  | parts => .concat parts

/-- The options of which a form consists. -/
def options : Form → List Form
  | .alternation options => options
  | form => [form]

/-- The only character of a literal. -/
def single? : Form → Option Char
  | .literal [c] => some c
  | _ => none

/-- The members of a set. -/
def members? : Form → Option CodeSet
  | .set _ members => some members
  | _ => none

/-- Whether a form is a set that goes by Unicode. -/
def isUnicode : Form → Bool
  | .set unicode _ => unicode
  | _ => false

/-- The set that options make up which are all single characters, or all sets. -/
def ofChoices? (options : List Form) : Option Form :=
  match options.mapM single?, options.mapM members? with
  | some chars, _ => some (ofSet true (.ofList (chars.map Char.toNat)))
  | none, some sets => some (ofSet true (.unions sets))
  | none, none => none

/-- The parts of a form that consists of parts. -/
def parts? : Form → Option (List Form)
  | .concat parts => some parts
  | _ => none

/-- The length of the common start of two lists of forms. -/
def commonLength : List Form → List Form → Nat
  | a :: s, b :: t => if same a b then commonLength s t + 1 else 0
  | _, _ => 0

/-- The common start of options that all consist of parts, and what is left of each. -/
def commonStart? (options : List Form) : Option (List Form × List (List Form)) := do
  let lists ← options.mapM parts?
  let first ← lists.head?
  let n := lists.foldl (fun n parts => min n (commonLength first parts)) first.length
  if n = 0 then none else some (first.take n, lists.map (·.drop n))

mutual

/-- The number of forms in a form. -/
def size : Form → Nat
  | .repetition _ _ _ body => size body + 1
  | .capture body => size body + 1
  | .concat parts => sizes parts + 1
  | .alternation options => sizes options + 1
  | _ => 1

/-- The number of forms in some forms. -/
def sizes : List Form → Nat
  | [] => 0
  | form :: rest => size form + sizes rest

end

/-- One of the options, for at most so many steps of taking a common start out. -/
def choose : Nat → List Form → Form
  | 0, given => .alternation given
  | steps + 1, given =>
    match given.flatMap options with
    | [] => never
    | [option] => option
    | flat =>
      match ofChoices? flat, commonStart? flat with
      | some form, _ => form
      | none, some (front, rests) => ofParts (front ++ [choose steps (rests.map ofParts)])
      | none, none => .alternation flat

/-- One of the options. Each step takes a form out of every option, so their size bounds the
number of steps. -/
def ofOptions (given : List Form) : Form :=
  choose (sizes given + 1) given

/-- The number of bytes of a character. -/
def byteCount (c : Char) : Nat :=
  c.utf8Size

mutual

/-- The least number of bytes of a match, or `none` if there is no match. -/
def minLength? : Form → Option Nat
  | .empty => some 0
  | .literal cs => some (cs.map byteCount).sum
  | .set _ members => members.edges.head?.map fun n => byteCount (Char.ofNat n)
  | .look _ => some 0
  | .repetition least _ _ body => (minLength? body).map (· * least)
  | .capture body => minLength? body
  | .concat parts => minLengths? parts
  | .alternation options => leastLength? options

/-- The least number of bytes of matches one after the other. -/
def minLengths? : List Form → Option Nat
  | [] => some 0
  | form :: rest => do return (← minLength? form) + (← minLengths? rest)

/-- The least number of bytes of a match of any option, if each of them has one. -/
def leastLength? : List Form → Option Nat
  | [] => none
  | [form] => minLength? form
  | form :: rest => do return min (← minLength? form) (← leastLength? rest)

end

mutual

/-- Whether no match has a byte, though there may be one. -/
def isWeightless : Form → Bool
  | .empty => true
  | .literal cs => cs.isEmpty
  | .set _ _ => false
  | .look _ => true
  | .repetition _ most _ body => most.isSome && (most == some 0 || isWeightless body)
  | .capture body => isWeightless body
  | .concat parts => areWeightless parts
  | .alternation options => areWeightless options

/-- Whether no match of any of the forms has a byte. -/
def areWeightless : List Form → Bool
  | [] => true
  | form :: rest => isWeightless form && areWeightless rest

end

/-- A part that is repeated. Matches without a byte need not be repeated more than once. -/
def ofRepetition (least : Nat) (most : Option Nat) (lazy : Bool) (body : Form) : Form :=
  let (least, most) :=
    if isWeightless body then (min least 1, some (min (most.getD 1) 1)) else (least, most)
  if most = some 0 then .empty
  else if least = 1 ∧ most = some 1 then body
  else .repetition least most lazy body

mutual

/-- Whether every match starts with a test. -/
def startsWith (test : Look) : Form → Bool
  | .look l => l == test
  | .repetition least _ _ body => 0 < least && startsWith test body
  | .capture body => startsWith test body
  | .concat parts => anyStartsWith test parts
  | .alternation options => allStartWith test options
  | _ => false

/-- Whether every match of parts one after the other starts with a test. -/
def anyStartsWith (test : Look) : List Form → Bool
  | [] => false
  | form :: rest => startsWith test form || (isWeightless form && anyStartsWith test rest)

/-- Whether every match of any option starts with a test. -/
def allStartWith (test : Look) : List Form → Bool
  | [] => true
  | form :: rest => startsWith test form && allStartWith test rest

end

mutual

/-- The form with the order of its parts reversed. -/
def reverse : Form → Form
  | .repetition least most lazy body => .repetition least most lazy (reverse body)
  | .capture body => .capture (reverse body)
  | .concat parts => .concat (reverseEach parts).reverse
  | .alternation options => .alternation (reverseEach options)
  | form => form

/-- The forms with the orders of their parts reversed. -/
def reverseEach : List Form → List Form
  | [] => []
  | form :: rest => reverse form :: reverseEach rest

end

end Form

end EndpointMonitor.Pattern
