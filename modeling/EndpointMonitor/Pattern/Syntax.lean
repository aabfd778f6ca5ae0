/-!
# The syntax of regular expressions

A pattern is read into a tree that keeps every construct as it is written. Flags are part of
the tree, because a flag group changes the meaning of what follows it up to the end of the
enclosing group.
-/

namespace EndpointMonitor.Pattern

/-- A flag of a pattern. -/
inductive Flag where
  | ignoreCase
  | multiLine
  | dotAll
  | swapGreed
  | unicode
  | carriageReturn
  | verbose
  deriving DecidableEq

/-- An item of a flag group: flags after a negation are switched off. -/
inductive FlagItem where
  | negation
  | flag (f : Flag)
  deriving DecidableEq

/-- A test of the place between two characters. -/
inductive Anchor where
  | lineStart
  | lineEnd
  | textStart
  | textEnd
  | wordBoundary
  | notWordBoundary
  | wordStart
  | wordEnd
  | wordStartHalf
  | wordEndHalf
  deriving DecidableEq

/-- A class with a one-letter escape. -/
inductive Shorthand where
  | digit
  | space
  | word
  deriving DecidableEq

/-- How a character is written. Two hexadecimal digits stand for a byte when Unicode is off. -/
structure Literal where
  char : Char
  asByte : Bool
  deriving DecidableEq

/-- The name of a property: the name of a set, or a property with one of its values. -/
inductive PropertyName where
  | set (name : String)
  | value (property value : String)
  deriving DecidableEq

/-- A single item of a pattern or of a class. -/
inductive Atom where
  | literal (l : Literal)
  | shorthand (kind : Shorthand) (negated : Bool)
  | property (name : PropertyName) (negated : Bool)
  | anchor (a : Anchor)
  deriving DecidableEq

/-- An operation on two classes. -/
inductive ClassOp where
  | intersection
  | difference
  | symmetricDifference
  deriving DecidableEq

/-- The contents of a bracketed class. -/
inductive ClassSet where
  | literal (l : Literal)
  | range (low high : Literal)
  | named (name : String) (negated : Bool)
  | shorthand (kind : Shorthand) (negated : Bool)
  | property (name : PropertyName) (negated : Bool)
  | bracketed (negated : Bool) (body : ClassSet)
  | union (items : List ClassSet)
  | operation (op : ClassOp) (left right : ClassSet)

/-- How often a part is repeated, and whether it is repeated as seldom as possible. -/
structure Times where
  least : Nat
  most : Option Nat
  lazy : Bool
  deriving DecidableEq

/-- A pattern. A group may keep the text that it matches. -/
inductive Ast where
  | empty
  | flags (items : List FlagItem)
  | atom (a : Atom)
  | dot
  | classSet (negated : Bool) (body : ClassSet)
  | repetition (times : Times) (body : Ast)
  | group (captures : Bool) (flags : List FlagItem) (body : Ast)
  | alternation (options : List Ast)
  | concat (parts : List Ast)

end EndpointMonitor.Pattern
