import EndpointMonitor.Location.Basic

/-!
# Paths of key and value segments

A path addresses a node from the root down. A segment whose value is the wildcard stands for
every value of its key, so a path with wildcards addresses many nodes.
-/

namespace EndpointMonitor

/-- A key with its value. -/
structure Segment where
  key : String
  value : String
  deriving DecidableEq, Inhabited

namespace Segment

/-- Segments are ordered by key, then by value. -/
instance : Ord Segment :=
  ⟨compareLex (compareOn Segment.key) (compareOn Segment.value)⟩

/-- The value that stands for every value. -/
def wildcard : String := "*"

/-- Whether the segment stands for every value of its key. -/
def isWild (s : Segment) : Bool :=
  s.value == wildcard

/-- Whether a segment of a pattern allows the given segment. -/
def covers (pattern s : Segment) : Bool :=
  pattern.key == s.key && (pattern.isWild || pattern.value == s.value)

@[simp] theorem covers_self (s : Segment) : s.covers s = true := by
  simp [covers]

end Segment

namespace Location

/-- Put in the values of some keys, one key after the other. -/
def fillKeys (ps : List Segment) (text : List Char) : List Char :=
  ps.foldl (fun text p => Text.replaceAll (keyToken p.key) p.value.toList text) text

@[simp] theorem fillKeys_nil (text : List Char) : fillKeys [] text = text := rfl

@[simp] theorem fillKeys_cons (p : Segment) (ps : List Segment) (text : List Char) :
    fillKeys (p :: ps) text =
      fillKeys ps (Text.replaceAll (keyToken p.key) p.value.toList text) := rfl

end Location

namespace Path

/-- Whether some segment is a wildcard. -/
def isPattern (path : List Segment) : Bool :=
  path.any Segment.isWild

/-- Whether a path addresses another of the same length, segment by segment. -/
def covers : List Segment → List Segment → Bool
  | [], [] => true
  | p :: ps, s :: ss => p.covers s && covers ps ss
  | _, _ => false

/-- Whether a path addresses a proper ancestor of another. -/
def isAbove : List Segment → List Segment → Bool
  | [], _ :: _ => true
  | p :: ps, s :: ss => p.covers s && isAbove ps ss
  | _, _ => false

/-- The value in place of the first wildcard, if the segment there has the same key. -/
def wildcardValue : List Segment → List Segment → Option String
  | p :: ps, s :: ss =>
    if p.isWild then (if p.key = s.key then some s.value else none) else wildcardValue ps ss
  | _, _ => none

@[simp] theorem covers_self (path : List Segment) : covers path path = true := by
  induction path with
  | nil => rfl
  | cons s rest ih => simp [covers, ih]

end Path

end EndpointMonitor
