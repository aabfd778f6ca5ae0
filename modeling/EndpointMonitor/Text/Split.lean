/-!
# Cutting and replacing in a text

The cuts keep every character except the separators. A replacement scans from the left,
never overlaps itself, and does not look at the text it has put in.
-/

namespace EndpointMonitor.Text

/-- The pieces of a text between the occurrences of a separator character. -/
def splitAll (sep : Char) : List Char → List Char × List (List Char)
  | [] => ([], [])
  | c :: rest =>
    let (piece, pieces) := splitAll sep rest
    if c = sep then ([], piece :: pieces) else (c :: piece, pieces)

/-- The pieces of `splitAll` as one list, which is never empty. -/
def pieces (sep : Char) (cs : List Char) : List (List Char) :=
  (splitAll sep cs).1 :: (splitAll sep cs).2

/-- The text before and after the first occurrence of a character. -/
def splitFirst (sep : Char) : List Char → Option (List Char × List Char)
  | [] => none
  | c :: rest =>
    if c = sep then some ([], rest)
    else (splitFirst sep rest).map fun (before, after) => (c :: before, after)

/-- The pieces of a text between the occurrences of a non-empty separator text. -/
def splitOnText (sep : List Char) (cs : List Char) : List Char × List (List Char) :=
  match cs with
  | [] => ([], [])
  | c :: rest =>
    if sep.isPrefixOf (c :: rest) && !sep.isEmpty then
      let (piece, pieces) := splitOnText sep (rest.drop (sep.length - 1))
      ([], piece :: pieces)
    else
      let (piece, pieces) := splitOnText sep rest
      (c :: piece, pieces)
termination_by cs.length
decreasing_by all_goals grind

/-- Replace the occurrences of a non-empty text, scanning from the left. -/
def replaceAll (target replacement : List Char) (cs : List Char) : List Char :=
  match cs with
  | [] => []
  | c :: rest =>
    if target.isPrefixOf (c :: rest) && !target.isEmpty then
      replacement ++ replaceAll target replacement (rest.drop (target.length - 1))
    else c :: replaceAll target replacement rest
termination_by cs.length
decreasing_by all_goals grind

/-- Whether a text occurs in another. -/
def occursIn (target : List Char) : List Char → Bool
  | [] => target.isEmpty
  | c :: rest => target.isPrefixOf (c :: rest) || occursIn target rest

/-- `splitFirst` on strings. -/
def cutFirst (sep : Char) (s : String) : Option (String × String) :=
  (splitFirst sep s.toList).map fun (before, after) => (String.ofList before, String.ofList after)

@[simp] theorem splitAll_nil (sep : Char) : splitAll sep [] = ([], []) := rfl

@[simp] theorem splitFirst_nil (sep : Char) : splitFirst sep [] = none := rfl

/-- A cut loses the separator only, and is made where it occurs first. -/
theorem splitFirst_eq_some_iff {sep : Char} {cs before after : List Char} :
    splitFirst sep cs = some (before, after) ↔ cs = before ++ sep :: after ∧ sep ∉ before := by
  induction cs generalizing before with
  | nil => simp
  | cons c rest ih =>
      by_cases h : c = sep
      · cases before <;> grind [splitFirst]
      · cases before with
        | nil => simp [splitFirst, h]
        | cons b before => cases hr : splitFirst sep rest <;> grind [splitFirst]

/-- Only a text without the separator cannot be cut. -/
theorem splitFirst_eq_none_iff {sep : Char} {cs : List Char} :
    splitFirst sep cs = none ↔ sep ∉ cs := by
  induction cs with
  | nil => simp
  | cons c rest ih => by_cases h : sep = c <;> simp_all [splitFirst, Ne.symm]

/-- No piece holds the separator. -/
theorem notMem_of_mem_pieces {sep : Char} {cs piece : List Char} (h : piece ∈ pieces sep cs) :
    sep ∉ piece := by
  induction cs generalizing piece with
  | nil => simp_all [pieces]
  | cons c rest ih => by_cases hc : c = sep <;> grind [pieces, splitAll]

/-- The pieces with the separator between them are the text. -/
theorem intercalate_pieces (sep : Char) (cs : List Char) :
    List.intercalate [sep] (pieces sep cs) = cs := by
  induction cs with
  | nil => rfl
  | cons c rest ih =>
      by_cases hc : c = sep
      · simp_all [pieces, splitAll, List.intercalate]
      · cases hs : (splitAll sep rest).2 <;> simp_all [pieces, splitAll, List.intercalate]

end EndpointMonitor.Text
