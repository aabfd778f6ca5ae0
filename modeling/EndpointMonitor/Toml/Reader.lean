import EndpointMonitor.Character.CodeSet
import EndpointMonitor.Toml.Scalar
import EndpointMonitor.Toml.Table

/-!
# Reading TOML documents

A document is a sequence of lines: a pair, a header of a table or of a list of tables, or
nothing, each with a comment behind it. The answer is the document as one JSON object, or
`none` if any line is malformed or defines something twice.
-/

namespace EndpointMonitor.Toml

/-- A blank within a line. -/
def isSpace (c : Char) : Bool :=
  c == ' ' || c == '\t'

/-- Drop the blanks at the front. -/
def skipSpace (cs : List Char) : List Char :=
  cs.dropWhile isSpace

/-- A character that stands for itself in a quoted text, and may stand in a comment. -/
def isPlain (c : Char) : Bool :=
  c == '\t' || (32 ≤ c.toNat && c.toNat != 127)

/-- The text after a line end, if there is one. -/
def newline? : List Char → Option (List Char)
  | '\n' :: rest => some rest
  | '\r' :: '\n' :: rest => some rest
  | _ => none

/-- Drop a comment, up to the end of its line. -/
def skipComment : List Char → List Char
  | '#' :: rest => rest.dropWhile isPlain
  | rest => rest

/-- The text after the rest of a line that holds only blanks and a comment. -/
def endOfLine (cs : List Char) : Option (List Char) :=
  match skipComment (skipSpace cs) with
  | [] => some []
  | rest => newline? rest

/-- Drop blanks, line ends and comments between the items of an array. -/
def skipLines : Nat → List Char → List Char
  | 0, cs => cs
  | fuel + 1, cs =>
    match skipComment (skipSpace cs) with
    | rest =>
      match newline? rest with
      | some more => skipLines fuel more
      | none => rest

/-- An escape, after its backslash. -/
def readEscape : List Char → Option (Char × List Char)
  | 'b' :: rest => some (Char.ofNat 8, rest)
  | 't' :: rest => some ('\t', rest)
  | 'n' :: rest => some ('\n', rest)
  | 'f' :: rest => some (Char.ofNat 12, rest)
  | 'r' :: rest => some ('\r', rest)
  | '"' :: rest => some ('"', rest)
  | '\\' :: rest => some ('\\', rest)
  | 'u' :: rest => do
    let (n, rest) ← readFixed 16 4 0 rest
    return (← charOf? n, rest)
  | 'U' :: rest => do
    let (n, rest) ← readFixed 16 8 0 rest
    return (← charOf? n, rest)
  | _ => none

/-- A text in quotes on one line, after the opening quote. -/
def readBasic : Nat → List Char → List Char → Option (String × List Char)
  | 0, _, _ => none
  | fuel + 1, acc, cs =>
    match cs with
    | [] => none
    | '"' :: rest => some (String.ofList acc.reverse, rest)
    | '\\' :: rest =>
      match readEscape rest with
      | some (c, rest) => readBasic fuel (c :: acc) rest
      | none => none
    | c :: rest => if isPlain c then readBasic fuel (c :: acc) rest else none

/-- A text in single quotes on one line, after the opening quote. -/
def readLiteral : List Char → List Char → Option (String × List Char)
  | _, [] => none
  | acc, c :: rest =>
    if c = '\'' then some (String.ofList acc.reverse, rest)
    else if isPlain c then readLiteral (c :: acc) rest
    else none

/-- Quotes at the end of a text on several lines: up to two of them belong to the text. -/
def closingQuotes (quote : Char) (cs : List Char) : Option (Nat × List Char) :=
  let n := (cs.takeWhile (· = quote)).length
  if n < 3 then none else some (min (n - 3) 2, cs.drop (min n 5))

/-- Drop the blanks and line ends after a backslash at the end of a line. -/
def skipFolded : Nat → List Char → List Char
  | 0, cs => cs
  | fuel + 1, cs =>
    match newline? (skipSpace cs) with
    | some rest => skipFolded fuel rest
    | none => skipSpace cs

/-- A text in quotes on several lines, after the opening quotes. -/
def readMultiBasic : Nat → List Char → List Char → Option (String × List Char)
  | 0, _, _ => none
  | fuel + 1, acc, cs =>
    match cs with
    | [] => none
    | '"' :: rest =>
      match closingQuotes '"' cs with
      | some (kept, rest) => some (String.ofList (acc.reverse ++ List.replicate kept '"'), rest)
      | none => readMultiBasic fuel ('"' :: acc) rest
    | '\\' :: rest =>
      match newline? (skipSpace rest) with
      | some more => readMultiBasic fuel acc (skipFolded (more.length + 1) more)
      | none =>
        match readEscape rest with
        | some (c, rest) => readMultiBasic fuel (c :: acc) rest
        | none => none
    | '\n' :: rest => readMultiBasic fuel ('\n' :: acc) rest
    | '\r' :: '\n' :: rest => readMultiBasic fuel ('\n' :: acc) rest
    | c :: rest => if isPlain c then readMultiBasic fuel (c :: acc) rest else none

/-- A text in single quotes on several lines, after the opening quotes. -/
def readMultiLiteral : Nat → List Char → List Char → Option (String × List Char)
  | 0, _, _ => none
  | fuel + 1, acc, cs =>
    match cs with
    | [] => none
    | '\'' :: rest =>
      match closingQuotes '\'' cs with
      | some (kept, rest) => some (String.ofList (acc.reverse ++ List.replicate kept '\''), rest)
      | none => readMultiLiteral fuel ('\'' :: acc) rest
    | '\n' :: rest => readMultiLiteral fuel ('\n' :: acc) rest
    | '\r' :: '\n' :: rest => readMultiLiteral fuel ('\n' :: acc) rest
    | c :: rest => if isPlain c then readMultiLiteral fuel (c :: acc) rest else none

/-- A line end directly after the opening quotes is not part of the text. -/
def afterOpening (cs : List Char) : List Char :=
  (newline? cs).getD cs

/-- A text value. -/
def readText (cs : List Char) : Option (String × List Char) :=
  match cs with
  | '"' :: '"' :: '"' :: rest => readMultiBasic (cs.length + 1) [] (afterOpening rest)
  | '\'' :: '\'' :: '\'' :: rest => readMultiLiteral (cs.length + 1) [] (afterOpening rest)
  | '"' :: rest => readBasic (cs.length + 1) [] rest
  | '\'' :: rest => readLiteral [] rest
  | _ => none

/-- A character of a key without quotes. -/
def isKeyChar (c : Char) : Bool :=
  c.isAlphanum || c == '_' || c == '-'

/-- One part of a key. -/
def readSimpleKey (cs : List Char) : Option (String × List Char) :=
  match cs with
  | '"' :: rest => readBasic (cs.length + 1) [] rest
  | '\'' :: rest => readLiteral [] rest
  | _ =>
    let key := cs.takeWhile isKeyChar
    if key.isEmpty then none else some (String.ofList key, cs.drop key.length)

/-- The deepest nesting of values, and the largest number of parts of a key. -/
def nestingLimit : Nat := 79

/-- A key with dots between its parts: the parts before the last one, the last one, and the
rest without blanks at its front. -/
def readKey : Nat → List Char → Option (List String × String × List Char)
  | 0, _ => none
  | fuel + 1, cs => do
    let (part, rest) ← readSimpleKey (skipSpace cs)
    match skipSpace rest with
    | '.' :: more =>
      let (path, key, rest) ← readKey fuel more
      return (part :: path, key, rest)
    | rest => return ([], part, rest)

/-- Whether a text starts like a date or a time. -/
def startsLikeMoment (cs : List Char) : Bool :=
  startsLikeDate cs || startsLikeTime cs

mutual

/-- A value; the depth bounds the nesting of arrays and inline tables, the fuel their length. -/
def readValue : Nat → Nat → List Char → Option (Json × List Char)
  | 0, _, _ => none
  | fuel + 1, depth, cs =>
    match cs with
    | '"' :: _ | '\'' :: _ => (readText cs).map fun (s, rest) => (.str s, rest)
    | '[' :: rest =>
      if depth = 0 then none
      else
        (readItems fuel (depth - 1) (skipLines (rest.length + 1) rest)).map
          fun (items, rest) => (.arr items, rest)
    | '\x7b' :: rest =>
      if depth = 0 then none
      else
        match skipSpace rest with
        | '\x7d' :: rest => some (.obj [], rest)
        | rest =>
          (readPairs fuel (depth - 1) rest []).map fun (entries, rest) =>
            ((Node.table ⟨false, false⟩ entries).toJson, rest)
    | 't' :: 'r' :: 'u' :: 'e' :: rest => some (.bool true, rest)
    | 'f' :: 'a' :: 'l' :: 's' :: 'e' :: rest => some (.bool false, rest)
    | _ => if startsLikeMoment cs then readMoment cs else readNumber cs

/-- The items of an array, up to its closing bracket. -/
def readItems : Nat → Nat → List Char → Option (List Json × List Char)
  | 0, _, _ => none
  | fuel + 1, depth, cs =>
    match cs with
    | ']' :: rest => some ([], rest)
    | _ => do
      let (item, rest) ← readValue fuel depth cs
      match skipLines (rest.length + 1) rest with
      | ']' :: rest => return ([item], rest)
      | ',' :: rest =>
        let (items, rest) ← readItems fuel depth (skipLines (rest.length + 1) rest)
        return (item :: items, rest)
      | _ => none

/-- The pairs of an inline table, up to its closing brace. -/
def readPairs : Nat → Nat → List Char → Entries → Option (Entries × List Char)
  | 0, _, _, _ => none
  | fuel + 1, depth, cs, entries => do
    let (path, key, rest) ← readKey nestingLimit cs
    match rest with
    | '=' :: rest =>
      let (value, rest) ← readValue fuel depth (skipSpace rest)
      let entries ← addPair path key (.value value) ⟨false, false⟩ entries
      match skipSpace rest with
      | '\x7d' :: rest => return (entries, rest)
      | ',' :: rest => readPairs fuel depth rest entries
      | _ => none
    | _ => none

end

/-- A header, after its opening brackets: the path, the key, and the text behind the closing
brackets. -/
def readHeader (closing : List Char) (cs : List Char) :
    Option (List String × String × List Char) := do
  let (path, key, rest) ← readKey nestingLimit cs
  if closing.isPrefixOf rest then return (path, key, rest.drop closing.length) else none

/-- Read the lines of a document into the tables read so far; `table` is the one that was
opened last. -/
def readLines : Nat → List String → Entries → List Char → Option Entries
  | 0, _, _, _ => none
  | fuel + 1, table, root, cs =>
    match skipSpace cs with
    | [] => some root
    | '[' :: '[' :: rest => do
      let (path, key, rest) ← readHeader [']', ']'] rest
      let root ← openTables path key root
      let rest ← endOfLine rest
      readLines fuel (path ++ [key]) root rest
    | '[' :: rest => do
      let (path, key, rest) ← readHeader [']'] rest
      let root ← openTable path key root
      let rest ← endOfLine rest
      readLines fuel (path ++ [key]) root rest
    | '#' :: rest => do
      let rest ← endOfLine ('#' :: rest)
      readLines fuel table root rest
    | rest =>
      match newline? rest with
      | some more => readLines fuel table root more
      | none => do
        let (path, key, rest) ← readKey nestingLimit rest
        match rest with
        | '=' :: rest =>
          let (value, rest) ← readValue (rest.length + 1) nestingLimit (skipSpace rest)
          let root ← addToTable table path key (.value value) root
          let rest ← endOfLine rest
          readLines fuel table root rest
        | _ => none

/-- Drop a byte order mark. -/
def dropMark : List Char → List Char
  | c :: rest => if c.toNat = 0xFEFF then rest else c :: rest
  | [] => []

/-- Read a document. -/
def parse? (text : String) : Option Json :=
  let cs := dropMark text.toList
  (readLines (cs.length + 1) [] [] cs).map fun root => Json.mkObj (entriesToJson root)

end EndpointMonitor.Toml
