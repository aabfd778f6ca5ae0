import EndpointMonitor.Pattern.Expr

/-!
# Glob patterns over bytes

A glob is matched against the bytes of a text: `?` stands for one byte and `*` for any bytes.
`[..]`, `[!..]` and `[^..]` are byte classes, `{a,b}` lists alternatives, a backslash takes the
next character literally, and `**` next to slashes stands for whole path components.
-/

namespace EndpointMonitor.Pattern

/-- A part of a glob. -/
inductive GlobToken where
  | literal (c : Char)
  | anyByte
  | anyBytes
  | leadingDirs
  | trailingPath
  | middleDirs
  | byteClass (negated : Bool) (ranges : List (Char × Char))
  | alternatives (options : List (List GlobToken))

namespace Glob

/-- The parts read so far in one open alternative list, or at the top level. The lists are in
reverse order of reading. -/
structure Frame where
  finished : List (List GlobToken)
  current : List GlobToken

/-- The innermost frame and the frames around it. -/
structure Reading where
  inner : Frame
  outer : List Frame

/-- Append a part to the innermost frame. -/
def Reading.push (r : Reading) (t : GlobToken) : Reading :=
  { r with inner := { r.inner with current := t :: r.inner.current } }

/-- Read the items of a class up to its closing bracket. A range may not run backwards. -/
def readClass : List Char → List (Char × Char) → (first inRange : Bool) →
    Option (List (Char × Char) × List Char)
  | [], _, _, _ => none
  | c :: rest, ranges, first, inRange =>
    if c = ']' ∧ !first then
      let ranges := if inRange then ('-', '-') :: ranges else ranges
      some (ranges.reverse, rest)
    else if c = '-' ∧ !first ∧ !inRange then readClass rest ranges false true
    else if inRange then
      match ranges with
      | (low, _) :: others =>
        if c < low then none else readClass rest ((low, c) :: others) false false
      | [] => none
    else readClass rest ((c, c) :: ranges) false false

theorem readClass_length {cs : List Char} {ranges : List (Char × Char)} {first inRange : Bool}
    {out : List (Char × Char)} {rest : List Char}
    (h : readClass cs ranges first inRange = some (out, rest)) : rest.length < cs.length := by
  induction cs generalizing ranges first inRange with
  | nil => simp [readClass] at h
  | cons c cs ih =>
      unfold readClass at h
      split at h
      · simp at h; simp [← h.2]
      · split at h
        · have := ih h; simp; omega
        · split at h
          · split at h
            · split at h
              · simp at h
              · have := ih h; simp; omega
            · simp at h
          · have := ih h; simp; omega

/-- The reading after a double star: the parts, the text that follows, and its last character. -/
structure AfterStars where
  reading : Reading
  rest : List Char
  last : Char

/-- What a double star stands for, from the character before it, the parts before it, and
whether it stands inside a list of alternatives. -/
def readDoubleStar (prev : Option Char) (r : Reading) (rest : List Char) : AfterStars :=
  let nested := !r.outer.isEmpty
  let plain : AfterStars := ⟨(r.push .anyBytes).push .anyBytes, rest, '*'⟩
  if r.inner.current.isEmpty then
    match rest with
    | [] => ⟨r.push .leadingDirs, [], '*'⟩
    | '/' :: more => ⟨r.push .leadingDirs, more, '/'⟩
    | _ => plain
  else if prev ≠ some '/' ∧ (!nested ∨ (prev ≠ some ',' ∧ prev ≠ some '{')) then plain
  else
    let replace (isSuffix : Bool) : Reading :=
      match r.inner.current with
      | [] => r
      | last :: others =>
        let kept := match last with
          | .leadingDirs => .leadingDirs
          | .trailingPath => .trailingPath
          | _ => if isSuffix then .trailingPath else .middleDirs
        { r with inner := { r.inner with current := kept :: others } }
    match rest with
    | [] => ⟨replace true, [], '*'⟩
    | '/' :: more => ⟨replace false, more, '/'⟩
    | c :: _ => if nested && (c = ',' || c = '}') then ⟨replace true, rest, '*'⟩ else plain

theorem readDoubleStar_length (prev : Option Char) (r : Reading) (rest : List Char) :
    (readDoubleStar prev r rest).rest.length ≤ rest.length := by
  unfold readDoubleStar
  grind

/-- Whether a class starts with a negation sign, and the text after that sign. -/
def negation : List Char → Bool × List Char
  | '!' :: rest => (true, rest)
  | '^' :: rest => (true, rest)
  | rest => (false, rest)

theorem negation_length (cs : List Char) : (negation cs).2.length ≤ cs.length := by
  unfold negation
  grind

/-- Read the parts of a glob. -/
def readParts (prev : Option Char) (r : Reading) (cs : List Char) : Option (List GlobToken) :=
  match cs with
  | [] => if r.outer.isEmpty then some r.inner.current.reverse else none
  | '?' :: rest => readParts (some '?') (r.push .anyByte) rest
  | '*' :: '*' :: rest =>
    let after := readDoubleStar prev r rest
    readParts (some after.last) after.reading after.rest
  | '*' :: rest => readParts (some '*') (r.push .anyBytes) rest
  | '[' :: rest =>
    match _h : readClass (negation rest).2 [] true false with
    | some (ranges, more) =>
      readParts (some ']') (r.push (.byteClass (negation rest).1 ranges)) more
    | none => none
  | '{' :: rest => readParts (some '{') ⟨⟨[], []⟩, r.inner :: r.outer⟩ rest
  | '}' :: rest =>
    match r.outer with
    | [] => none
    | frame :: outer =>
      let options := (r.inner.current.reverse :: r.inner.finished).reverse
      let around : Reading := ⟨frame, outer⟩
      readParts (some '}') (around.push (.alternatives options)) rest
  | ',' :: rest =>
    if r.outer.isEmpty then readParts (some ',') (r.push (.literal ',')) rest
    else
      let frame : Frame := ⟨r.inner.current.reverse :: r.inner.finished, []⟩
      readParts (some ',') { r with inner := frame } rest
  | '\\' :: c :: rest => readParts (some c) (r.push (.literal c)) rest
  | ['\\'] => none
  | c :: rest => readParts (some c) (r.push (.literal c)) rest
termination_by cs.length
decreasing_by
  all_goals try grind
  · have := readDoubleStar_length prev r rest; simp; omega
  · have := readClass_length (by assumption)
    have := negation_length rest
    simp; omega

/-- A byte equal to the given one. -/
def byte (b : UInt8) : Expr UInt8 :=
  .symbol (· == b)

/-- Any byte. -/
def anyByte : Expr UInt8 :=
  .symbol fun _ => true

/-- Any bytes. -/
def anyBytes : Expr UInt8 :=
  .star anyByte

/-- The bytes of a character. -/
def bytesOf (c : Char) : List UInt8 :=
  (String.singleton c).toUTF8.toList

/-- The slash. -/
def slash : Expr UInt8 :=
  byte 47

/-- The byte ranges a character range contributes to a class: the range joins the last byte
of its lower end with the first byte of its upper end, and the other bytes stand alone. -/
def byteRanges (low high : Char) : List (UInt8 × UInt8) :=
  if low = high then (bytesOf low).map fun b => (b, b)
  else
    let front := bytesOf low
    let back := bytesOf high
    match front.getLast?, back.head? with
    | some a, some b =>
      front.dropLast.map (fun b => (b, b)) ++ (a, b) :: back.tail.map fun b => (b, b)
    | _, _ => []

/-- Whether some range holds the byte. -/
def inRanges (ranges : List (Char × Char)) (b : UInt8) : Bool :=
  (ranges.flatMap fun (low, high) => byteRanges low high).any fun (low, high) =>
    low ≤ b && b ≤ high

mutual

/-- The expression of one part, or `none` for a list of alternatives that are all empty. -/
def tokenExpr : GlobToken → Option (Expr UInt8)
  | .literal c => some (.sequence ((bytesOf c).map byte))
  | .anyByte => some anyByte
  | .anyBytes => some anyBytes
  | .leadingDirs => some (.alt (.optional slash) (.seq anyBytes slash))
  | .trailingPath => some (.seq slash anyBytes)
  | .middleDirs => some (.alt slash (.seq slash (.seq anyBytes slash)))
  | .byteClass negated ranges => some (.symbol fun b => inRanges ranges b != negated)
  | .alternatives options =>
    match optionExprs options with
    | [] => none
    | exprs => some (.oneOf exprs)

/-- The expressions of the parts of a list that stand for something. -/
def tokenExprs : List GlobToken → List (Expr UInt8)
  | [] => []
  | t :: rest =>
    match tokenExpr t with
    | some e => e :: tokenExprs rest
    | none => tokenExprs rest

/-- The expressions of the alternatives that are not empty. -/
def optionExprs : List (List GlobToken) → List (Expr UInt8)
  | [] => []
  | option :: rest =>
    match tokenExprs option with
    | [] => optionExprs rest
    | exprs => .sequence exprs :: optionExprs rest

end

/-- The expression of a whole glob; a lone double star matches everything. -/
def expr : List GlobToken → Expr UInt8
  | [.leadingDirs] => anyBytes
  | tokens => .sequence (tokenExprs tokens)

/-- Compile a glob, or `none` if it is malformed. -/
def compile (glob : String) : Option (Expr UInt8) :=
  (readParts none ⟨⟨[], []⟩, []⟩ glob.toList).map expr

/-- Whether a compiled glob matches a text. -/
def isMatch (e : Expr UInt8) (text : String) : Bool :=
  e.spansAll text.toUTF8.data

end Glob

end EndpointMonitor.Pattern
