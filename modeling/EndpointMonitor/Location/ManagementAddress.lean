import EndpointMonitor.Json.Printer
import EndpointMonitor.Location.Segment
import EndpointMonitor.Number.Radix
import EndpointMonitor.Text.Blank

/-!
# Management addresses

An address such as `/subsystem=datasources/data-source=*` names a node of a management model
by its path. A backslash takes the next character out of its role as a separator, so any text
can be a key or a value.
-/

namespace EndpointMonitor

/-- The path of a node in a management model; the empty path is the root. -/
structure ManagementAddress where
  segments : List Segment
  deriving DecidableEq, Inhabited

namespace ManagementAddress

instance : Ord ManagementAddress :=
  ⟨compareOn ManagementAddress.segments⟩

/-- A character with a backslash before it if it is a separator. -/
def escapeChar (c : Char) : List Char :=
  if c = '\\' ∨ c = '/' ∨ c = '=' then ['\\', c] else [c]

/-- A key or value as it is written in an address. -/
def escape (cs : List Char) : List Char :=
  cs.flatMap escapeChar

/-- A segment as it is written in an address. -/
def segmentChars (s : Segment) : List Char :=
  '/' :: escape s.key.toList ++ '=' :: escape s.value.toList

/-- The characters of an address. -/
def chars (a : ManagementAddress) : List Char :=
  if a.segments.isEmpty then ['/'] else a.segments.flatMap segmentChars

/-- The text of an address. -/
def text (a : ManagementAddress) : String :=
  String.ofList a.chars

/-- The pieces between unescaped slashes, with their escapes, or `none` if the text ends in
the middle of an escape. -/
def splitPath : List Char → Option (List Char × List (List Char))
  | [] => some ([], [])
  | '\\' :: rest =>
    match rest with
    | [] => none
    | c :: rest => (splitPath rest).map fun (piece, pieces) => ('\\' :: c :: piece, pieces)
  | '/' :: rest => (splitPath rest).map fun (piece, pieces) => ([], piece :: pieces)
  | c :: rest => (splitPath rest).map fun (piece, pieces) => (c :: piece, pieces)

/-- Remove the backslashes that escape a character. -/
def unescape : List Char → Option (List Char)
  | [] => some []
  | '\\' :: rest =>
    match rest with
    | [] => none
    | c :: rest => (unescape rest).map (c :: ·)
  | c :: rest => (unescape rest).map (c :: ·)

/-- The key and the value on the two sides of the first unescaped equals sign. -/
def splitSegment : List Char → Option (List Char × List Char)
  | [] => none
  | '\\' :: rest =>
    match rest with
    | [] => none
    | c :: rest => (splitSegment rest).map fun (key, value) => (c :: key, value)
  | '=' :: rest => (unescape rest).map fun value => ([], value)
  | c :: rest => (splitSegment rest).map fun (key, value) => (c :: key, value)

/-- Read one piece of the address `text`. -/
def readSegment (text : List Char) (piece : List Char) : Except LocationFault Segment :=
  match splitSegment piece with
  | none => .error (.notKeyValue (String.ofList piece) (String.ofList text))
  | some (key, value) =>
    if key.isEmpty ∨ value.isEmpty then .error (.emptyKeyOrValue (String.ofList text))
    else .ok ⟨String.ofList key, String.ofList value⟩

/-- Read the characters of an address without blanks at its ends. Empty pieces are skipped. -/
def readChars (cs : List Char) : Except LocationFault ManagementAddress :=
  if cs.isEmpty ∨ cs = ['/'] then .ok ⟨[]⟩
  else
    match splitPath cs with
    | none => .error (.danglingEscape (String.ofList cs))
    | some (piece, pieces) =>
      (((piece :: pieces).filter fun p => !p.isEmpty).mapM (readSegment cs)).map
        ManagementAddress.mk

/-- Read an address. -/
def read (s : String) : Except LocationFault ManagementAddress :=
  readChars (Text.trim s.toList)

/-- The address as a list of one-field JSON objects. -/
def toJson (a : ManagementAddress) : Json :=
  .arr (a.segments.map fun s => .obj [(s.key, .str s.value)])

/-- The segment of a JSON object: its first field, whose value is taken as text. -/
def segmentOfJson (element : Json) : Except LocationFault Segment :=
  match element with
  | .obj ((key, .str value) :: _) => .ok ⟨key, value⟩
  | .obj ((key, value) :: _) => .ok ⟨key, Json.render value⟩
  | _ => .error (.badAddressElement (Json.render element))

/-- Read an address from its JSON form. -/
def ofJson (address : Json) : Except LocationFault ManagementAddress :=
  match address with
  | .arr elements => (elements.mapM segmentOfJson).map ManagementAddress.mk
  | _ => .error (.notAnAddress (Json.render address))

/-- Keys and values in turn, as positions of a template count them. -/
def arguments (a : ManagementAddress) : List (List Char) :=
  a.segments.flatMap fun s => [s.key.toList, s.value.toList]

/-- The argument at a position that counts from one. -/
def argument? (args : List (List Char)) (position : Nat) : Option (List Char) :=
  if position = 0 then none else args[position - 1]?

/-- The token for the name of the endpoint that needs no closing percent sign. -/
def bareToken : List Char :=
  ['M', 'a', 'n', 'a', 'g', 'e', 'd', 'S', 'e', 'r', 'v', 'e', 'r', 'N', 'a', 'm', 'e']

/-- Put in the arguments: `%N` by position, `%-` for the last one, and the bare name token. -/
def substitutePositions (args : List (List Char)) (endpoint : List Char) (cs : List Char) :
    List Char :=
  match cs with
  | [] => []
  | '%' :: rest =>
    let ds := rest.takeWhile Char.isDigit
    if !ds.isEmpty then
      (argument? args (Radix.digitsToNat ds)).getD ('%' :: ds) ++
        substitutePositions args endpoint (rest.drop ds.length)
    else if rest.head? = some '-' then
      args.getLast?.getD [] ++ substitutePositions args endpoint rest.tail
    else if bareToken.isPrefixOf rest then
      endpoint ++ substitutePositions args endpoint (rest.drop bareToken.length)
    else '%' :: substitutePositions args endpoint rest
  | c :: rest => c :: substitutePositions args endpoint rest
termination_by cs.length
decreasing_by all_goals grind

/-- The name a template gives to the resource at an address. -/
def nameFrom (template : String) (a : ManagementAddress) (endpoint : String) : String :=
  let named := Text.replaceAll Location.endpointToken endpoint.toList template.toList
  String.ofList
    (substitutePositions a.arguments endpoint.toList (Location.fillKeys a.segments named))

/-- Append an address to a base; the root changes nothing on either side. -/
def absolutize (base a : ManagementAddress) : ManagementAddress :=
  ⟨base.segments ++ a.segments⟩

/-- The value of the first wildcard of an address that covers another. -/
def wildcardValue (pattern single : ManagementAddress) : Option String :=
  if Path.covers pattern.segments single.segments then
    Path.wildcardValue pattern.segments single.segments
  else none

instance : Location ManagementAddress where
  decEq := inferInstance
  root := ⟨[]⟩
  read := read
  text := text
  isPattern a := Path.isPattern a.segments
  covers q c := Path.covers q.segments c.segments
  isAbove p c := Path.isAbove p.segments c.segments
  wildcardValue := wildcardValue
  nameFrom := nameFrom
  absolutize := absolutize

end ManagementAddress

end EndpointMonitor
