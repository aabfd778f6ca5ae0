import EndpointMonitor.Location.Segment
import EndpointMonitor.Text.Blank

/-!
# Platform paths

A path such as `[Operating System=myhost][File Store=/home]` names a node of the host by the
types and names on the way to it. The empty path resolves to its base.
-/

namespace EndpointMonitor

/-- The path of a node of the host platform; a key is a type and its value a name. -/
structure PlatformPath where
  segments : List Segment
  deriving DecidableEq, Inhabited

namespace PlatformPath

instance : Ord PlatformPath :=
  ⟨compareOn PlatformPath.segments⟩

/-- A segment as it is written in a path. -/
def segmentChars (s : Segment) : List Char :=
  '[' :: s.key.toList ++ '=' :: s.value.toList ++ [']']

/-- The text of a path. -/
def text (p : PlatformPath) : String :=
  String.ofList (p.segments.flatMap segmentChars)

/-- Read one segment of the path `text`. -/
def readSegment (text : List Char) (piece : List Char) : Except LocationFault Segment :=
  match Text.splitFirst '=' piece with
  | some (key, name) =>
    if key.isEmpty ∨ name.isEmpty then
      .error (.badSegment (String.ofList piece) (String.ofList text))
    else .ok ⟨String.ofList key, String.ofList name⟩
  | none => .error (.badSegment (String.ofList piece) (String.ofList text))

/-- The text between an opening and a closing bracket. -/
def inner? : List Char → Option (List Char)
  | '[' :: rest => if rest.getLast? = some ']' then some rest.dropLast else none
  | _ => none

/-- Read the characters of a path without blanks at its ends. -/
def readChars (cs : List Char) : Except LocationFault PlatformPath :=
  if cs.isEmpty then .ok ⟨[]⟩
  else
    match inner? cs with
    | none => .error (.notAPath (String.ofList cs))
    | some inner =>
      let (piece, pieces) := Text.splitOnText [']', '['] inner
      ((piece :: pieces).mapM (readSegment cs)).map PlatformPath.mk

/-- Read a path. -/
def read (s : String) : Except LocationFault PlatformPath :=
  readChars (Text.trim s.toList)

/-- The name a template gives to the resource at a path; `%s` is the name of the last segment. -/
def nameFrom (template : String) (p : PlatformPath) (endpoint : String) : String :=
  let named := Text.replaceAll Location.endpointToken endpoint.toList template.toList
  let named := Location.fillKeys p.segments named
  match p.segments.getLast? with
  | some last => String.ofList (Text.replaceAll ['%', 's'] last.value.toList named)
  | none => String.ofList named

/-- Append a path to a base. -/
def absolutize (base p : PlatformPath) : PlatformPath :=
  ⟨base.segments ++ p.segments⟩

instance : Location PlatformPath where
  decEq := inferInstance
  root := ⟨[]⟩
  read := read
  text := text
  isPattern p := Path.isPattern p.segments
  covers q c := Path.covers q.segments c.segments
  isAbove p c := Path.isAbove p.segments c.segments
  wildcardValue q c := Path.wildcardValue q.segments c.segments
  nameFrom := nameFrom
  absolutize := absolutize

end PlatformPath

end EndpointMonitor
