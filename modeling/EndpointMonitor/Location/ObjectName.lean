import EndpointMonitor.Location.Segment
import EndpointMonitor.Pattern.Glob
import EndpointMonitor.Text.Blank

/-!
# Object names

A name such as `java.lang:type=GarbageCollector,name=*` has a domain and key properties. The
properties are a set: they are kept sorted by key, each key once. A trailing `*` also allows
further properties. Names are absolute; only the empty name resolves to its base.
-/

namespace EndpointMonitor

/-- An object name, or a pattern for object names. -/
structure ObjectName where
  domain : String
  properties : List Segment
  openEnded : Bool
  sorted : properties.Pairwise (fun a b => a.key < b.key)
  deriving DecidableEq

namespace ObjectName

/-- The empty name. -/
def empty : ObjectName :=
  ⟨"", [], false, List.Pairwise.nil⟩

instance : Inhabited ObjectName :=
  ⟨empty⟩

instance : Ord ObjectName :=
  ⟨compareLex (compareOn ObjectName.domain)
    (compareLex (compareOn ObjectName.properties) (compareOn ObjectName.openEnded))⟩

/-- Whether this is the empty name. -/
def isEmpty (n : ObjectName) : Bool :=
  n.domain.isEmpty && n.properties.isEmpty && !n.openEnded

/-- Whether a domain or a value is a pattern. -/
def isWild (s : String) : Bool :=
  s.toList.any fun c => c == '*' || c == '?'

/-- Whether the name may stand for many names. -/
def isPattern (n : ObjectName) : Bool :=
  n.openEnded || isWild n.domain || n.properties.any fun p => isWild p.value

/-- The value of a key property. -/
def property? (n : ObjectName) (key : String) : Option String :=
  (n.properties.find? (·.key == key)).map (·.value)

/-- Put a property in its place, or `none` if its key is taken. -/
def insertProperty (s : Segment) : List Segment → Option (List Segment)
  | [] => some [s]
  | p :: rest =>
    if s.key < p.key then some (s :: p :: rest)
    else if s.key = p.key then none
    else (insertProperty s rest).map (p :: ·)

theorem mem_of_insertProperty {s : Segment} {ps qs : List Segment}
    (h : insertProperty s ps = some qs) {x : Segment} (hx : x ∈ qs) : x = s ∨ x ∈ ps := by
  induction ps generalizing qs with
  | nil => simp [insertProperty] at h; subst h; simpa using hx
  | cons p rest ih =>
      unfold insertProperty at h
      split at h
      · simp at h; subst h; simpa using hx
      · split at h
        · simp at h
        · obtain ⟨u, hu, rfl⟩ := Option.map_eq_some_iff.1 h
          rcases List.mem_cons.1 hx with rfl | hx
          · simp
          · rcases ih hu hx with h | h <;> simp [h]

theorem insertProperty_sorted {s : Segment} {ps qs : List Segment}
    (hps : ps.Pairwise (fun a b => a.key < b.key)) (h : insertProperty s ps = some qs) :
    qs.Pairwise (fun a b => a.key < b.key) := by
  induction ps generalizing qs with
  | nil => simp [insertProperty] at h; subst h; simp
  | cons p rest ih =>
      obtain ⟨hp, hrest⟩ := List.pairwise_cons.1 hps
      unfold insertProperty at h
      split at h
      · rename_i hlt
        simp at h; subst h
        refine List.pairwise_cons.2 ⟨fun x hx => ?_, hps⟩
        rcases List.mem_cons.1 hx with rfl | hx
        · exact hlt
        · exact String.lt_trans hlt (hp x hx)
      · split at h
        · simp at h
        · rename_i hnlt hne
          obtain ⟨u, hu, rfl⟩ := Option.map_eq_some_iff.1 h
          refine List.pairwise_cons.2 ⟨fun x hx => ?_, ih hrest hu⟩
          rcases mem_of_insertProperty hu hx with rfl | hx
          · exact Decidable.byContradiction fun h =>
              hne (String.le_antisymm (String.not_lt.1 h) (String.not_lt.1 hnlt))
          · exact hp x hx

/-- Add a property to a name, or `none` if its key is taken. -/
def insert? (n : ObjectName) (s : Segment) : Option ObjectName :=
  match h : insertProperty s n.properties with
  | some ps => some { n with properties := ps, sorted := insertProperty_sorted n.sorted h }
  | none => none

/-- The properties with commas between them, and the mark of an open end. -/
def propertyChars : List Segment → Bool → List Char
  | [], openEnded => if openEnded then ['*'] else []
  | [p], openEnded =>
    p.key.toList ++ '=' :: p.value.toList ++ if openEnded then [',', '*'] else []
  | p :: rest, openEnded =>
    p.key.toList ++ '=' :: p.value.toList ++ ',' :: propertyChars rest openEnded

/-- The characters of a name. -/
def chars (n : ObjectName) : List Char :=
  if n.isEmpty then [] else n.domain.toList ++ ':' :: propertyChars n.properties n.openEnded

/-- The text of a name. -/
def text (n : ObjectName) : String :=
  String.ofList n.chars

/-- Read one part of the key list of the name `text` into the name read so far. -/
def readPart (text : List Char) (n : ObjectName) (part : List Char) :
    Except LocationFault ObjectName :=
  if part = ['*'] then .ok { n with openEnded := true }
  else
    match Text.splitFirst '=' part with
    | none => .error (.notKeyValue (String.ofList part) (String.ofList text))
    | some (key, value) =>
      if key.isEmpty ∨ value.isEmpty then .error (.emptyKeyOrValue (String.ofList text))
      else
        match n.insert? ⟨String.ofList key, String.ofList value⟩ with
        | some n => .ok n
        | none => .error (.duplicateKey (String.ofList key) (String.ofList text))

/-- The parts of a key list without the blanks around them; empty parts are skipped. -/
def keyParts (cs : List Char) : List (List Char) :=
  ((Text.pieces ',' cs).map Text.trim).filter fun p => !p.isEmpty

/-- Read the characters of a name without blanks at its ends. -/
def readChars (cs : List Char) : Except LocationFault ObjectName :=
  if cs.isEmpty then .ok empty
  else
    match Text.splitFirst ':' cs with
    | none => .error (.noDomain (String.ofList cs))
    | some (domain, keyList) => do
      let start : ObjectName := { empty with domain := String.ofList domain }
      let n ← (keyParts keyList).foldlM (readPart cs) start
      if n.properties.isEmpty ∧ !n.openEnded then .error (.noKeyProperties (String.ofList cs))
      else return n

/-- Read a name. -/
def read (s : String) : Except LocationFault ObjectName :=
  readChars (Text.trim s.toList)

/-- Whether a domain or a value is allowed by a pattern. A pattern that is no well-formed glob
allows only itself. -/
def allows (pattern value : String) : Bool :=
  if isWild pattern then
    match Pattern.Glob.compile pattern with
    | some glob => Pattern.Glob.isMatch glob value
    | none => pattern == value
  else pattern == value

/-- Whether every property of a query allows the candidate's property of that key. -/
def propertiesCover (query candidate : ObjectName) : Bool :=
  query.properties.all fun p =>
    match candidate.property? p.key with
    | some value => allows p.value value
    | none => false

/-- Whether a query addresses a candidate. -/
def covers (query candidate : ObjectName) : Bool :=
  allows query.domain candidate.domain &&
  (query.openEnded || query.properties.length == candidate.properties.length) &&
  propertiesCover query candidate

/-- Whether the second name has more properties than the first, which allows it otherwise. -/
def isAbove (parent child : ObjectName) : Bool :=
  decide (parent.properties.length < child.properties.length) &&
  allows parent.domain child.domain && propertiesCover parent child

/-- The value of the first wildcard property of a name that covers another. -/
def wildcardValue (pattern single : ObjectName) : Option String :=
  if covers pattern single then
    (pattern.properties.find? fun p => isWild p.value).bind fun p => single.property? p.key
  else none

/-- Put in the values of the keys as long as the name has a token left. -/
def substituteKeys : List Segment → List Char → List Char
  | [], name => name
  | p :: rest, name =>
    if name.contains '%' then
      substituteKeys rest (Text.replaceAll (Location.keyToken p.key) p.value.toList name)
    else name

/-- The name a template gives to the resource of an object name. -/
def nameFrom (template : String) (n : ObjectName) (endpoint : String) : String :=
  let named := Text.replaceAll Location.endpointToken endpoint.toList template.toList
  String.ofList (substituteKeys n.properties named)

/-- Names are absolute, except the empty one. -/
def absolutize (base n : ObjectName) : ObjectName :=
  if n.isEmpty then base else n

instance : Location ObjectName where
  decEq := inferInstance
  root := empty
  read := read
  text := text
  isPattern := isPattern
  covers := covers
  isAbove := isAbove
  wildcardValue := wildcardValue
  nameFrom := nameFrom
  absolutize := absolutize

end ObjectName

end EndpointMonitor
