import EndpointMonitor.Location.Fault
import EndpointMonitor.Text.Split

/-!
# Locations of a management model

A location addresses one node of an endpoint, or a set of nodes when it is a pattern. Each
protocol has its own locations; everything above them is written against this interface.
-/

namespace EndpointMonitor

/-- The locations of one protocol. -/
class Location (L : Type) extends Ord L where
  decEq : DecidableEq L
  /-- The location that resolves to its base. -/
  root : L
  read : String → Except LocationFault L
  text : L → String
  /-- Whether the location may address many nodes. -/
  isPattern : L → Bool
  /-- Whether a query addresses a candidate. -/
  covers : L → L → Bool
  /-- Whether the second location lies strictly below the first. -/
  isAbove : L → L → Bool
  /-- The value the second location has in place of the first wildcard of the first. -/
  wildcardValue : L → L → Option String
  /-- The name of a resource from a template, its location and its endpoint's name. -/
  nameFrom : String → L → String → String
  /-- Resolve the second location against the first. -/
  absolutize : L → L → L

instance {L : Type} [Location L] : DecidableEq L :=
  Location.decEq

namespace Location

variable {L : Type} [Location L]

/-- The value that stands in a concrete location for the first wildcard of a pattern. -/
def findWildcard (pattern single : L) : Except AccessError String :=
  match wildcardValue pattern single with
  | some value => .ok value
  | none => .error (.mismatch (text single) (text pattern))

/-- The token that stands for the name of the endpoint in a template. -/
def endpointToken : List Char :=
  ['%', '_', 'M', 'a', 'n', 'a', 'g', 'e', 'd', 'S', 'e', 'r', 'v', 'e', 'r',
    'N', 'a', 'm', 'e', '%']

/-- The token that stands for the value of a key in a template. -/
def keyToken (key : String) : List Char :=
  '%' :: key.toList ++ ['%']

end Location

/-- An attribute of a node, possibly narrowed to one field of its value. -/
structure AttributeLocation (L : Type) where
  node : L
  name : String
  field : Option String
  deriving DecidableEq, Inhabited

namespace AttributeLocation

variable {L : Type}

/-- The attribute given as `name` or `name#field`. -/
def ofReference (node : L) (reference : String) : AttributeLocation L :=
  match Text.cutFirst '#' reference with
  | some (name, field) => ⟨node, name, some field⟩
  | none => ⟨node, reference, none⟩

/-- The text of an attribute location. -/
def text [Location L] (a : AttributeLocation L) : String :=
  match a.field with
  | some field => Location.text a.node ++ ":" ++ a.name ++ "#" ++ field
  | none => Location.text a.node ++ ":" ++ a.name

/-- Resolve the node of an attribute against a base. -/
def absolutize [Location L] (base : L) (a : AttributeLocation L) : AttributeLocation L :=
  { a with node := Location.absolutize base a.node }

end AttributeLocation

end EndpointMonitor
