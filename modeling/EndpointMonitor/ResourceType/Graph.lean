import EndpointMonitor.ResourceType.Basic
import EndpointMonitor.Log
import EndpointMonitor.Settings.Validation
import EndpointMonitor.Text.Quoted

/-!
# The type graph of an endpoint

The types of the sets an endpoint uses form a graph: a type may declare several parents. A
type is kept if a chain of declared parents leads from it to a type without parents, through
types of enabled sets only.
-/

namespace EndpointMonitor

/-- A type together with the set that declares it. -/
structure Declaration (L : Type) where
  setName : String
  enabled : Bool
  type : ResourceType L
  deriving Inhabited

namespace Declaration

variable {L : Type}

/-- The declarations of the sets in use, in order; without a selection all sets are in use. -/
def ofSets (sets : List (TypeSet L)) (use : Option (List String)) : List (Declaration L) :=
  let used := sets.filter fun s =>
    match use with
    | none => true
    | some names => names.contains s.name
  used.flatMap fun s => s.types.map fun t => ⟨s.name, s.enabled, t⟩

/-- The declarations before the first whose type name occurs earlier. -/
def untilRepeated : List String → List (Declaration L) → List (Declaration L)
  | _, [] => []
  | seen, d :: rest =>
    if seen.contains d.type.name then []
    else d :: untilRepeated (d.type.name :: seen) rest

end Declaration

namespace ResourceType

variable {L : Type}

/-- A type without the measurements whose interval is below a minimum. -/
def withoutShortIntervals (minMillis : UInt64) (t : ResourceType L) : ResourceType L :=
  { t with
    metrics := t.metrics.filter fun m => minMillis ≤ m.interval.millis
    avails := t.avails.filter fun a => minMillis ≤ a.interval.millis }

end ResourceType

/-- The types an endpoint works with, in the order of their names. -/
structure TypeGraph (L : Type) where
  types : List (ResourceType L)
  deriving Inhabited

namespace TypeGraph

variable {L : Type}

/-- The types of the enabled sets in use, in the order of their names. -/
def candidates (minMillis : UInt64) (ds : List (Declaration L)) : List (ResourceType L) :=
  ((ds.filter (·.enabled)).map fun d => d.type.withoutShortIntervals minMillis).mergeSort
    fun s t => s.name ≤ t.name

/-- The names of the types of disabled sets in use. -/
def disabledNames (ds : List (Declaration L)) : List String :=
  (ds.filter fun d => !d.enabled).map (·.type.name)

/-- Add the types with a parent among the given names. -/
def grow (types : List (ResourceType L)) (names : List String) : List String :=
  (types.filter fun t => t.isRoot || t.parents.any names.contains).map (·.name)

/-- The names found after a number of rounds. -/
def reached (types : List (ResourceType L)) : Nat → List String
  | 0 => []
  | n + 1 => grow types (reached types n)

/-- The names of the types that lead up to a type without parents. A chain of parents without
repetition is no longer than the list of types, so that many rounds find them all. -/
def reachable (types : List (ResourceType L)) : List String :=
  reached types types.length

/-- The candidates that lead up to a type without parents. -/
def keptTypes (types : List (ResourceType L)) : List (ResourceType L) :=
  let names := reachable types
  types.filter fun t => names.contains t.name

/-- The type graph of the sets in use. -/
def build (sets : List (TypeSet L)) (use : Option (List String)) (minMillis : UInt64) :
    Except ConfigError (TypeGraph L) :=
  let ds := Declaration.ofSets sets use
  match firstRepeated? [] (ds.map (·.type.name)) with
  | some name => .error (.duplicateResourceType name)
  | none => .ok ⟨keptTypes (candidates minMillis ds)⟩

/-- The type of a name. -/
def get? (g : TypeGraph L) (name : String) : Option (ResourceType L) :=
  g.types.find? fun t => t.name == name

/-- The number of types. -/
def size (g : TypeGraph L) : Nat :=
  g.types.length

/-- The types without parents. -/
def rootTypes (g : TypeGraph L) : List (ResourceType L) :=
  g.types.filter (·.isRoot)

/-- The types that declare the named type as a parent, each as often as it declares it. -/
def childTypes (g : TypeGraph L) (name : String) : List (ResourceType L) :=
  if (g.get? name).isSome then
    g.types.flatMap fun t => List.replicate (t.parents.count name) t
  else []

/-- List the types of a queue and what lies below them, each name of `unseen` once. -/
def visit (g : TypeGraph L) (unseen : List String) (queue : List (ResourceType L)) :
    List (ResourceType L) :=
  match queue with
  | [] => []
  | t :: rest =>
    if _h : t.name ∈ unseen then
      t :: visit g (unseen.erase t.name) (rest ++ g.childTypes t.name)
    else visit g unseen rest
termination_by (unseen.length, queue.length)
decreasing_by
  · have := List.length_erase_of_mem ‹t.name ∈ unseen›
    have := List.length_pos_of_mem ‹t.name ∈ unseen›
    apply Prod.Lex.left
    omega
  · apply Prod.Lex.right
    simp

/-- All types, the roots first and then level by level. -/
def breadthFirst (g : TypeGraph L) : List (ResourceType L) :=
  visit g (g.types.map (·.name)) g.rootTypes

/-- The measurements of a type that are left out because they are too frequent. -/
def shortIntervalLog (minMillis : UInt64) (t : ResourceType L) : List LogLine :=
  let line (noun name : String) (interval : Interval) : LogLine :=
    ⟨.warn, noun ++ " [" ++ name ++ "] of type [" ++ t.name ++ "] has interval " ++
      interval.text ++ " below the minimum of " ++ toString minMillis ++ "ms, excluding it"⟩
  ((t.metrics.filter fun m => m.interval.millis < minMillis).map fun m =>
      line "Metric" m.name m.interval) ++
    (t.avails.filter fun a => a.interval.millis < minMillis).map fun a =>
      line "Avail" a.name a.interval

/-- What is reported about a declaration. -/
def declarationLog (minMillis : UInt64) (d : Declaration L) : List LogLine :=
  if d.enabled then shortIntervalLog minMillis d.type
  else [⟨.debug, "Type [" ++ d.type.name ++ "] belongs to disabled type set [" ++ d.setName ++ "]"⟩]

/-- The parents of the candidates that no set in use declares. -/
def unknownParentLog (types : List (ResourceType L)) (disabled : List String) : List LogLine :=
  types.flatMap fun t => (t.parents.filter fun p =>
      !(types.any fun u => u.name == p) && !disabled.contains p).map fun p =>
    ⟨.debug, "Type [" ++ t.name ++ "] declares unknown parent type [" ++ p ++ "]"⟩

/-- The candidates that are not kept. -/
def excludedLog (types : List (ResourceType L)) (disabled : List String) : List LogLine :=
  let names := reachable types
  (types.filter fun t => !names.contains t.name).map fun t =>
    if t.parents.any disabled.contains then
      ⟨.debug, "Type [" ++ t.name ++ "] is excluded because its parent types are disabled"⟩
    else
      ⟨.warn, "Type [" ++ t.name ++ "] is excluded because none of its parent types " ++
        Text.quotedList t.parents ++ " can be resolved"⟩

/-- The roots without anything to collect. -/
def idleRootLog (types : List (ResourceType L)) : List LogLine :=
  (types.filter fun t => t.isRoot && t.enabledCount == 0).map fun t =>
    ⟨.info, "Root type [" ++ t.name ++ "] has no enabled measurements"⟩

/-- The selected sets that do not exist. -/
def undefinedSetLog (sets : List (TypeSet L)) (use : Option (List String)) : List LogLine :=
  ((use.getD []).filter fun name => !(sets.any fun s => s.name == name)).map fun name =>
    ⟨.warn, "Type set [" ++ name ++ "] is referenced but not defined, ignoring it"⟩

/-- What is reported while a type graph is built; after a repeated type nothing more is. -/
def buildLog (sets : List (TypeSet L)) (use : Option (List String)) (minMillis : UInt64) :
    List LogLine :=
  let ds := Declaration.ofSets sets use
  let start := undefinedSetLog sets use ++
    (Declaration.untilRepeated [] ds).flatMap (declarationLog minMillis)
  if (firstRepeated? [] (ds.map (·.type.name))).isSome then start
  else
    let types := candidates minMillis ds
    let disabled := disabledNames ds
    start ++ unknownParentLog types disabled ++ excludedLog types disabled ++ idleRootLog types

end TypeGraph

end EndpointMonitor
