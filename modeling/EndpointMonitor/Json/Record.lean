import EndpointMonitor.Json.Basic

/-!
# Records in documents

A record is an object, whose unknown fields are ignored, or a list of its fields in order. A
field without a default has to be there, and every field has to have its type: only an optional
field may be `null`.
-/

namespace EndpointMonitor

/-- The two kinds of documents. They differ in what may stand next to the name of a choice that
is written as an object, and in whether a list may be longer than its record. -/
inductive DocumentKind where
  | json
  | toml
  deriving DecidableEq

namespace Decoding

/-- The fields of a record, by name or by position. -/
inductive Fields where
  | named (value : Json)
  | positional (items : List Json)

/-- The fields of a value that stands for a record with a number of fields. -/
def fieldsOf (kind : DocumentKind) (size : Nat) : Json → Option Fields
  | .obj fields => some (.named (.obj fields))
  | .arr items => if kind = .json ∧ size < items.length then none else some (.positional items)
  | _ => none

/-- The value of a field. -/
def Fields.get? (f : Fields) (position : Nat) (name : String) : Option Json :=
  match f with
  | .named value => value.field? name
  | .positional items => items[position]?

/-- A field that has to be there. -/
def required {α : Type} (f : Fields) (position : Nat) (name : String)
    (decode : Json → Option α) : Option α :=
  (f.get? position name).bind decode

/-- A field with a default. -/
def defaulted {α : Type} (f : Fields) (position : Nat) (name : String) (fallback : α)
    (decode : Json → Option α) : Option α :=
  match f.get? position name with
  | none => some fallback
  | some value => decode value

/-- A value that may be `null`. -/
def nullable {α : Type} (decode : Json → Option α) : Json → Option (Option α)
  | .null => some none
  | value => (decode value).map some

/-- A list of values. -/
def list {α : Type} (decode : Json → Option α) (value : Json) : Option (List α) :=
  value.items?.bind fun items => items.mapM decode

/-- A choice by name; the name may also be the only field of an object. -/
def choice {α : Type} (kind : DocumentKind) (ofName? : String → Option α) : Json → Option α
  | .str name => ofName? name
  | .obj [(name, payload)] =>
    let isUnit := match kind, payload with
      | .json, .null => true
      | .toml, .obj [] => true
      | .toml, .arr [] => true
      | _, _ => false
    if isUnit then ofName? name else none
  | _ => none

end Decoding

end EndpointMonitor
