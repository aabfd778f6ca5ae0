/-!
# JSON values

Objects keep their fields sorted by key, and a number keeps its kind: an integer of the
64-bit ranges, or a double.
-/

namespace EndpointMonitor

/-- A JSON number. An integer and a double of the same value are different numbers. -/
inductive JsonNumber where
  | int (value : Int)
  | float (value : Float)
  deriving Inhabited

/-- A JSON value. -/
inductive Json where
  | null
  | bool (value : Bool)
  | num (value : JsonNumber)
  | str (value : String)
  | arr (items : List Json)
  | obj (fields : List (String × Json))
  deriving Inhabited

/-- Put an entry into a list sorted by key; an entry of the same key is replaced. -/
def insertSorted {α : Type} (key : String) (value : α) :
    List (String × α) → List (String × α)
  | [] => [(key, value)]
  | (k, v) :: rest =>
    if key < k then (key, value) :: (k, v) :: rest
    else if key = k then (key, value) :: rest
    else (k, v) :: insertSorted key value rest

namespace Json

/-- The object of the given fields; the last of two fields of one key wins. -/
def mkObj (fields : List (String × Json)) : Json :=
  .obj (fields.foldl (fun acc (k, v) => insertSorted k v acc) [])

/-- The field of an object. -/
def field? (key : String) : Json → Option Json
  | .obj fields => (fields.find? (·.1 == key)).map (·.2)
  | _ => none

/-- The items of an array. -/
def items? : Json → Option (List Json)
  | .arr items => some items
  | _ => none

/-- The text of a string value. -/
def string? : Json → Option String
  | .str s => some s
  | _ => none

/-- A boolean value. -/
def bool? : Json → Option Bool
  | .bool b => some b
  | _ => none

/-- An integer in the range of a 64-bit word. -/
def word? : Json → Option UInt64
  | .num (.int i) => if 0 ≤ i ∧ i < 18446744073709551616 then some (UInt64.ofNat i.toNat) else none
  | _ => none

/-- Whether a value is `null`. -/
def isNull : Json → Bool
  | .null => true
  | _ => false

/-- A JSON integer. -/
def int (i : Int) : Json :=
  .num (.int i)

/-- A JSON integer from a natural number. -/
def nat (n : Nat) : Json :=
  .num (.int n)

/-- A JSON integer from a word. -/
def word (w : UInt64) : Json :=
  .num (.int w.toNat)

/-- A text, or `null` where there is none. -/
def optStr : Option String → Json
  | some s => .str s
  | none => .null

/-- A word, or `null` where there is none. -/
def optWord : Option UInt64 → Json
  | some w => .word w
  | none => .null

/-- A list of texts. -/
def strs (xs : List String) : Json :=
  .arr (xs.map .str)

end Json

/-- The number as a double, rounded to nearest. -/
def JsonNumber.toFloat : JsonNumber → Float
  | .int i => Float.ofInt i
  | .float x => x

end EndpointMonitor
