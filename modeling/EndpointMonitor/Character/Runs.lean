import EndpointMonitor.Character.CodeSet
import EndpointMonitor.Number.Radix
import EndpointMonitor.Text.Split

/-!
# Tables of runs

From zero on, the code points fall into runs that belong together. The table of a set lists the
lengths of the runs outside and inside the set by turns, in hexadecimal digits with blanks
between them. The table of a property lists the length of each run and the label of its value; a
label starts with a capital letter, and all labels of a table are equally long.
-/

namespace EndpointMonitor

/-- The set whose runs are listed in a table. -/
def CodeSet.ofRuns (table : List String) : CodeSet :=
  let lengths := table.flatMap fun line =>
    (Text.pieces ' ' line.toList).filterMap (Radix.number? 16)
  let rec edges (start : Nat) : List Nat → List Nat
    | [] => []
    | n :: rest => (start + n) :: edges (start + n) rest
  ofEdges (edges 0 lengths)

/-- Neighbouring code points with the same value of a property. -/
structure Run where
  length : Nat
  label : String

namespace Run

/-- Read runs whose labels have the given width, after a part of a length and of a label. -/
def read (width : Nat) : Nat → List Char → List Char → List Run
  | _, _, [] => []
  | length, label, c :: rest =>
    if label.isEmpty && !c.isUpper then
      read width (length * 16 + (Radix.hexDigit? c).getD 0) [] rest
    else
      let label := label ++ [c]
      if label.length = width then ⟨length, String.ofList label⟩ :: read width 0 [] rest
      else read width length label rest

/-- The runs that are listed in a table. -/
def ofTable (width : Nat) (table : List String) : List Run :=
  read width 0 [] (table.flatMap String.toList)

/-- The edges of the runs with a wanted label, from a code point on. -/
def edges (wanted : String → Bool) (inside : Bool) (start : Nat) : List Run → List Nat
  | [] => if inside then [start] else []
  | r :: rest =>
    let now := wanted r.label
    let later := edges wanted now (start + r.length) rest
    if now = inside then later else start :: later

/-- The code points of the runs with a wanted label. -/
def select (wanted : String → Bool) (runs : List Run) : CodeSet :=
  .ofEdges (edges wanted false 0 runs)

/-- The code points of the runs with the value of a name, which is known by its label. -/
def named? (names : List (String × String)) (runs : List Run) (name : String) : Option CodeSet :=
  (names.lookup name).map fun label => select (· = label) runs

end Run

end EndpointMonitor
