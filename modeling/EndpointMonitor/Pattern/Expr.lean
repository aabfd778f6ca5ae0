/-!
# Regular expressions over a symbol type

An expression relates the positions of a text: it spans from one position to another. The
matcher moves a whole set of positions at once, so its cost is polynomial in the text and
the expression, whatever the nesting of repetitions. Sets of positions are ascending lists.
-/

namespace EndpointMonitor.Pattern

/-- A regular expression. `look` consumes nothing and tests the symbols on its two sides. -/
inductive Expr (σ : Type) where
  | never
  | empty
  | symbol (test : σ → Bool)
  | look (test : Option σ → Option σ → Bool)
  | seq (first second : Expr σ)
  | alt (left right : Expr σ)
  | star (body : Expr σ)
  | times (count : Nat) (body : Expr σ)
  | atMost (count : Nat) (body : Expr σ)

namespace Expr

variable {σ : Type}

/-- The symbol before a position. -/
def before (text : Array σ) (i : Nat) : Option σ :=
  if i = 0 then none else text[i - 1]?

/-- `Spans text e i j` says that `e` matches the symbols between the positions `i` and `j`. -/
inductive Spans (text : Array σ) : Expr σ → Nat → Nat → Prop where
  | empty {i : Nat} : i ≤ text.size → Spans text .empty i i
  | symbol {test : σ → Bool} {i : Nat} {c : σ} :
      text[i]? = some c → test c = true → Spans text (.symbol test) i (i + 1)
  | look {test : Option σ → Option σ → Bool} {i : Nat} :
      i ≤ text.size → test (before text i) text[i]? = true → Spans text (.look test) i i
  | seq {a b : Expr σ} {i j k : Nat} :
      Spans text a i j → Spans text b j k → Spans text (.seq a b) i k
  | left {a b : Expr σ} {i j : Nat} : Spans text a i j → Spans text (.alt a b) i j
  | right {a b : Expr σ} {i j : Nat} : Spans text b i j → Spans text (.alt a b) i j
  | stop {a : Expr σ} {i : Nat} : i ≤ text.size → Spans text (.star a) i i
  | more {a : Expr σ} {i j k : Nat} :
      Spans text a i j → Spans text (.star a) j k → Spans text (.star a) i k
  | timesZero {a : Expr σ} {i : Nat} : i ≤ text.size → Spans text (.times 0 a) i i
  | timesSucc {a : Expr σ} {n i j k : Nat} :
      Spans text a i j → Spans text (.times n a) j k → Spans text (.times (n + 1) a) i k
  | atMostStop {a : Expr σ} {n i : Nat} : i ≤ text.size → Spans text (.atMost n a) i i
  | atMostMore {a : Expr σ} {n i j k : Nat} :
      Spans text a i j → Spans text (.atMost n a) j k → Spans text (.atMost (n + 1) a) i k

/-- The union of two sets of positions. -/
def union : List Nat → List Nat → List Nat
  | [], t => t
  | s, [] => s
  | a :: s, b :: t =>
    if a < b then a :: union s (b :: t)
    else if b < a then b :: union (a :: s) t
    else a :: union s t
termination_by s t => s.length + t.length

@[simp] theorem mem_union {s t : List Nat} {n : Nat} : n ∈ union s t ↔ n ∈ s ∨ n ∈ t := by
  fun_induction union s t <;> grind

/-- The positions of the first set that are not in the second one. -/
def without : List Nat → List Nat → List Nat
  | [], _ => []
  | s, [] => s
  | a :: s, b :: t =>
    if a < b then a :: without s (b :: t)
    else if b < a then without (a :: s) t
    else without s t
termination_by s t => s.length + t.length

/-- The positions that are reached in at most so many moves. Only what was reached last moves on,
and the moves end when they reach nothing new. -/
def closure (move : List Nat → List Nat) : Nat → (reached last : List Nat) → List Nat
  | 0, reached, _ => reached
  | moves + 1, reached, last =>
    let found := without (move last) reached
    if found.isEmpty then reached else closure move moves (union reached found) found

/-- The positions after exactly so many moves. A set that a move leaves as it is stays so. -/
def iterate (move : List Nat → List Nat) : Nat → List Nat → List Nat
  | 0, s => s
  | moves + 1, s =>
    let t := move s
    if t = s then s else iterate move moves t

/-- The positions at which a match that starts in the given set may end. -/
def ends (text : Array σ) : Expr σ → List Nat → List Nat
  | .never, _ => []
  | .empty, s => s
  | .symbol test, s =>
    (s.filter fun i => match text[i]? with
      | some c => test c
      | none => false).map (· + 1)
  | .look test, s => s.filter fun i => test (before text i) text[i]?
  | .seq a b, s => ends text b (ends text a s)
  | .alt a b, s => union (ends text a s) (ends text b s)
  | .star a, s => closure (ends text a) (text.size + 1) s s
  | .times n a, s => iterate (ends text a) n s
  | .atMost n a, s => closure (ends text a) n s s

/-- Whether the expression spans the whole text. -/
def spansAll (e : Expr σ) (text : Array σ) : Bool :=
  (ends text e [0]).contains text.size

/-- Whether the expression spans some part of the text. -/
def occursIn (e : Expr σ) (text : Array σ) : Bool :=
  !(ends text e (List.range (text.size + 1))).isEmpty

/-- Expressions one after the other. -/
def sequence : List (Expr σ) → Expr σ
  | [] => .empty
  | [e] => e
  | e :: rest => .seq e (sequence rest)

/-- One of the expressions. -/
def oneOf : List (Expr σ) → Expr σ
  | [] => .never
  | [e] => e
  | e :: rest => .alt e (oneOf rest)

/-- Zero or one time. -/
def optional (e : Expr σ) : Expr σ :=
  .atMost 1 e

end Expr

end EndpointMonitor.Pattern
