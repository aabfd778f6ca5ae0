/-!
# Sets of code points

A set is given by the numbers at which membership changes, in increasing order. Two sets are
combined in one walk over their changes, and the main law says that membership in the result is
the combination of the two memberships.
-/

namespace EndpointMonitor

/-- A set of code points: outside at first, and then changing sides at each of its edges. -/
structure CodeSet where
  edges : List Nat
  increasing : edges.Pairwise (· < ·)
  deriving DecidableEq

namespace CodeSet

/-- The side of a number, for somebody who starts on one side and changes at each edge. -/
def side : Bool → List Nat → Nat → Bool
  | inside, [], _ => inside
  | inside, e :: rest, n => if n < e then inside else side (!inside) rest n

/-- Whether a number is in a set. -/
def contains (s : CodeSet) (n : Nat) : Bool :=
  side false s.edges n

/-- The numbers of a list that are greater than all numbers before them. -/
def ascending : Nat → List Nat → List Nat
  | _, [] => []
  | least, e :: rest => if e < least then ascending least rest else e :: ascending (e + 1) rest

theorem le_of_mem_ascending {least e : Nat} {l : List Nat} (h : e ∈ ascending least l) :
    least ≤ e := by
  induction l generalizing least with
  | nil => simp [ascending] at h
  | cons a rest ih =>
      unfold ascending at h
      split at h
      · exact ih h
      · rcases List.mem_cons.1 h with rfl | h
        · omega
        · have := ih h
          omega

theorem pairwise_ascending (least : Nat) (l : List Nat) :
    (ascending least l).Pairwise (· < ·) := by
  induction l generalizing least with
  | nil => exact .nil
  | cons a rest ih =>
      unfold ascending
      split
      · exact ih least
      · exact .cons (fun e h => le_of_mem_ascending h) (ih (a + 1))

/-- The set with the given edges; an edge that is out of order is left out. -/
def ofEdges (l : List Nat) : CodeSet :=
  ⟨ascending 0 l, pairwise_ascending 0 l⟩

/-- The set without members. -/
def empty : CodeSet :=
  ⟨[], .nil⟩

/-- The numbers from `low` to `high`. -/
def range (low high : Nat) : CodeSet :=
  if h : low ≤ high then ⟨[low, high + 1], List.pairwise_pair.2 (by omega)⟩ else empty

/-- The set with one member. -/
def single (n : Nat) : CodeSet :=
  ⟨[n, n + 1], List.pairwise_pair.2 (Nat.lt_succ_self n)⟩

@[simp] theorem contains_empty (n : Nat) : empty.contains n = false := rfl

@[simp] theorem contains_range (low high n : Nat) :
    (range low high).contains n = decide (low ≤ n ∧ n ≤ high) := by
  unfold range
  split
  · simp only [contains, side]
    grind
  · simp only [contains_empty]
    grind

@[simp] theorem contains_single (m n : Nat) : (single m).contains n = decide (n = m) := by
  simp only [contains, single, side]
  grind

/-- Keep an edge in front of a list if something changes at it. -/
def keepIf (changes : Bool) (e : Nat) (rest : List Nat) : List Nat :=
  if changes then e :: rest else rest

/-- Walk over the edges of two sets from the given sides, and keep the edges at which the
combination of the two sides changes. -/
def sweep (op : Bool → Bool → Bool) (a b : Bool) : List Nat → List Nat → List Nat
  | [], [] => []
  | x :: xs, [] => keepIf (op (!a) b != op a b) x (sweep op (!a) b xs [])
  | [], y :: ys => keepIf (op a (!b) != op a b) y (sweep op a (!b) [] ys)
  | x :: xs, y :: ys =>
    if x < y then keepIf (op (!a) b != op a b) x (sweep op (!a) b xs (y :: ys))
    else if y < x then keepIf (op a (!b) != op a b) y (sweep op a (!b) (x :: xs) ys)
    else keepIf (op (!a) (!b) != op a b) x (sweep op (!a) (!b) xs ys)
termination_by xs ys => xs.length + ys.length

theorem mem_keepIf {changes : Bool} {e n : Nat} {rest : List Nat} (h : n ∈ keepIf changes e rest) :
    n = e ∨ n ∈ rest := by
  unfold keepIf at h
  split at h
  · exact List.mem_cons.1 h
  · exact .inr h

theorem mem_of_mem_sweep {op : Bool → Bool → Bool} {a b : Bool} {xs ys : List Nat} {n : Nat}
    (h : n ∈ sweep op a b xs ys) : n ∈ xs ∨ n ∈ ys := by
  fun_induction sweep op a b xs ys with
  | case1 => simp at h
  | case2 a b x xs ih => rcases mem_keepIf h with rfl | h <;> grind
  | case3 a b y ys ih => rcases mem_keepIf h with rfl | h <;> grind
  | case4 a b x xs y ys _ ih => rcases mem_keepIf h with rfl | h <;> grind
  | case5 a b x xs y ys _ _ ih => rcases mem_keepIf h with rfl | h <;> grind
  | case6 a b x xs y ys _ _ ih => rcases mem_keepIf h with rfl | h <;> grind

theorem pairwise_keepIf {changes : Bool} {e : Nat} {rest : List Nat} (hr : rest.Pairwise (· < ·))
    (he : ∀ n ∈ rest, e < n) : (keepIf changes e rest).Pairwise (· < ·) := by
  unfold keepIf
  split
  · exact .cons he hr
  · exact hr

theorem pairwise_sweep {op : Bool → Bool → Bool} {a b : Bool} {xs ys : List Nat}
    (hx : xs.Pairwise (· < ·)) (hy : ys.Pairwise (· < ·)) :
    (sweep op a b xs ys).Pairwise (· < ·) := by
  fun_induction sweep op a b xs ys with
  | case1 => exact .nil
  | case2 a b x xs ih =>
      rw [List.pairwise_cons] at hx
      refine pairwise_keepIf (ih hx.2 hy) fun n h => ?_
      rcases mem_of_mem_sweep h with h | h
      · exact hx.1 n h
      · simp at h
  | case3 a b y ys ih =>
      rw [List.pairwise_cons] at hy
      refine pairwise_keepIf (ih hx hy.2) fun n h => ?_
      rcases mem_of_mem_sweep h with h | h
      · simp at h
      · exact hy.1 n h
  | case4 a b x xs y ys _ ih =>
      have hy' := hy
      rw [List.pairwise_cons] at hx hy'
      refine pairwise_keepIf (ih hx.2 hy) fun n h => ?_
      have := mem_of_mem_sweep h
      grind
  | case5 a b x xs y ys _ _ ih =>
      have hx' := hx
      rw [List.pairwise_cons] at hx' hy
      refine pairwise_keepIf (ih hx hy.2) fun n h => ?_
      have := mem_of_mem_sweep h
      grind
  | case6 a b x xs y ys _ _ ih =>
      rw [List.pairwise_cons] at hx hy
      refine pairwise_keepIf (ih hx.2 hy.2) fun n h => ?_
      have := mem_of_mem_sweep h
      grind

theorem side_eq_of_forall_lt {inside : Bool} {l : List Nat} {n : Nat} (h : ∀ e ∈ l, n < e) :
    side inside l n = inside := by
  cases l with
  | nil => rfl
  | cons e rest => simp [side, h e (by simp)]

/-- The side after an edge that may have been left out. -/
theorem side_keepIf {a b : Bool} {e n : Nat} {rest : List Nat} (he : ∀ m ∈ rest, e < m) :
    side a (keepIf (b != a) e rest) n = if n < e then a else side b rest n := by
  cases a <;> cases b <;> simp only [keepIf, bne_self_eq_false, Bool.true_bne, Bool.false_bne,
    Bool.not_false, Bool.not_true, if_true, Bool.false_eq_true, if_false, side]
  all_goals
    split
    · rename_i h
      exact side_eq_of_forall_lt fun m hm => Nat.lt_trans h (he m hm)
    · rfl

/-- A sweep changes sides where the combination does. -/
theorem side_sweep {op : Bool → Bool → Bool} {a b : Bool} {xs ys : List Nat} {n : Nat}
    (hx : xs.Pairwise (· < ·)) (hy : ys.Pairwise (· < ·)) :
    side (op a b) (sweep op a b xs ys) n = op (side a xs n) (side b ys n) := by
  fun_induction sweep op a b xs ys with
  | case1 => rfl
  | case2 a b x xs ih =>
      rw [List.pairwise_cons] at hx
      rw [side_keepIf fun m hm => (mem_of_mem_sweep hm).elim (hx.1 m) (by simp), ih hx.2 hy]
      simp only [side]
      split <;> rfl
  | case3 a b y ys ih =>
      rw [List.pairwise_cons] at hy
      rw [side_keepIf fun m hm => (mem_of_mem_sweep hm).elim (by simp) (hy.1 m), ih hx hy.2]
      simp only [side]
      split <;> rfl
  | case4 a b x xs y ys hxy ih =>
      have hy' := hy
      rw [List.pairwise_cons] at hx hy'
      rw [side_keepIf fun m hm => by have := mem_of_mem_sweep hm; grind, ih hx.2 hy]
      simp only [side]
      grind
  | case5 a b x xs y ys _ hyx ih =>
      have hx' := hx
      rw [List.pairwise_cons] at hx' hy
      rw [side_keepIf fun m hm => by have := mem_of_mem_sweep hm; grind, ih hx hy.2]
      simp only [side]
      grind
  | case6 a b x xs y ys _ _ ih =>
      rw [List.pairwise_cons] at hx hy
      rw [side_keepIf fun m hm => by have := mem_of_mem_sweep hm; grind, ih hx.2 hy.2]
      simp only [side]
      grind

/-- The numbers whose memberships in two sets combine to `true`. Numbers after all edges are left
out, so `op` is meant to be false where both sides are. -/
def combine (op : Bool → Bool → Bool) (s t : CodeSet) : CodeSet :=
  ⟨sweep op false false s.edges t.edges, pairwise_sweep s.increasing t.increasing⟩

/-- Membership in a combination is the combination of the memberships. -/
theorem contains_combine {op : Bool → Bool → Bool} (h : op false false = false) (s t : CodeSet)
    (n : Nat) : (combine op s t).contains n = op (s.contains n) (t.contains n) := by
  have hs : side (op false false) (sweep op false false s.edges t.edges) n = _ :=
    side_sweep s.increasing t.increasing
  rwa [h] at hs

/-- The members of either set. -/
def union : CodeSet → CodeSet → CodeSet :=
  combine (· || ·)

/-- The common members of two sets. -/
def inter : CodeSet → CodeSet → CodeSet :=
  combine (· && ·)

/-- The members of the first set that are not in the second one. -/
def diff : CodeSet → CodeSet → CodeSet :=
  combine fun a b => a && !b

/-- The members of just one of two sets. -/
def symmDiff : CodeSet → CodeSet → CodeSet :=
  combine (· != ·)

@[simp] theorem contains_union (s t : CodeSet) (n : Nat) :
    (s.union t).contains n = (s.contains n || t.contains n) :=
  contains_combine rfl s t n

@[simp] theorem contains_inter (s t : CodeSet) (n : Nat) :
    (s.inter t).contains n = (s.contains n && t.contains n) :=
  contains_combine rfl s t n

@[simp] theorem contains_diff (s t : CodeSet) (n : Nat) :
    (s.diff t).contains n = (s.contains n && !t.contains n) :=
  contains_combine rfl s t n

@[simp] theorem contains_symmDiff (s t : CodeSet) (n : Nat) :
    (s.symmDiff t).contains n = (s.contains n != t.contains n) :=
  contains_combine rfl s t n

/-- The members of any of some sets. -/
def unions (sets : List CodeSet) : CodeSet :=
  sets.foldl union empty

/-- The set with the given members. -/
def ofList (l : List Nat) : CodeSet :=
  let rec edges : List Nat → List Nat
    | [] => []
    | [n] => [n, n + 1]
    | n :: m :: rest =>
      if m ≤ n + 1 then
        match edges (m :: rest) with
        | _ :: later => n :: later
        | [] => [n, n + 1]
      else n :: (n + 1) :: edges (m :: rest)
  ofEdges (edges (l.mergeSort (· ≤ ·)))

/-- The runs of members that follow each other, each with its first and its last member. -/
def ranges (s : CodeSet) : List (Nat × Nat) :=
  let rec pairs : List Nat → List (Nat × Nat)
    | low :: next :: rest => (low, next - 1) :: pairs rest
    | _ => []
  pairs s.edges

/-- The code points that are characters: all but those that are halves of pairs. -/
def characters : CodeSet :=
  ofEdges [0, 0xD800, 0xE000, 0x110000]

/-- The characters that are not in a set. -/
def compl (s : CodeSet) : CodeSet :=
  characters.diff s

/-- The ASCII characters. -/
def ascii : CodeSet :=
  range 0 0x7F

/-- Whether all members are ASCII characters. -/
def isAscii (s : CodeSet) : Bool :=
  s.edges.all (· ≤ 0x80)

end CodeSet

/-- The character of a code point; the halves of pairs have none. -/
def charOf? (n : Nat) : Option Char :=
  if h : n.isValidChar then some (Char.ofNatAux n h) else none

end EndpointMonitor
