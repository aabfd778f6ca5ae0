import EndpointMonitor.Pattern.Expr
import Mathlib.Data.List.Basic

/-!
# The matcher finds what an expression spans

The matcher moves sets of positions, which it keeps ascending and within the text. A move of a set
is the union of the moves of its members; repetitions look at new positions only, and a repetition
without a bound needs no more rounds than the text has positions.
-/

namespace EndpointMonitor.Pattern.Expr

variable {σ : Type} {size : Nat} {move : List Nat → List Nat} {R : Nat → Nat → Prop}
  {s t reached last : List Nat}

/-- The positions are listed in order, and none is behind the end of the text. -/
structure Positions (size : Nat) (s : List Nat) : Prop where
  ascending : s.Pairwise (· < ·)
  bounded : ∀ i ∈ s, i ≤ size

/-- A set moves to all positions that are related to its members. -/
def Moves (size : Nat) (move : List Nat → List Nat) (R : Nat → Nat → Prop) : Prop :=
  ∀ s, Positions size s → Positions size (move s) ∧ ∀ j, j ∈ move s ↔ ∃ i ∈ s, R i j

/-- A number of moves after one another. -/
inductive Steps (R : Nat → Nat → Prop) : Nat → Nat → Nat → Prop
  | zero (i : Nat) : Steps R 0 i i
  | succ {n i j k : Nat} (first : R i j) (rest : Steps R n j k) : Steps R (n + 1) i k

section Sets

theorem pairwise_union (hs : s.Pairwise (· < ·)) (ht : t.Pairwise (· < ·)) :
    (union s t).Pairwise (· < ·) := by
  fun_induction union s t <;> grind [List.pairwise_cons, mem_union]

theorem without_sublist (s t : List Nat) : (without s t).Sublist s := by
  fun_induction without s t with
  | case1 t => exact List.Sublist.refl _
  | case2 s => exact List.Sublist.refl _
  | case3 a s b t hlt ih => exact ih.cons_cons a
  | case4 a s b t hle hlt ih => exact ih
  | case5 a s b t hle hle' ih => exact ih.cons a

theorem mem_without (hs : s.Pairwise (· < ·)) (ht : t.Pairwise (· < ·)) {n : Nat} :
    n ∈ without s t ↔ n ∈ s ∧ n ∉ t := by
  fun_induction without s t <;> grind [List.pairwise_cons]

theorem Positions.union (hs : Positions size s) (ht : Positions size t) :
    Positions size (union s t) where
  ascending := pairwise_union hs.ascending ht.ascending
  bounded i hi := (mem_union.1 hi).elim (hs.bounded i) (ht.bounded i)

theorem Positions.sublist (hs : Positions size s) (h : t.Sublist s) : Positions size t where
  ascending := hs.ascending.sublist h
  bounded i hi := hs.bounded i (h.subset hi)

/-- Only the positions of the text matter for where a set moves. -/
theorem Moves.congr {S : Nat → Nat → Prop} (h : Moves size move R)
    (hiff : ∀ i ≤ size, ∀ j, R i j ↔ S i j) : Moves size move S := by
  intro s hs
  obtain ⟨hpositions, mem_iff⟩ := h s hs
  refine ⟨hpositions, fun j => (mem_iff j).trans ?_⟩
  exact exists_congr fun i => and_congr_right fun hi => hiff i (hs.bounded i hi) j

end Sets

section Repetition

/-- What is reached from some positions by a number of moves is reached without those that are known
already: these lead to known positions or to newly found ones. -/
theorem steps_from_reached {found : List Nat} {n k m j : Nat}
    (closed : ∀ i ∈ reached, ∀ m, R i m → m ∈ reached ∨ m ∈ found) (steps : Steps R k m j)
    (hk : k ≤ n) (hm : m ∈ reached) : j ∈ reached ∨ ∃ i ∈ found, ∃ k ≤ n, Steps R k i j := by
  induction steps with
  | zero i => exact Or.inl hm
  | succ first rest ih =>
      rcases closed _ hm _ first with hj | hj
      · exact ih (by omega) hj
      · exact Or.inr ⟨_, hj, _, by omega, rest⟩

/-- The closure has what is reached in at most so many moves, if what was reached earlier leads to
nothing new. -/
theorem mem_closure (hmove : Moves size move R) {n : Nat} (hreached : Positions size reached)
    (hlast : Positions size last) (hsub : last ⊆ reached)
    (closed : ∀ i ∈ reached, i ∉ last → ∀ m, R i m → m ∈ reached) :
    Positions size (closure move n reached last) ∧ ∀ j, j ∈ closure move n reached last ↔
      j ∈ reached ∨ ∃ i ∈ last, ∃ k ≤ n, Steps R k i j := by
  induction n generalizing reached last with
  | zero =>
      refine ⟨hreached, fun j => (or_iff_left_of_imp ?_).symm⟩
      rintro ⟨i, hi, k, hk, steps⟩
      obtain rfl : k = 0 := by omega
      cases steps
      exact hsub hi
  | succ n ih =>
      obtain ⟨hmoved, mem_moved⟩ := hmove last hlast
      have mem_found : ∀ m, m ∈ without (move last) reached ↔ (∃ i ∈ last, R i m) ∧ m ∉ reached :=
        fun m => by rw [mem_without hmoved.ascending hreached.ascending, mem_moved]
      have hfound := hmoved.sublist (without_sublist (move last) reached)
      have leads : ∀ i ∈ reached, ∀ m, R i m → m ∈ reached ∨ m ∈ without (move last) reached := by
        intro i hi m him
        by_cases hm : m ∈ reached
        · exact Or.inl hm
        · by_cases hlasti : i ∈ last
          · exact Or.inr ((mem_found m).2 ⟨⟨i, hlasti, him⟩, hm⟩)
          · exact absurd (closed i hi hlasti m him) hm
      have steps_cases : ∀ j, (∃ i ∈ last, ∃ k ≤ n + 1, Steps R k i j) →
          j ∈ reached ∨ ∃ i ∈ without (move last) reached, ∃ k ≤ n, Steps R k i j := by
        rintro j ⟨i, hi, k, hk, steps⟩
        cases steps with
        | zero => exact Or.inl (hsub hi)
        | succ first rest =>
            rcases leads i (hsub hi) _ first with hm | hm
            · exact steps_from_reached leads rest (by omega) hm
            · exact Or.inr ⟨_, hm, _, by omega, rest⟩
      rw [closure]
      split
      · rename_i hnone
        have hnone : without (move last) reached = [] := by simpa using hnone
        refine ⟨hreached, fun j => (or_iff_left_of_imp fun hj => ?_).symm⟩
        rcases steps_cases j hj with hj | ⟨i, hi, -⟩
        · exact hj
        · rw [hnone] at hi
          cases hi
      · have hclosed : ∀ i ∈ union reached (without (move last) reached),
            i ∉ without (move last) reached → ∀ m, R i m →
              m ∈ union reached (without (move last) reached) := by
          intro i hi hnot m him
          exact mem_union.2 (leads i ((mem_union.1 hi).resolve_right hnot) m him)
        obtain ⟨hpositions, mem_iff⟩ := ih (hreached.union hfound) hfound
          (fun i hi => mem_union.2 (Or.inr hi)) hclosed
        refine ⟨hpositions, fun j => ?_⟩
        rw [mem_iff, mem_union]
        constructor
        · rintro ((hj | hj) | ⟨m, hm, k, hk, steps⟩)
          · exact Or.inl hj
          · obtain ⟨⟨i, hi, him⟩, -⟩ := (mem_found j).1 hj
            exact Or.inr ⟨i, hi, 1, by omega, .succ him (.zero _)⟩
          · obtain ⟨⟨i, hi, him⟩, -⟩ := (mem_found m).1 hm
            exact Or.inr ⟨i, hi, k + 1, by omega, .succ him steps⟩
        · rintro (hj | hj)
          · exact Or.inl (Or.inl hj)
          · exact (steps_cases j hj).imp Or.inl id

theorem moves_closure (hmove : Moves size move R) (n : Nat) :
    Moves size (fun s => closure move n s s) fun i j => ∃ k ≤ n, Steps R k i j := by
  intro s hs
  obtain ⟨hpositions, mem_iff⟩ := mem_closure (n := n) hmove hs hs (fun _ h => h)
    fun i hi hnot => absurd hi hnot
  exact ⟨hpositions, fun j => (mem_iff j).trans
    (or_iff_right_of_imp fun hj => ⟨j, hj, 0, Nat.zero_le n, .zero j⟩)⟩

/-- Moves that only go forward need no more rounds than there are positions. -/
theorem Steps.shorten {k i j : Nat} (forward : ∀ i j, R i j → i ≤ j) (steps : Steps R k i j) :
    i ≤ j ∧ ∃ k ≤ j - i, Steps R k i j := by
  induction steps with
  | zero i => exact ⟨Nat.le_refl i, 0, by omega, .zero i⟩
  | @succ n i m j first rest ih =>
      obtain ⟨hle, k, hk, steps⟩ := ih
      have hfirst := forward i m first
      refine ⟨by omega, ?_⟩
      by_cases heq : i = m
      · subst heq
        exact ⟨k, hk, steps⟩
      · exact ⟨k + 1, by omega, .succ first steps⟩

@[simp] theorem steps_zero_iff {i j : Nat} : Steps R 0 i j ↔ i = j :=
  ⟨fun steps => by cases steps; rfl, fun h => h ▸ .zero i⟩

theorem steps_succ_iff {n i k : Nat} : Steps R (n + 1) i k ↔ ∃ j, R i j ∧ Steps R n j k :=
  ⟨fun steps => by cases steps with | succ first rest => exact ⟨_, first, rest⟩,
    fun ⟨_, first, rest⟩ => .succ first rest⟩

/-- The iteration has what is reached in exactly so many moves. -/
theorem moves_iterate (hmove : Moves size move R) (n : Nat) :
    Moves size (iterate move n) (Steps R n) := by
  intro s hs
  induction n generalizing s with
  | zero => exact ⟨hs, fun j => by simp [iterate]⟩
  | succ n ih =>
      obtain ⟨hmoved, mem_moved⟩ := hmove s hs
      have after_move : ∀ n j, (∃ i ∈ s, Steps R (n + 1) i j) ↔ ∃ i ∈ move s, Steps R n i j := by
        intro n j
        simp only [steps_succ_iff, mem_moved]
        grind
      rw [iterate]
      split
      · -- Once a move changes nothing, no number of moves does.
        rename_i hsame
        have stays : ∀ n j, (∃ i ∈ s, Steps R n i j) ↔ j ∈ s := by
          intro n
          induction n with
          | zero => simp
          | succ n ihn =>
              intro j
              rw [after_move, hsame, ihn]
        exact ⟨hs, fun j => (stays (n + 1) j).symm⟩
      · obtain ⟨hpositions, mem_iff⟩ := ih (move s) hmoved
        exact ⟨hpositions, fun j => (mem_iff j).trans (after_move n j).symm⟩

end Repetition

section Expressions

variable {text : Array σ} {e a : Expr σ} {i j : Nat}

/-- A match goes forward and stays within the text. -/
theorem Spans.bounds (h : Spans text e i j) : i ≤ j ∧ j ≤ text.size := by
  induction h with
  | empty hi => exact ⟨Nat.le_refl _, hi⟩
  | symbol hc _ =>
      have := (Array.getElem?_eq_some_iff.1 hc).1
      omega
  | look hi _ => exact ⟨Nat.le_refl _, hi⟩
  | seq _ _ iha ihb => omega
  | left _ ih => exact ih
  | right _ ih => exact ih
  | stop hi => exact ⟨Nat.le_refl _, hi⟩
  | more _ _ iha ihb => omega
  | timesZero hi => exact ⟨Nat.le_refl _, hi⟩
  | timesSucc _ _ iha ihb => omega
  | atMostStop hi => exact ⟨Nat.le_refl _, hi⟩
  | atMostMore _ _ iha ihb => omega

theorem spans_times_iff {n : Nat} (hi : i ≤ text.size) :
    Spans text (.times n a) i j ↔ Steps (Spans text a) n i j := by
  induction n generalizing i with
  | zero =>
      rw [steps_zero_iff]
      exact ⟨fun h => by cases h; rfl, fun h => h ▸ .timesZero hi⟩
  | succ n ih =>
      rw [steps_succ_iff]
      constructor
      · intro h
        cases h with
        | timesSucc first rest => exact ⟨_, first, (ih first.bounds.2).1 rest⟩
      · rintro ⟨m, first, rest⟩
        exact .timesSucc first ((ih first.bounds.2).2 rest)

theorem spans_atMost_iff {n : Nat} (hi : i ≤ text.size) :
    Spans text (.atMost n a) i j ↔ ∃ k ≤ n, Steps (Spans text a) k i j := by
  induction n generalizing i with
  | zero =>
      constructor
      · intro h
        cases h
        exact ⟨0, Nat.le_refl 0, .zero _⟩
      · rintro ⟨k, hk, steps⟩
        obtain rfl : k = 0 := by omega
        obtain rfl := steps_zero_iff.1 steps
        exact .atMostStop hi
  | succ n ih =>
      constructor
      · intro h
        cases h with
        | atMostStop _ => exact ⟨0, by omega, .zero _⟩
        | atMostMore first rest =>
            obtain ⟨k, hk, steps⟩ := (ih first.bounds.2).1 rest
            exact ⟨k + 1, by omega, .succ first steps⟩
      · rintro ⟨k, hk, steps⟩
        cases steps with
        | zero => exact .atMostStop hi
        | succ first rest =>
            exact .atMostMore first ((ih first.bounds.2).2 ⟨_, by omega, rest⟩)

theorem spans_star_of_steps {k : Nat} (hi : i ≤ text.size) (steps : Steps (Spans text a) k i j) :
    Spans text (.star a) i j := by
  induction steps with
  | zero i => exact .stop hi
  | succ first _ ih => exact .more first (ih first.bounds.2)

theorem Spans.exists_steps {b : Expr σ} (h : Spans text b i j) (hb : b = .star a) :
    ∃ k, Steps (Spans text a) k i j := by
  induction h with
  | stop _ => exact ⟨0, .zero _⟩
  | more first _ _ ih =>
      cases hb
      obtain ⟨k, steps⟩ := ih rfl
      exact ⟨k + 1, .succ first steps⟩
  | _ => cases hb

/-- A repetition goes no further than it does in as many rounds as the text has positions. -/
theorem spans_star_iff (hi : i ≤ text.size) :
    Spans text (.star a) i j ↔ ∃ k ≤ text.size + 1, Steps (Spans text a) k i j := by
  constructor
  · intro h
    obtain ⟨k, steps⟩ := h.exists_steps rfl
    obtain ⟨-, k', hk', steps'⟩ := steps.shorten fun _ _ h => h.bounds.1
    have hj := h.bounds.2
    exact ⟨k', by omega, steps'⟩
  · rintro ⟨k, -, steps⟩
    exact spans_star_of_steps hi steps

theorem moves_symbol (text : Array σ) (test : σ → Bool) :
    Moves text.size (ends text (.symbol test)) (Spans text (.symbol test)) := by
  intro s hs
  obtain ⟨kept, hends, hkept, mem_kept⟩ : ∃ kept : List Nat,
      ends text (.symbol test) s = kept.map (· + 1) ∧ kept.Sublist s ∧
        ∀ i, i ∈ kept ↔ i ∈ s ∧ ∃ c, text[i]? = some c ∧ test c = true := by
    refine ⟨_, rfl, List.filter_sublist, fun i => ?_⟩
    rw [List.mem_filter]
    cases text[i]? <;> simp
  rw [hends]
  refine ⟨⟨?_, fun j hj => ?_⟩, fun j => ?_⟩
  · exact List.pairwise_map.2 ((hs.ascending.sublist hkept).imp Nat.succ_lt_succ)
  · obtain ⟨i, hi, rfl⟩ := List.mem_map.1 hj
    obtain ⟨-, c, hc, -⟩ := (mem_kept i).1 hi
    exact (Array.getElem?_eq_some_iff.1 hc).1
  · rw [List.mem_map]
    constructor
    · rintro ⟨i, hi, rfl⟩
      obtain ⟨hi, c, hc, htest⟩ := (mem_kept i).1 hi
      exact ⟨i, hi, .symbol hc htest⟩
    · rintro ⟨i, hi, h⟩
      cases h with
      | symbol hc htest => exact ⟨i, (mem_kept i).2 ⟨hi, _, hc, htest⟩, rfl⟩

/-- The matcher moves every position to the ends of the matches that begin there. -/
theorem moves_ends (text : Array σ) (e : Expr σ) :
    Moves text.size (ends text e) (Spans text e) := by
  induction e with
  | never =>
      intro s _
      refine ⟨⟨List.Pairwise.nil, by simp [ends]⟩, fun j => ?_⟩
      simp only [ends, List.not_mem_nil, false_iff]
      rintro ⟨i, -, h⟩
      cases h
  | empty =>
      intro s hs
      refine ⟨hs, fun j => ⟨fun hj => ⟨j, hj, .empty (hs.bounded j hj)⟩, ?_⟩⟩
      rintro ⟨i, hi, h⟩
      cases h
      exact hi
  | symbol test => exact moves_symbol text test
  | look test =>
      intro s hs
      refine ⟨hs.sublist List.filter_sublist, fun j => ?_⟩
      rw [ends, List.mem_filter]
      constructor
      · rintro ⟨hj, htest⟩
        exact ⟨j, hj, .look (hs.bounded j hj) htest⟩
      · rintro ⟨i, hi, h⟩
        cases h with
        | look _ htest => exact ⟨hi, htest⟩
  | seq a b iha ihb =>
      intro s hs
      obtain ⟨ha, mem_a⟩ := iha s hs
      obtain ⟨hb, mem_b⟩ := ihb _ ha
      refine ⟨hb, fun k => ?_⟩
      rw [ends, mem_b]
      constructor
      · rintro ⟨j, hj, hjk⟩
        obtain ⟨i, hi, hij⟩ := (mem_a j).1 hj
        exact ⟨i, hi, .seq hij hjk⟩
      · rintro ⟨i, hi, h⟩
        cases h with
        | seq hij hjk => exact ⟨_, (mem_a _).2 ⟨i, hi, hij⟩, hjk⟩
  | alt a b iha ihb =>
      intro s hs
      obtain ⟨ha, mem_a⟩ := iha s hs
      obtain ⟨hb, mem_b⟩ := ihb s hs
      refine ⟨ha.union hb, fun j => ?_⟩
      rw [ends, mem_union, mem_a, mem_b]
      constructor
      · rintro (⟨i, hi, h⟩ | ⟨i, hi, h⟩)
        · exact ⟨i, hi, .left h⟩
        · exact ⟨i, hi, .right h⟩
      · rintro ⟨i, hi, h⟩
        cases h with
        | left h => exact Or.inl ⟨i, hi, h⟩
        | right h => exact Or.inr ⟨i, hi, h⟩
  | star a ih =>
      exact (moves_closure ih (text.size + 1)).congr fun i hi j => (spans_star_iff hi).symm
  | times n a ih => exact (moves_iterate ih n).congr fun i hi j => (spans_times_iff hi).symm
  | atMost n a ih => exact (moves_closure ih n).congr fun i hi j => (spans_atMost_iff hi).symm

/-- A text is matched as a whole exactly if the expression spans it. -/
theorem spansAll_iff (e : Expr σ) (text : Array σ) :
    e.spansAll text = true ↔ Spans text e 0 text.size := by
  have hstart : Positions text.size [0] := ⟨List.pairwise_singleton _ _, by simp⟩
  rw [spansAll, List.contains_iff_mem, (moves_ends text e [0] hstart).2]
  simp

/-- An expression occurs in a text exactly if it spans some part of it. -/
theorem occursIn_iff (e : Expr σ) (text : Array σ) :
    e.occursIn text = true ↔ ∃ i j, Spans text e i j := by
  have hall : Positions text.size (List.range (text.size + 1)) :=
    ⟨List.pairwise_lt_range, fun i hi => Nat.le_of_lt_succ (List.mem_range.1 hi)⟩
  have mem_iff := (moves_ends text e _ hall).2
  rw [occursIn, Bool.not_eq_true', List.isEmpty_eq_false_iff_exists_mem]
  simp only [mem_iff, List.mem_range]
  constructor
  · rintro ⟨j, i, -, h⟩
    exact ⟨i, j, h⟩
  · rintro ⟨i, j, h⟩
    have hbounds := h.bounds
    exact ⟨j, i, by omega, h⟩

end Expressions

section Sequences

variable {text : Array σ} {e : Expr σ} {es fs : List (Expr σ)} {i k : Nat}

theorem spans_empty_iff : Spans text .empty i k ↔ i = k ∧ k ≤ text.size := by
  constructor
  · intro h
    cases h with
    | empty hi => exact ⟨rfl, hi⟩
  · rintro ⟨rfl, hi⟩
    exact .empty hi

/-- A match of expressions one after another is cut at the positions between them. -/
theorem spans_sequence_cons_iff : Spans text (sequence (e :: es)) i k ↔
    ∃ j, Spans text e i j ∧ Spans text (sequence es) j k := by
  cases es with
  | nil =>
      constructor
      · intro h
        exact ⟨k, h, .empty h.bounds.2⟩
      · rintro ⟨j, h, hnil⟩
        exact (spans_empty_iff.1 hnil).1 ▸ h
  | cons e' es =>
      constructor
      · intro h
        cases h with
        | seq first rest => exact ⟨_, first, rest⟩
      · rintro ⟨j, first, rest⟩
        exact .seq first rest

theorem spans_sequence_append_iff : Spans text (sequence (es ++ fs)) i k ↔
    ∃ j, Spans text (sequence es) i j ∧ Spans text (sequence fs) j k := by
  induction es generalizing i with
  | nil =>
      constructor
      · intro h
        have hbounds := h.bounds
        exact ⟨i, .empty (by omega), h⟩
      · rintro ⟨j, hnil, h⟩
        exact (spans_empty_iff.1 hnil).1 ▸ h
  | cons e es ih =>
      simp only [List.cons_append, spans_sequence_cons_iff, ih]
      constructor
      · rintro ⟨j, he, l, hes, hfs⟩
        exact ⟨l, ⟨j, he, hes⟩, hfs⟩
      · rintro ⟨l, ⟨j, he, hes⟩, hfs⟩
        exact ⟨j, he, l, hes, hfs⟩

end Sequences

end EndpointMonitor.Pattern.Expr
