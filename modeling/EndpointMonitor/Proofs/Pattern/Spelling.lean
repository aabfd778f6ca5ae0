import EndpointMonitor.Proofs.Text.Encoding
import Mathlib.Data.List.Forall2

/-!
# Spelling out a pattern

A pattern is spelled out by putting something in for its wildcards: any symbols for a star and one
symbol for a question mark. Every other character stands for itself. A pattern is a row of runs of
wildcards with one other character between neighbours, and only the runs leave a choice.
-/

namespace EndpointMonitor.Pattern

variable {σ : Type} {spell : Char → List σ} {p q run : List Char} {c : Char} {w : List σ}

/-- A character with a meaning of its own in a pattern. -/
def isWildcard (c : Char) : Bool :=
  c == '*' || c == '?'

/-- What may be put in for a character of a pattern. -/
def StandsFor (spell : Char → List σ) (c : Char) (part : List σ) : Prop :=
  if c = '*' then True else if c = '?' then part.length = 1 else part = spell c

/-- The symbols come from the pattern by putting something in for each of its characters. -/
def Spells (spell : Char → List σ) (p : List Char) (w : List σ) : Prop :=
  ∃ parts, List.Forall₂ (StandsFor spell) p parts ∧ w = parts.flatten

/-- The characters that a pattern is spelled out to. -/
abbrev SpellsChars (p v : List Char) : Prop :=
  Spells (fun c => [c]) p v

/-- A value that a pattern is spelled out to. -/
def SpellsValue (p value : String) : Prop :=
  SpellsChars p.toList value.toList

/-- The bytes that a pattern is spelled out to when a question mark stands for one byte. -/
abbrev SpellsBytes (p : List Char) (w : List UInt8) : Prop :=
  Spells String.utf8EncodeChar p w

/-- The runs of wildcards before, between and behind the other characters of a pattern. -/
def runs (p : List Char) : List (List Char) :=
  p.splitOnP fun c => !isWildcard c

section Spelling

/-- Of three pieces after one another, the first or the last may be cut off before the other. -/
theorem exists_append_assoc_iff {A B C : List σ → Prop} :
    (∃ u v, w = u ++ v ∧ A u ∧ ∃ x y, v = x ++ y ∧ B x ∧ C y) ↔
      ∃ u v, w = u ++ v ∧ (∃ x y, u = x ++ y ∧ A x ∧ B y) ∧ C v := by
  constructor
  · rintro ⟨u, _, rfl, hu, x, y, rfl, hx, hy⟩
    exact ⟨u ++ x, y, (List.append_assoc u x y).symm, ⟨u, x, rfl, hu, hx⟩, hy⟩
  · rintro ⟨_, v, rfl, ⟨x, y, rfl, hx, hy⟩, hv⟩
    exact ⟨x, y ++ v, List.append_assoc x y v, hx, y, v, rfl, hy, hv⟩

@[simp] theorem spells_nil_iff : Spells spell [] w ↔ w = [] := by
  simp [Spells]

theorem spells_cons_iff : Spells spell (c :: p) w ↔
    ∃ u v, w = u ++ v ∧ StandsFor spell c u ∧ Spells spell p v := by
  simp only [Spells, List.forall₂_cons_left_iff]
  constructor
  · rintro ⟨_, ⟨u, parts, hu, hparts, rfl⟩, rfl⟩
    exact ⟨u, parts.flatten, rfl, hu, parts, hparts, rfl⟩
  · rintro ⟨u, _, rfl, hu, parts, hparts, rfl⟩
    exact ⟨u :: parts, ⟨u, parts, hu, hparts, rfl⟩, rfl⟩

theorem spells_append_iff : Spells spell (p ++ q) w ↔
    ∃ u v, w = u ++ v ∧ Spells spell p u ∧ Spells spell q v := by
  induction p generalizing w with
  | nil => simp
  | cons c p ih =>
      simp only [List.cons_append, spells_cons_iff, ih]
      exact exists_append_assoc_iff

theorem standsFor_of_not_wildcard (hc : isWildcard c = false) {u : List σ} :
    StandsFor spell c u ↔ u = spell c := by
  simp only [isWildcard, Bool.or_eq_false_iff, beq_eq_false_iff_ne] at hc
  rw [StandsFor, if_neg hc.1, if_neg hc.2]

theorem spells_star_iff : Spells spell ('*' :: p) w ↔ ∃ u v, w = u ++ v ∧ Spells spell p v := by
  simp [spells_cons_iff, StandsFor]

theorem spells_mark_iff : Spells spell ('?' :: p) w ↔ ∃ b v, w = b :: v ∧ Spells spell p v := by
  simp only [spells_cons_iff, StandsFor, if_neg (show ¬ '?' = '*' by decide), if_true,
    List.length_eq_one_iff]
  constructor
  · rintro ⟨_, v, rfl, ⟨b, rfl⟩, hv⟩
    exact ⟨b, v, rfl, hv⟩
  · rintro ⟨b, v, rfl, hv⟩
    exact ⟨[b], v, rfl, ⟨b, rfl⟩, hv⟩

theorem spells_literal_iff (hc : isWildcard c = false) :
    Spells spell (c :: p) w ↔ ∃ v, w = spell c ++ v ∧ Spells spell p v := by
  simp [spells_cons_iff, standsFor_of_not_wildcard hc]

end Spelling

section Runs

/-- A run with a star stands for everything that has a symbol for each question mark, and a run
without a star for what has just these. -/
theorem spells_run_iff (hrun : ∀ c ∈ run, isWildcard c = true) :
    Spells spell run w ↔
      run.count '?' ≤ w.length ∧ ('*' ∈ run ∨ w.length = run.count '?') := by
  induction run generalizing w with
  | nil => simp
  | cons c run ih =>
      obtain ⟨hc, hrest⟩ := List.forall_mem_cons.1 hrun
      obtain rfl | rfl : c = '*' ∨ c = '?' := by simpa [isWildcard] using hc
      · simp only [spells_star_iff, ih hrest]
        constructor
        · rintro ⟨u, v, rfl, hle, -⟩
          simp
          omega
        · rintro ⟨hle, -⟩
          have hcount : run.count '?' ≤ w.length := by simpa using hle
          refine ⟨w.take (w.length - run.count '?'), w.drop (w.length - run.count '?'),
            (List.take_append_drop _ w).symm, ?_, Or.inr ?_⟩ <;>
          · rw [List.length_drop]
            omega
      · simp only [spells_mark_iff, ih hrest, List.count_cons_self]
        constructor
        · rintro ⟨b, v, rfl, hle, hstar⟩
          simpa using ⟨hle, hstar⟩
        · rintro ⟨hle, hstar⟩
          cases w with
          | nil => simp at hle
          | cons b v => exact ⟨b, v, rfl, by simpa using hle, by simpa using hstar⟩

/-- A pattern is a run of wildcards, or a run and another character before a pattern. -/
@[elab_as_elim]
theorem runs_induction {motive : List Char → Prop}
    (last : ∀ run, (∀ c ∈ run, isWildcard c = true) → motive run)
    (next : ∀ run c p, (∀ c ∈ run, isWildcard c = true) → isWildcard c = false → motive p →
      motive (run ++ c :: p)) (p : List Char) : motive p := by
  suffices h : ∀ run, (∀ c ∈ run, isWildcard c = true) → motive (run ++ p) from h [] (by simp)
  induction p with
  | nil =>
      intro run hrun
      rw [List.append_nil]
      exact last run hrun
  | cons c p ih =>
      intro run hrun
      cases hc : isWildcard c with
      | false => exact next run c p hrun hc (ih [] (by simp))
      | true =>
          rw [List.append_cons]
          exact ih (run ++ [c]) (by simpa [or_imp, forall_and, hc] using hrun)

theorem runs_of_wildcards (hrun : ∀ c ∈ run, isWildcard c = true) : runs run = [run] :=
  List.splitOnP_eq_singleton fun c hc => by simp [hrun c hc]

theorem runs_append (hrun : ∀ c ∈ run, isWildcard c = true) (hc : isWildcard c = false)
    (p : List Char) : runs (run ++ c :: p) = run :: runs p :=
  List.splitOnP_append_cons_of_forall_mem (fun c hc => by simp [hrun c hc]) c (by simp [hc]) p

/-- A run is spelled out before the character behind it, and the rest of the pattern after it. -/
theorem spells_run_append_iff (hc : isWildcard c = false) :
    Spells spell (run ++ c :: p) w ↔
      ∃ u v, w = u ++ (spell c ++ v) ∧ Spells spell run u ∧ Spells spell p v := by
  simp only [spells_append_iff, spells_literal_iff hc]
  constructor
  · rintro ⟨u, _, rfl, hu, v, rfl, hv⟩
    exact ⟨u, v, rfl, hu, hv⟩
  · rintro ⟨u, v, rfl, hu, hv⟩
    exact ⟨u, spell c ++ v, rfl, hu, v, rfl, hv⟩

end Runs

end EndpointMonitor.Pattern
