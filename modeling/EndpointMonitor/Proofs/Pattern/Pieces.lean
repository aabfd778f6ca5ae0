import EndpointMonitor.Proofs.Pattern.Matching

/-!
# Matching a piece of a text

Positions are told apart by what stands before them. An expression matches a piece between two
other texts, and the pieces that it matches are those that its parts match one after another.
-/

namespace EndpointMonitor.Pattern.Expr

variable {σ : Type} {before after piece : List σ} {a b e : Expr σ} {es : List (Expr σ)}

/-- The expression matches the piece between the two other texts. -/
def Fits (before after : List σ) (e : Expr σ) (piece : List σ) : Prop :=
  Spans (before ++ piece ++ after).toArray e before.length (before.length + piece.length)

theorem fits_empty_iff : Fits before after .empty piece ↔ piece = [] := by
  unfold Fits
  constructor
  · intro h
    generalize hend : before.length + piece.length = j at h
    cases h
    exact List.eq_nil_of_length_eq_zero (by omega)
  · rintro rfl
    exact .empty (by simp)

theorem fits_never_iff : ¬ Fits before after .never piece := by
  intro h
  cases h

theorem fits_symbol_iff {test : σ → Bool} :
    Fits before after (.symbol test) piece ↔ ∃ c, piece = [c] ∧ test c = true := by
  unfold Fits
  constructor
  · intro h
    generalize hend : before.length + piece.length = j at h
    cases h with
    | symbol hc htest =>
        obtain ⟨c, rfl⟩ := List.length_eq_one_iff.1 (show piece.length = 1 by omega)
        refine ⟨c, rfl, ?_⟩
        simp at hc
        rwa [hc]
  · rintro ⟨c, rfl, htest⟩
    exact .symbol (by simp) htest

/-- A match of one expression after another cuts the piece. -/
theorem fits_seq_iff : Fits before after (.seq a b) piece ↔
    ∃ u v, piece = u ++ v ∧ Fits before (v ++ after) a u ∧ Fits (before ++ u) after b v := by
  constructor
  · intro h
    unfold Fits at h
    generalize hend : before.length + piece.length = k at h
    cases h with
    | @seq _ _ _ j _ first second =>
        have hfirst := first.bounds
        have hsecond := second.bounds
        have hu : (piece.take (j - before.length)).length = j - before.length := by
          rw [List.length_take]
          omega
        refine ⟨piece.take (j - before.length), piece.drop (j - before.length),
          (List.take_append_drop _ _).symm, ?_, ?_⟩
        · unfold Fits
          rw [hu, List.append_assoc, ← List.append_assoc _ _ after, List.take_append_drop,
            ← List.append_assoc, show before.length + (j - before.length) = j by omega]
          exact first
        · unfold Fits
          rw [List.append_assoc before, List.take_append_drop, List.length_append, hu,
            List.length_drop, show before.length + (j - before.length) = j by omega,
            show j + (piece.length - (j - before.length)) = k by omega]
          exact second
  · rintro ⟨u, v, rfl, hu, hv⟩
    unfold Fits at *
    refine .seq (j := before.length + u.length) ?_ ?_
    · simpa [List.append_assoc] using hu
    · simpa [List.append_assoc, Nat.add_assoc] using hv

theorem fits_alt_iff : Fits before after (.alt a b) piece ↔
    Fits before after a piece ∨ Fits before after b piece := by
  constructor
  · intro h
    cases h with
    | left h => exact Or.inl h
    | right h => exact Or.inr h
  · rintro (h | h)
    · exact .left h
    · exact .right h

/-- Of expressions one after another, each has its piece. -/
theorem fits_sequence_cons_iff : Fits before after (sequence (e :: es)) piece ↔
    ∃ u v, piece = u ++ v ∧ Fits before (v ++ after) e u ∧
      Fits (before ++ u) after (sequence es) v := by
  cases es with
  | nil => simp [sequence, fits_empty_iff]
  | cons e' es => exact fits_seq_iff

theorem fits_sequence_append_iff {fs : List (Expr σ)} :
    Fits before after (sequence (es ++ fs)) piece ↔ ∃ u v, piece = u ++ v ∧
      Fits before (v ++ after) (sequence es) u ∧ Fits (before ++ u) after (sequence fs) v := by
  induction es generalizing before piece with
  | nil => simp [sequence, fits_empty_iff]
  | cons e es ih =>
      simp only [List.cons_append, fits_sequence_cons_iff, ih]
      constructor
      · rintro ⟨u, _, rfl, he, v, w, rfl, hes, hfs⟩
        refine ⟨u ++ v, w, (List.append_assoc u v w).symm, ⟨u, v, rfl, ?_, hes⟩, ?_⟩
        · rwa [← List.append_assoc]
        · rwa [← List.append_assoc]
      · rintro ⟨_, w, rfl, ⟨u, v, rfl, he, hes⟩, hfs⟩
        refine ⟨u, v ++ w, List.append_assoc u v w, ?_, v, w, rfl, hes, ?_⟩
        · rwa [List.append_assoc]
        · rwa [List.append_assoc]

theorem fits_oneOf_iff : Fits before after (oneOf es) piece ↔
    ∃ e ∈ es, Fits before after e piece := by
  induction es with
  | nil => simp [oneOf, fits_never_iff]
  | cons e es ih =>
      cases es with
      | nil => simp [oneOf]
      | cons e' es =>
          rw [show oneOf (e :: e' :: es) = .alt e (oneOf (e' :: es)) from rfl, fits_alt_iff, ih,
            List.exists_mem_cons_iff (l := e' :: es)]

theorem fits_optional_iff : Fits before after (optional e) piece ↔
    piece = [] ∨ Fits before after e piece := by
  have hle : before.length ≤ (before ++ piece ++ after).toArray.size := by simp
  unfold Fits optional
  rw [spans_atMost_iff hle]
  constructor
  · rintro ⟨k, hk, steps⟩
    obtain rfl | rfl : k = 0 ∨ k = 1 := by omega
    · have hend := steps_zero_iff.1 steps
      exact Or.inl (List.eq_nil_of_length_eq_zero (by omega))
    · obtain ⟨j, first, rest⟩ := steps_succ_iff.1 steps
      exact Or.inr (steps_zero_iff.1 rest ▸ first)
  · rintro (rfl | h)
    · exact ⟨0, by omega, .zero _⟩
    · exact ⟨1, Nat.le_refl 1, .succ h (.zero _)⟩

/-- A repetition of an expression that matches every symbol matches every piece. -/
theorem fits_star_of_symbols {test : σ → Bool} (h : ∀ c, test c = true) :
    Fits before after (.star (.symbol test)) piece := by
  induction piece generalizing before with
  | nil => exact .stop (by simp)
  | cons c piece ih =>
      have hrest := @ih (before ++ [c])
      unfold Fits at *
      refine .more (.symbol (c := c) (by simp) (h c)) ?_
      simpa [List.append_assoc, Nat.add_assoc, Nat.add_comm 1] using hrest

end EndpointMonitor.Pattern.Expr
