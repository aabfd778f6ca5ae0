import EndpointMonitor.Text.Blank
import EndpointMonitor.Text.Split
import Mathlib.Data.List.DropRight

/-!
# Trimming and cutting

Trimming stops at the first character from either end that is no blank. So it is done once for
all, and what stands on the two sides of such a character is trimmed separately. A separator is
no blank: of the pieces between separators, trimming touches the first and the last one only.
-/

namespace EndpointMonitor.Text

variable {c : Char} {cs : List Char}

theorem trimRight_eq_rdropWhile (cs : List Char) : trimRight cs = cs.rdropWhile isBlank := rfl

theorem trimLeft_trimLeft (cs : List Char) : trimLeft (trimLeft cs) = trimLeft cs :=
  List.dropWhile_idempotent isBlank cs

theorem trimRight_trimRight (cs : List Char) : trimRight (trimRight cs) = trimRight cs :=
  List.rdropWhile_idempotent isBlank cs

theorem trimRight_concat_blank (h : isBlank c = true) : trimRight (cs ++ [c]) = trimRight cs :=
  List.rdropWhile_concat_pos isBlank cs c h

/-- Nothing is trimmed off on the right exactly if the last character is no blank. -/
theorem trimRight_eq_self_iff : trimRight cs = cs ↔ ∀ c ∈ cs.getLast?, isBlank c = false := by
  rcases List.eq_nil_or_concat' cs with rfl | ⟨ds, d, rfl⟩
  · simp [trimRight]
  · cases hd : isBlank d with
    | true =>
        have shorter : (trimRight ds).length ≤ ds.length :=
          (List.rdropWhile_prefix isBlank ds).length_le
        have differs : trimRight ds ≠ ds ++ [d] := by
          intro heq
          rw [heq, List.length_append, List.length_singleton] at shorter
          omega
        simp [trimRight_concat_blank hd, differs, hd]
    | false => simp [trimRight_concat hd, hd]

theorem trimLeft_append_cons (h : isBlank c = false) (before after : List Char) :
    trimLeft (before ++ c :: after) = trimLeft before ++ c :: after := by
  unfold trimLeft
  rw [List.dropWhile_append]
  split
  · rename_i hempty
    rw [List.isEmpty_iff.1 hempty, List.dropWhile_cons_of_neg (by simp [h]), List.nil_append]
  · rfl

theorem trimRight_append_cons (h : isBlank c = false) (before after : List Char) :
    trimRight (before ++ c :: after) = before ++ c :: trimRight after := by
  -- Characters are taken off at the end, so the induction takes them off there too.
  induction after using List.reverseRecOn with
  | nil => exact trimRight_concat h
  | append_singleton after d ih =>
      rw [← List.cons_append, ← List.append_assoc]
      cases hd : isBlank d with
      | true => rw [trimRight_concat_blank hd, trimRight_concat_blank hd, ih]
      | false => rw [trimRight_concat hd, trimRight_concat hd, List.append_assoc, List.cons_append]

/-- The two sides of a character that is no blank are trimmed separately. -/
theorem trim_append_cons (h : isBlank c = false) (before after : List Char) :
    trim (before ++ c :: after) = trimLeft before ++ c :: trimRight after := by
  rw [trim, trimLeft_append_cons h, trimRight_append_cons h]

/-- A text consists of blanks, or some character in it is none. -/
theorem blank_or_split (cs : List Char) : (∀ c ∈ cs, isBlank c = true) ∨
    ∃ before c after, cs = before ++ c :: after ∧ isBlank c = false := by
  by_cases h : ∀ c ∈ cs, isBlank c = true
  · exact .inl h
  · simp only [not_forall, Bool.not_eq_true] at h
    obtain ⟨c, hc, hblank⟩ := h
    obtain ⟨before, after, rfl⟩ := List.append_of_mem hc
    exact .inr ⟨before, c, after, rfl, hblank⟩

theorem trim_of_blank (h : ∀ c ∈ cs, isBlank c = true) : trim cs = [] := by
  rw [trim, trimLeft, List.dropWhile_eq_nil_iff.2 h]
  rfl

theorem trim_trim (cs : List Char) : trim (trim cs) = trim cs := by
  rcases blank_or_split cs with hblank | ⟨before, c, after, rfl, hc⟩
  · rw [trim_of_blank hblank, trim_nil]
  · rw [trim_append_cons hc, trim_append_cons hc, trimLeft_trimLeft, trimRight_trimRight]

theorem trim_trimRight (cs : List Char) : trim (trimRight cs) = trim cs := by
  rcases blank_or_split cs with hblank | ⟨before, c, after, rfl, hc⟩
  · rw [trim_of_blank hblank, trimRight_eq_rdropWhile, List.rdropWhile_eq_nil_iff.2 hblank,
      trim_nil]
  · rw [trimRight_append_cons hc, trim_append_cons hc, trim_append_cons hc, trimRight_trimRight]

/-! ### Pieces -/

variable {sep : Char} {ps : List (List Char)}

theorem pieces_eq_splitOn (sep : Char) (cs : List Char) : pieces sep cs = cs.splitOn sep := by
  have h : ([sep].intercalate (pieces sep cs)).splitOn sep = pieces sep cs :=
    List.splitOn_intercalate sep (fun _ => notMem_of_mem_pieces) (by simp [pieces])
  rwa [intercalate_pieces, eq_comm] at h

/-- Joined texts without the separator are the pieces of their intercalation. -/
theorem pieces_intercalate (h : ∀ p ∈ ps, sep ∉ p) (hne : ps ≠ []) :
    pieces sep ([sep].intercalate ps) = ps := by
  rw [pieces_eq_splitOn, List.splitOn_intercalate sep h hne]

theorem intercalate_concat (hne : ps ≠ []) (p : List Char) :
    [sep].intercalate (ps ++ [p]) = [sep].intercalate ps ++ sep :: p := by
  induction ps with
  | nil => exact absurd rfl hne
  | cons q ps ih =>
      by_cases hps : ps = []
      · subst hps
        simp [List.intercalate]
      · rw [List.cons_append, List.intercalate_cons_of_ne_nil (by simp), ih hps,
          List.intercalate_cons_of_ne_nil hps]
        simp

/-- What is trimmed off on the right is trimmed off the last piece. -/
theorem pieces_trimRight (hsep : isBlank sep = false) (cs : List Char) :
    ∃ ps p, pieces sep cs = ps ++ [p] ∧ pieces sep (trimRight cs) = ps ++ [trimRight p] := by
  obtain ⟨ps, p, hpieces⟩ : ∃ ps p, pieces sep cs = ps ++ [p] :=
    (List.eq_nil_or_concat' (pieces sep cs)).resolve_left (List.cons_ne_nil _ _)
  have free : ∀ q ∈ ps ++ [trimRight p], sep ∉ q := by
    have hcs : ∀ q ∈ ps ++ [p], sep ∉ q := fun q hq => notMem_of_mem_pieces (hpieces ▸ hq)
    intro q hq
    rcases List.mem_append.1 hq with hq | hq
    · exact hcs q (by simp [hq])
    · rw [List.mem_singleton.1 hq]
      intro hmem
      exact hcs p (by simp) ((List.rdropWhile_prefix isBlank p).subset hmem)
  have joined : trimRight cs = [sep].intercalate (ps ++ [trimRight p]) := by
    rw [← intercalate_pieces sep cs, hpieces]
    by_cases hps : ps = []
    · subst hps
      simp
    · calc trimRight ([sep].intercalate (ps ++ [p]))
          = trimRight ([sep].intercalate ps ++ sep :: p) := by rw [intercalate_concat hps]
        _ = [sep].intercalate ps ++ sep :: trimRight p := trimRight_append_cons hsep _ p
        _ = [sep].intercalate (ps ++ [trimRight p]) := (intercalate_concat hps _).symm
  refine ⟨ps, p, hpieces, ?_⟩
  rw [joined, pieces_intercalate free (by simp)]

end EndpointMonitor.Text
