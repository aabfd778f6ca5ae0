import EndpointMonitor.Pattern.Glob
import EndpointMonitor.Proofs.Pattern.Pieces
import EndpointMonitor.Proofs.Pattern.Spelling

/-!
# What the parts of a glob stand for

Each part of a glob stands for some pieces of bytes, and a text is matched if it is made of such
pieces, one for each part. The matcher decides exactly this.
-/

namespace EndpointMonitor.Pattern.Glob

open EndpointMonitor.Pattern.Expr

mutual

/-- The pieces of bytes that a part of a glob stands for. -/
def Takes : GlobToken → List UInt8 → Prop
  | .literal c, w => w = String.utf8EncodeChar c
  | .anyByte, w => ∃ b, w = [b]
  | .anyBytes, _ => True
  | .leadingDirs, w => w = [] ∨ ∃ u, w = u ++ [47]
  | .trailingPath, w => ∃ u, w = 47 :: u
  | .middleDirs, w => w = [47] ∨ ∃ u, w = 47 :: (u ++ [47])
  | .byteClass negated ranges, w => ∃ b, w = [b] ∧ inRanges ranges b ≠ negated
  | .alternatives options, w => TakesOption options w ∨ optionExprs options = [] ∧ w = []

/-- The bytes that parts stand for when they follow one another. -/
def Reads : List GlobToken → List UInt8 → Prop
  | [], w => w = []
  | t :: ts, w => ∃ u v, w = u ++ v ∧ Takes t u ∧ Reads ts v

/-- The bytes that some alternative stands for which is not empty. -/
def TakesOption : List (List GlobToken) → List UInt8 → Prop
  | [], _ => False
  | option :: options, w => tokenExprs option ≠ [] ∧ Reads option w ∨ TakesOption options w

end

section Bytes

variable {before after piece : List UInt8}

theorem bytesOf_eq (c : Char) : bytesOf c = String.utf8EncodeChar c := by
  rw [bytesOf, Text.toUTF8_toList, String.toList_singleton, Text.utf8_cons, Text.utf8_nil,
    List.append_nil]

theorem utf8EncodeChar_slash : String.utf8EncodeChar '/' = [47] := by
  decide

theorem fits_bytes_iff {bytes : List UInt8} :
    Fits before after (Expr.sequence (bytes.map byte)) piece ↔ piece = bytes := by
  induction bytes generalizing before piece with
  | nil => rw [List.map_nil, Expr.sequence, fits_empty_iff]
  | cons b bytes ih =>
      rw [List.map_cons, fits_sequence_cons_iff]
      simp only [ih, byte, fits_symbol_iff]
      grind

theorem fits_anyByte_iff : Fits before after anyByte piece ↔ ∃ b, piece = [b] := by
  simp [anyByte, fits_symbol_iff]

theorem fits_anyBytes : Fits before after anyBytes piece :=
  fits_star_of_symbols fun _ => rfl

theorem fits_slash_iff : Fits before after slash piece ↔ piece = [47] := by
  rw [slash, byte, fits_symbol_iff]
  grind

end Bytes

section Parts

variable {before after w : List UInt8}

theorem fits_leadingDirs_iff :
    Fits before after (.alt (.optional slash) (.seq anyBytes slash)) w ↔
      w = [] ∨ ∃ u, w = u ++ [47] := by
  simp only [fits_alt_iff, fits_optional_iff, fits_seq_iff, fits_slash_iff, fits_anyBytes, true_and]
  constructor
  · rintro ((rfl | rfl) | ⟨u, _, rfl, rfl⟩)
    · exact Or.inl rfl
    · exact Or.inr ⟨[], rfl⟩
    · exact Or.inr ⟨u, rfl⟩
  · rintro (rfl | ⟨u, rfl⟩)
    · exact Or.inl (Or.inl rfl)
    · exact Or.inr ⟨u, [47], rfl, rfl⟩

theorem fits_trailingPath_iff :
    Fits before after (.seq slash anyBytes) w ↔ ∃ u, w = 47 :: u := by
  simp only [fits_seq_iff, fits_slash_iff, fits_anyBytes, and_true]
  constructor
  · rintro ⟨_, u, rfl, rfl⟩
    exact ⟨u, rfl⟩
  · rintro ⟨u, rfl⟩
    exact ⟨[47], u, rfl, rfl⟩

theorem fits_middleDirs_iff :
    Fits before after (.alt slash (.seq slash (.seq anyBytes slash))) w ↔
      w = [47] ∨ ∃ u, w = 47 :: (u ++ [47]) := by
  simp only [fits_alt_iff, fits_seq_iff, fits_slash_iff, fits_anyBytes, true_and]
  refine or_congr_right ⟨?_, ?_⟩
  · rintro ⟨_, _, rfl, rfl, u, _, rfl, rfl⟩
    exact ⟨u, rfl⟩
  · rintro ⟨u, rfl⟩
    exact ⟨[47], u ++ [47], rfl, rfl, u, [47], rfl, rfl⟩

theorem tokenExprs_cons (t : GlobToken) (ts : List GlobToken) :
    tokenExprs (t :: ts) = (tokenExpr t).toList ++ tokenExprs ts := by
  rw [tokenExprs]
  cases tokenExpr t <;> rfl

theorem optionExprs_cons (option : List GlobToken) (options : List (List GlobToken)) :
    optionExprs (option :: options) =
      (if tokenExprs option = [] then [] else [Expr.sequence (tokenExprs option)]) ++
        optionExprs options := by
  rw [optionExprs]
  cases h : tokenExprs option <;> simp

theorem tokenExpr_alternatives (options : List (List GlobToken)) :
    (tokenExpr (.alternatives options)).toList =
      if optionExprs options = [] then [] else [Expr.oneOf (optionExprs options)] := by
  rw [tokenExpr]
  cases h : optionExprs options <;> simp

mutual

/-- A part matches the pieces that it stands for. -/
theorem fits_tokenExpr_iff : ∀ (t : GlobToken) (before after w : List UInt8),
    Fits before after (Expr.sequence (tokenExpr t).toList) w ↔ Takes t w
  | .literal c, _, _, _ => by
    rw [tokenExpr, Takes, Option.toList_some, Expr.sequence, fits_bytes_iff, bytesOf_eq]
  | .anyByte, _, _, _ => by
    rw [tokenExpr, Takes, Option.toList_some, Expr.sequence, fits_anyByte_iff]
  | .anyBytes, _, _, _ => by
    rw [tokenExpr, Takes, Option.toList_some, Expr.sequence, iff_true]
    exact fits_anyBytes
  | .leadingDirs, _, _, _ => by
    rw [tokenExpr, Takes, Option.toList_some, Expr.sequence, fits_leadingDirs_iff]
  | .trailingPath, _, _, _ => by
    rw [tokenExpr, Takes, Option.toList_some, Expr.sequence, fits_trailingPath_iff]
  | .middleDirs, _, _, _ => by
    rw [tokenExpr, Takes, Option.toList_some, Expr.sequence, fits_middleDirs_iff]
  | .byteClass negated ranges, _, _, _ => by
    simp only [tokenExpr, Takes, Option.toList_some, Expr.sequence, fits_symbol_iff, bne_iff_ne]
  | .alternatives options, before, after, w => by
    have hoptions := exists_optionExprs_iff options before after w
    rw [tokenExpr_alternatives, Takes, ← hoptions]
    split
    · rename_i hnone
      simp [Expr.sequence, fits_empty_iff, hnone]
    · rename_i hsome
      simp [Expr.sequence, fits_oneOf_iff, hsome]

theorem fits_tokenExprs_iff : ∀ (ts : List GlobToken) (before after w : List UInt8),
    Fits before after (Expr.sequence (tokenExprs ts)) w ↔ Reads ts w
  | [], _, _, _ => by
    rw [tokenExprs, Expr.sequence, fits_empty_iff, Reads]
  | t :: ts, _, _, _ => by
    simp only [tokenExprs_cons, Reads, fits_sequence_append_iff, fits_tokenExpr_iff t,
      fits_tokenExprs_iff ts]

theorem exists_optionExprs_iff : ∀ (options : List (List GlobToken)) (before after w : List UInt8),
    (∃ e ∈ optionExprs options, Fits before after e w) ↔ TakesOption options w
  | [], _, _, _ => by
    simp only [optionExprs, TakesOption, List.not_mem_nil, false_and, exists_false]
  | option :: options, before, after, w => by
    have hoption := fits_tokenExprs_iff option before after w
    have hoptions := exists_optionExprs_iff options before after w
    rw [optionExprs_cons, TakesOption, ← hoption, ← hoptions]
    split
    · rename_i hnone
      simp [hnone]
    · rename_i hsome
      simp [hsome]

end

/-- A glob matches the texts whose bytes it stands for. A lone double star matches everything. -/
theorem isMatch_iff (ts : List GlobToken) (text : String) :
    isMatch (expr ts) text = true ↔ ts = [.leadingDirs] ∨ Reads ts (Text.utf8 text.toList) := by
  have spans_iff : ∀ e : Expr UInt8, isMatch e text = true ↔
      Fits [] [] e (Text.utf8 text.toList) := by
    intro e
    rw [isMatch, spansAll_iff, Fits, ← Text.toUTF8_data_toList]
    simp
  unfold expr
  split
  · simp [spans_iff, fits_anyBytes]
  · rename_i hnot
    rw [spans_iff, fits_tokenExprs_iff]
    exact (or_iff_right hnot).symm

end Parts

end EndpointMonitor.Pattern.Glob
