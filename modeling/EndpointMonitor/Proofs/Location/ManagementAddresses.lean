import EndpointMonitor.Location.ManagementAddress

/-!
# Texts of management addresses

Escaping takes every separator of a key or a value out of its role. So the pieces between
the slashes of a text are those of its address, the first equals sign of a piece stands
between key and value, and no two addresses have the same text.
-/

namespace EndpointMonitor.ManagementAddress

/-- A segment as it is written between two slashes. -/
def pieceChars (s : Segment) : List Char :=
  escape s.key.toList ++ '=' :: escape s.value.toList

theorem segmentChars_eq (s : Segment) : segmentChars s = '/' :: pieceChars s := rfl

theorem escape_cons (c : Char) (cs : List Char) : escape (c :: cs) = escapeChar c ++ escape cs :=
  rfl

theorem escapeChar_of_separator {c : Char} (h : c = '\\' ∨ c = '/' ∨ c = '=') :
    escapeChar c = ['\\', c] :=
  if_pos h

theorem escapeChar_of_plain {c : Char} (h : ¬(c = '\\' ∨ c = '/' ∨ c = '=')) :
    escapeChar c = [c] :=
  if_neg h

/-- Unescaping undoes escaping. -/
theorem unescape_escape (cs : List Char) : unescape (escape cs) = some cs := by
  induction cs with
  | nil => rfl
  | cons c rest ih =>
      rw [escape_cons]
      by_cases hc : c = '\\' ∨ c = '/' ∨ c = '='
      · rw [escapeChar_of_separator hc]
        simp [unescape, ih]
      · rw [escapeChar_of_plain hc]
        simp only [not_or] at hc
        simp [unescape, hc.1, ih]

/-- The pieces of a text that begins with an escaped one. -/
theorem splitPath_escape_append (cs rest : List Char) :
    splitPath (escape cs ++ rest) =
      (splitPath rest).map fun (piece, pieces) => (escape cs ++ piece, pieces) := by
  induction cs with
  | nil => simp [escape]
  | cons c cs ih =>
      rw [escape_cons]
      by_cases hc : c = '\\' ∨ c = '/' ∨ c = '='
      · rw [escapeChar_of_separator hc]
        simp [splitPath, ih, Function.comp_def]
      · rw [escapeChar_of_plain hc]
        simp only [not_or] at hc
        simp [splitPath, hc, ih, Function.comp_def]

/-- An equals sign belongs to the piece it stands in. -/
theorem splitPath_equals (rest : List Char) :
    splitPath ('=' :: rest) =
      (splitPath rest).map fun (piece, pieces) => ('=' :: piece, pieces) := by
  simp [splitPath]

/-- The key of a piece is what stands before its own equals sign. -/
theorem splitSegment_pieceChars (s : Segment) :
    splitSegment (pieceChars s) = some (s.key.toList, s.value.toList) := by
  unfold pieceChars
  induction s.key.toList with
  | nil =>
      change splitSegment ('=' :: escape s.value.toList) = _
      simp [splitSegment, unescape_escape]
  | cons c cs ih =>
      rw [escape_cons]
      by_cases hc : c = '\\' ∨ c = '/' ∨ c = '='
      · rw [escapeChar_of_separator hc]
        simp [splitSegment, ih]
      · rw [escapeChar_of_plain hc]
        simp only [not_or] at hc
        simp [splitSegment, hc, ih]

theorem pieceChars_injective : Function.Injective pieceChars := by
  intro s t hst
  have h : some (s.key.toList, s.value.toList) = some (t.key.toList, t.value.toList) := by
    rw [← splitSegment_pieceChars, hst, splitSegment_pieceChars]
  cases s
  cases t
  simpa [String.toList_inj] using h

/-- The pieces of the text of some segments are those of the segments. -/
theorem splitPath_segments (ss : List Segment) :
    splitPath (ss.flatMap segmentChars) = some ([], ss.map pieceChars) := by
  induction ss with
  | nil => rfl
  | cons s ss ih =>
      have hrest : splitPath (pieceChars s ++ ss.flatMap segmentChars) =
          some (pieceChars s, ss.map pieceChars) := by
        rw [pieceChars, List.append_assoc, splitPath_escape_append, List.cons_append,
          splitPath_equals, splitPath_escape_append, ih]
        simp
      rw [List.flatMap_cons, segmentChars_eq, List.cons_append, splitPath, hrest]
      rfl

/-- The pieces of an address; the root has one empty piece. -/
theorem splitPath_chars (a : ManagementAddress) :
    splitPath a.chars =
      some ([], if a.segments.isEmpty then [[]] else a.segments.map pieceChars) := by
  unfold chars
  split
  · simp [splitPath]
  · exact splitPath_segments _

theorem chars_injective : Function.Injective chars := by
  intro a b hab
  have hpieces := splitPath_chars a
  rw [hab, splitPath_chars b] at hpieces
  have hne : ∀ ss : List Segment, [[]] ≠ ss.map pieceChars := by
    rintro (_ | ⟨s, _⟩) h <;> simp [pieceChars] at h
  have hsegments : a.segments = b.segments := by
    by_cases ha : a.segments = [] <;> by_cases hb : b.segments = [] <;>
      simp only [ha, hb, Option.some.injEq, Prod.mk.injEq, true_and, List.isEmpty_iff, if_true,
        if_false] at hpieces ⊢
    · exact absurd hpieces.symm (hne _)
    · exact absurd hpieces (hne _)
    · exact ((List.map_inj_right fun _ _ h => pieceChars_injective h).1 hpieces).symm
  cases a
  cases b
  exact congrArg _ hsegments

/-- Different addresses have different texts. -/
theorem text_injective : Function.Injective text :=
  fun _ _ h => chars_injective (String.ofList_injective h)

end EndpointMonitor.ManagementAddress
