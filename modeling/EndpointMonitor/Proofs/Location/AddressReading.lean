import EndpointMonitor.Proofs.Location.ManagementAddresses
import EndpointMonitor.Proofs.Readings
import EndpointMonitor.Proofs.Text.Trimming
import Mathlib.Data.List.ModifyLast

/-!
# Reading management addresses back

The text of an address is read after its blanks have been trimmed off, and reading accepts no
empty key and no empty value. Escaping gets in the way of neither. So an address is read back
from its text exactly if it has no empty part and trimming leaves its last value alone. The
JSON form needs no such care.
-/

namespace EndpointMonitor

/-- Whether a segment has a key and a value. -/
def Segment.Filled (s : Segment) : Prop :=
  s.key ≠ "" ∧ s.value ≠ ""

namespace ManagementAddress

/-! ### The JSON form -/

theorem mapM_segmentOfJson (ss : List Segment) :
    (ss.map fun s => Json.obj [(s.key, .str s.value)]).mapM segmentOfJson = .ok ss := by
  rw [mapM_eq_ok_iff, List.forall₂_map_left_iff]
  exact List.forall₂_same.2 fun _ _ => rfl

theorem ofJson_toJson (a : ManagementAddress) : ofJson a.toJson = .ok a := by
  rw [toJson, ofJson, mapM_segmentOfJson]
  rfl

/-! ### Pieces -/

/-- What is read from a piece has a key and a value. -/
theorem filled_of_readSegment {text piece : List Char} {s : Segment}
    (h : readSegment text piece = .ok s) : s.Filled := by
  unfold readSegment at h
  split at h
  · cases h
  · split at h
    · cases h
    · rename_i hfilled
      cases h
      simpa [Segment.Filled, not_or] using hfilled

/-- A piece is read as the segment it was written for, if that is filled. -/
theorem readSegment_pieceChars_iff {text : List Char} {s t : Segment} :
    readSegment text (pieceChars s) = .ok t ↔ t = s ∧ s.Filled := by
  constructor
  · intro h
    have filled := filled_of_readSegment h
    rw [readSegment, splitSegment_pieceChars] at h
    simp only [String.ofList_toList] at h
    split at h
    · cases h
    · cases h
      exact ⟨rfl, filled⟩
  · rintro ⟨rfl, hkey, hvalue⟩
    rw [readSegment, splitSegment_pieceChars]
    simp [hkey, hvalue]

theorem filled_of_mapM_readSegment {text : List Char} {pieces : List (List Char)}
    {ss : List Segment} (h : pieces.mapM (readSegment text) = .ok ss) : ∀ s ∈ ss, s.Filled := by
  have read := mapM_eq_ok_iff.1 h
  clear h
  induction read with
  | nil => simp
  | cons hs _ ih => exact List.forall_mem_cons.2 ⟨filled_of_readSegment hs, ih⟩

theorem mapM_readSegment_pieceChars_iff {text : List Char} {ss ts : List Segment} :
    (ss.map pieceChars).mapM (readSegment text) = .ok ts ↔ ts = ss ∧ ∀ s ∈ ss, s.Filled := by
  have one : (fun s t => readSegment text (pieceChars s) = .ok t) =
      fun s t => s.Filled ∧ s = t := by
    funext s t
    rw [readSegment_pieceChars_iff, and_comm, @eq_comm _ t]
  rw [mapM_eq_ok_iff, List.forall₂_map_left_iff, one, List.forall₂_and_left,
    List.forall₂_eq_eq_eq, and_comm, @eq_comm _ ss]

theorem map_mk_eq_ok_iff {x : Except LocationFault (List Segment)} {a : ManagementAddress} :
    x.map ManagementAddress.mk = .ok a ↔ x = .ok a.segments := by
  rw [except_map_eq_ok_iff]
  constructor
  · rintro ⟨ss, hss, rfl⟩
    exact hss
  · exact fun h => ⟨a.segments, h, rfl⟩

/-- Reading accepts no empty key and no empty value. -/
theorem filled_of_readChars {cs : List Char} {a : ManagementAddress}
    (h : readChars cs = .ok a) : ∀ s ∈ a.segments, s.Filled := by
  unfold readChars at h
  split at h
  · cases h
    simp
  · split at h
    · cases h
    · exact filled_of_mapM_readSegment (map_mk_eq_ok_iff.1 h)

theorem filter_map_pieceChars (ss : List Segment) :
    (ss.map pieceChars).filter (fun p => !p.isEmpty) = ss.map pieceChars := by
  rw [List.filter_eq_self]
  intro piece hpiece
  obtain ⟨s, -, rfl⟩ := List.mem_map.1 hpiece
  simp [pieceChars]

/-- The text of an address, as it is, is read as that address if all of it is filled. -/
theorem readChars_chars_iff {a b : ManagementAddress} :
    readChars a.chars = .ok b ↔ b = a ∧ ∀ s ∈ a.segments, s.Filled := by
  obtain ⟨_ | ⟨s, ss⟩⟩ := a
  · simp [readChars, chars, eq_comm]
  · have hchars : chars ⟨s :: ss⟩ = '/' :: (pieceChars s ++ ss.flatMap segmentChars) := by
      simp [chars, segmentChars_eq]
    have hlong : ¬ ((chars ⟨s :: ss⟩).isEmpty ∨ chars ⟨s :: ss⟩ = ['/']) := by
      simp [hchars, pieceChars]
    rw [readChars, if_neg hlong, splitPath_chars]
    simp only [List.isEmpty_cons, Bool.false_eq_true, if_false]
    rw [List.filter_cons_of_neg (by simp), filter_map_pieceChars, map_mk_eq_ok_iff,
      mapM_readSegment_pieceChars_iff]
    cases b
    simp

/-! ### Trimmed texts -/

theorem escape_concat (cs : List Char) (c : Char) :
    escape (cs ++ [c]) = escape cs ++ escapeChar c := by
  simp [escape]

/-- Blanks are written as they are, so escaping and trimming can change places. -/
theorem trimRight_escape (cs : List Char) :
    Text.trimRight (escape cs) = escape (Text.trimRight cs) := by
  induction cs using List.reverseRecOn with
  | nil => rfl
  | append_singleton cs c ih =>
      rw [escape_concat]
      cases hc : Text.isBlank c with
      | true =>
          have plain : ¬(c = '\\' ∨ c = '/' ∨ c = '=') := by
            rintro (rfl | rfl | rfl) <;> revert hc <;> decide
          rw [escapeChar_of_plain plain, Text.trimRight_concat_blank hc,
            Text.trimRight_concat_blank hc, ih]
      | false =>
          -- The character itself is written last, with or without a backslash before it.
          obtain ⟨before, hbefore⟩ : ∃ before, escapeChar c = before ++ [c] := by
            unfold escapeChar
            split
            · exact ⟨['\\'], rfl⟩
            · exact ⟨[], rfl⟩
          rw [hbefore, ← List.append_assoc, Text.trimRight_concat hc, Text.trimRight_concat hc,
            escape_concat, hbefore, List.append_assoc]

/-- The segment without the blanks at the end of its value. -/
def trimmedSegment (s : Segment) : Segment :=
  { s with value := String.ofList (Text.trimRight s.value.toList) }

/-- The address without the blanks at the end of its last value. -/
def trimmed (a : ManagementAddress) : ManagementAddress :=
  ⟨a.segments.modifyLast trimmedSegment⟩

/-- Whether the last value, if there is one, ends in no blank. -/
def EndsVisibly (a : ManagementAddress) : Prop :=
  ∀ s ∈ a.segments.getLast?, ∀ c ∈ s.value.toList.getLast?, Text.isBlank c = false

theorem trimmedSegment_eq_self_iff {s : Segment} :
    trimmedSegment s = s ↔ ∀ c ∈ s.value.toList.getLast?, Text.isBlank c = false := by
  rw [← Text.trimRight_eq_self_iff]
  cases s
  simp [trimmedSegment, ← String.toList_inj]

theorem trimmed_eq_self_iff {a : ManagementAddress} : a.trimmed = a ↔ a.EndsVisibly := by
  obtain ⟨ss⟩ := a
  rcases List.eq_nil_or_concat' ss with rfl | ⟨ss, s, rfl⟩
  · exact iff_of_true rfl (by simp [EndsVisibly])
  · simp [trimmed, EndsVisibly, List.modifyLast_concat, trimmedSegment_eq_self_iff]

/-- Trimming the text of an address trims its last value and nothing else. -/
theorem trim_chars (a : ManagementAddress) : Text.trim a.chars = a.trimmed.chars := by
  obtain ⟨ss⟩ := a
  rcases List.eq_nil_or_concat' ss with rfl | ⟨ss, s, rfl⟩
  · rfl
  · have hchars : ∀ t : Segment, chars ⟨ss ++ [t]⟩ =
        (ss.flatMap segmentChars ++ '/' :: escape t.key.toList) ++
          '=' :: escape t.value.toList := by
      intro t
      simp [chars, segmentChars]
    -- Whichever segment is the first one, the text begins with its slash.
    have visible : Text.trimLeft (ss.flatMap segmentChars ++ '/' :: escape s.key.toList) =
        ss.flatMap segmentChars ++ '/' :: escape s.key.toList := by
      cases ss with
      | nil => exact Text.trimLeft_cons rfl
      | cons t ss => exact Text.trimLeft_cons rfl
    calc Text.trim (chars ⟨ss ++ [s]⟩)
        = Text.trimLeft (ss.flatMap segmentChars ++ '/' :: escape s.key.toList) ++
            '=' :: Text.trimRight (escape s.value.toList) := by
          rw [hchars, Text.trim_append_cons rfl]
      _ = (ss.flatMap segmentChars ++ '/' :: escape s.key.toList) ++
            '=' :: escape (Text.trimRight s.value.toList) := by rw [visible, trimRight_escape]
      _ = chars ⟨ss ++ [trimmedSegment s]⟩ := by simp [hchars, trimmedSegment]
      _ = (trimmed ⟨ss ++ [s]⟩).chars := by rw [trimmed, List.modifyLast_concat]

/-- What is read from the text of an address is the address without the blanks at its end, if
nothing in that is empty. -/
theorem read_text_iff {a b : ManagementAddress} :
    read a.text = .ok b ↔ b = a.trimmed ∧ ∀ s ∈ a.trimmed.segments, s.Filled := by
  rw [read, text, String.toList_ofList, trim_chars, readChars_chars_iff]

theorem read_text_self_iff {a : ManagementAddress} :
    read a.text = .ok a ↔ (∀ s ∈ a.segments, s.Filled) ∧ a.EndsVisibly := by
  rw [read_text_iff, ← trimmed_eq_self_iff]
  constructor
  · rintro ⟨ha, hfilled⟩
    rw [← ha] at hfilled
    exact ⟨hfilled, ha.symm⟩
  · rintro ⟨hfilled, ha⟩
    rw [ha]
    exact ⟨rfl, hfilled⟩

/-- Every address is read back from its JSON form. It is read back from its text exactly if its
keys and values are not empty and the last value ends in no blank; of an address that was read
itself, only the last value matters. -/
theorem reads_back (a : ManagementAddress) :
    ofJson a.toJson = .ok a ∧
      (read a.text = .ok a ↔
        (∀ s ∈ a.segments, s.key ≠ "" ∧ s.value ≠ "") ∧ a.EndsVisibly) ∧
      ∀ t, read t = .ok a → (read a.text = .ok a ↔ a.EndsVisibly) := by
  refine ⟨ofJson_toJson a, read_text_self_iff, ?_⟩
  intro t ht
  rw [read_text_self_iff]
  exact and_iff_right (filled_of_readChars ht)

/-- Separators, backslashes and wildcards are read back. A blank that only a slash at the end of
the text has kept is lost. -/
theorem reads_back_separators :
    (∃ a, read "//a\\/b=x\\=y/\\\\=* /k= *" = .ok a ∧ a.segments.length = 3 ∧
      read a.text = .ok a ∧ ofJson a.toJson = .ok a) ∧
    ∃ a, read "/k=v /" = .ok a ∧ ¬ a.EndsVisibly ∧ read a.text ≠ .ok a ∧
      ofJson a.toJson = .ok a := by
  constructor
  · have hread : read "//a\\/b=x\\=y/\\\\=* /k= *" =
        .ok ⟨[⟨"a/b", "x=y"⟩, ⟨"\\", "* "⟩, ⟨"k", " *"⟩]⟩ := by decide +kernel
    obtain ⟨json, -, again⟩ := reads_back ⟨[⟨"a/b", "x=y"⟩, ⟨"\\", "* "⟩, ⟨"k", " *"⟩]⟩
    exact ⟨_, hread, rfl, (again _ hread).2 (by simp [EndsVisibly]; decide), json⟩
  · have hread : read "/k=v /" = .ok ⟨[⟨"k", "v "⟩]⟩ := by decide +kernel
    have blank : ¬ EndsVisibly ⟨[⟨"k", "v "⟩]⟩ := by
      intro visible
      exact absurd (visible _ rfl ' ' (by decide)) (by decide)
    obtain ⟨json, -, again⟩ := reads_back ⟨[⟨"k", "v "⟩]⟩
    exact ⟨_, hread, blank, fun h => blank ((again _ hread).1 h), json⟩

end ManagementAddress

end EndpointMonitor
