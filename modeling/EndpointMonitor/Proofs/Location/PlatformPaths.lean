import EndpointMonitor.Location.PlatformPath
import EndpointMonitor.Proofs.Readings

/-!
# Texts of platform paths

Nothing is escaped in a platform path, so a path made of arbitrary segments may have the text
of another. A path that was read has the text it was read from, up to the blanks around it,
and so its text tells what it is.
-/

namespace EndpointMonitor

namespace Text

/-- The pieces with the separator between them are the text. -/
theorem splitOnText_append (sep cs : List Char) :
    (splitOnText sep cs).1 ++ (splitOnText sep cs).2.flatMap (sep ++ ·) = cs := by
  fun_induction splitOnText sep cs with
  | case1 => rfl
  | case2 c rest h piece pieces heq ih =>
      simp only [heq] at ih
      obtain ⟨hstarts, hsep⟩ := Bool.and_eq_true_iff.1 h
      obtain ⟨tail, htail⟩ := List.isPrefixOf_iff_prefix.1 hstarts
      obtain ⟨d, sep', rfl⟩ := List.exists_cons_of_ne_nil (by simpa using hsep)
      simp only [List.cons_append, List.cons.injEq] at htail
      obtain ⟨rfl, rfl⟩ := htail
      simpa using ih
  | case3 c rest h piece pieces heq ih => simpa [heq] using ih

end Text

namespace PlatformPath

/-- A segment as it is written between its brackets. -/
def innerChars (s : Segment) : List Char :=
  s.key.toList ++ '=' :: s.value.toList

theorem segmentChars_eq (s : Segment) : segmentChars s = '[' :: innerChars s ++ [']'] := by
  simp [segmentChars, innerChars]

/-- A segment that was read stands in its piece as it is. -/
theorem innerChars_of_readSegment {text piece : List Char} {s : Segment}
    (h : readSegment text piece = .ok s) : innerChars s = piece := by
  unfold readSegment at h
  split at h
  · rename_i key name hcut
    split at h
    · cases h
    · cases h
      simp [innerChars, (Text.splitFirst_eq_some_iff.1 hcut).1]
  · cases h

theorem map_innerChars_of_mapM {text : List Char} {pieces : List (List Char)}
    {ss : List Segment} (h : pieces.mapM (readSegment text) = .ok ss) :
    ss.map innerChars = pieces := by
  have read := mapM_eq_ok_iff.1 h
  clear h
  induction read with
  | nil => rfl
  | cons hs _ ih => rw [List.map_cons, innerChars_of_readSegment hs, ih]

/-- What stands inside the outermost brackets of some segments. -/
theorem flatMap_segmentChars (s : Segment) (ss : List Segment) :
    (s :: ss).flatMap segmentChars =
      '[' :: (innerChars s ++ (ss.map innerChars).flatMap ([']', '['] ++ ·)) ++ [']'] := by
  induction ss generalizing s with
  | nil => simp [segmentChars_eq]
  | cons t ss ih =>
      rw [List.flatMap_cons, ih t, segmentChars_eq]
      simp

theorem eq_of_inner? {cs inner : List Char} (h : inner? cs = some inner) :
    cs = '[' :: inner ++ [']'] := by
  unfold inner? at h
  split at h
  · rename_i rest
    split at h
    · rename_i hlast
      obtain ⟨inner', rfl⟩ := List.getLast?_eq_some_iff.1 hlast
      simpa using h
    · cases h
  · cases h

/-- A path that was read has the text it was read from, without the blanks around it. -/
theorem text_of_read {s : String} {p : PlatformPath} (h : read s = .ok p) :
    p.text = String.ofList (Text.trim s.toList) := by
  unfold read readChars at h
  split at h
  · rename_i hempty
    cases h
    rw [List.isEmpty_iff.1 hempty]
    rfl
  · split at h
    · cases h
    · rename_i inner hinner
      obtain ⟨ss, hss, rfl⟩ := except_map_eq_ok_iff.1 h
      have hpieces := map_innerChars_of_mapM hss
      obtain ⟨first, rest, rfl⟩ : ∃ first rest, ss = first :: rest := by
        cases ss <;> simp_all
      obtain ⟨hfirst, hrest⟩ := List.cons.inj hpieces
      rw [text, flatMap_segmentChars, hfirst, hrest, Text.splitOnText_append,
        ← eq_of_inner? hinner]

/-- Paths that were read have different texts. -/
theorem eq_of_text_eq {s t : String} {p q : PlatformPath} (hp : read s = .ok p)
    (hq : read t = .ok q) (h : p.text = q.text) : p = q := by
  rw [text_of_read hp, text_of_read hq] at h
  have hread : read s = read t := congrArg readChars (String.ofList_injective h)
  rw [hp, hq] at hread
  exact Except.ok.inj hread

end PlatformPath

end EndpointMonitor
