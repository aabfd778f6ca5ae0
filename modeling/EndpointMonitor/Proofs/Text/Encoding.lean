import Mathlib.Data.List.Basic

/-!
# The bytes of a text

The first byte of a character is told apart from its other bytes. So a piece of the bytes of a text
that is followed by a first byte, or by nothing, has the bytes of whole characters at its end.
-/

namespace EndpointMonitor.Text

/-- The bytes of some characters. -/
def utf8 (cs : List Char) : List UInt8 :=
  cs.flatMap String.utf8EncodeChar

/-- Bytes that do not begin within a character. -/
def Aligned (w : List UInt8) : Prop :=
  ∀ b ∈ w.head?, b.IsUTF8FirstByte

@[simp] theorem utf8_nil : utf8 [] = [] :=
  rfl

@[simp] theorem utf8_cons (c : Char) (cs : List Char) :
    utf8 (c :: cs) = String.utf8EncodeChar c ++ utf8 cs :=
  rfl

@[simp] theorem utf8_append (cs ds : List Char) : utf8 (cs ++ ds) = utf8 cs ++ utf8 ds :=
  List.flatMap_append

theorem toUTF8_data_toList (s : String) : s.toUTF8.data.toList = utf8 s.toList := by
  rw [String.toUTF8_eq_toByteArray, ← String.utf8Encode_toList, List.utf8Encode,
    List.data_toByteArray]
  rfl

theorem toList_loop_eq (bytes : ByteArray) (i : Nat) (r : List UInt8) :
    ByteArray.toList.loop bytes i r = r.reverse ++ bytes.data.toList.drop i := by
  fun_induction ByteArray.toList.loop bytes i r with
  | case1 i r hi ih =>
      have hlt : i < bytes.data.toList.length := by simpa using hi
      have hget : bytes.get! i = bytes.data.toList[i] := by simp [ByteArray.get!, hi]
      rw [ih, List.drop_eq_getElem_cons hlt, hget, List.reverse_cons, List.append_assoc,
        List.singleton_append]
  | case2 i r hi =>
      rw [List.drop_eq_nil_of_le (by simpa using hi), List.append_nil]

theorem toUTF8_toList (s : String) : s.toUTF8.toList = utf8 s.toList := by
  rw [← toUTF8_data_toList, ByteArray.toList, toList_loop_eq]
  rfl

section Characters

variable {c : Char} {u : List UInt8} {b : UInt8}

theorem utf8EncodeChar_eq_cons (c : Char) : ∃ b u, String.utf8EncodeChar c = b :: u ∧
    b.IsUTF8FirstByte ∧ ∀ x ∈ u, ¬ x.IsUTF8FirstByte := by
  obtain ⟨b, u, h⟩ := List.exists_cons_of_ne_nil (String.utf8EncodeChar_ne_nil (c := c))
  refine ⟨b, u, h, ?_, fun x hx => ?_⟩
  · have hfirst := @UInt8.isUTF8FirstByte_getElem_zero_utf8EncodeChar c
    simpa only [h, List.getElem_cons_zero] using hfirst
  · obtain ⟨i, hi, rfl⟩ := List.getElem_of_mem hx
    have hrest := @UInt8.isUTF8FirstByte_getElem_utf8EncodeChar c (i + 1) (by simp [h, hi])
    simpa [h] using hrest

/-- A character that has a single byte. -/
def IsAscii (c : Char) : Prop :=
  c.val ≤ 127

instance : DecidablePred IsAscii :=
  fun c => inferInstanceAs (Decidable (c.val ≤ 127))

theorem isAscii_iff_length : IsAscii c ↔ (String.utf8EncodeChar c).length = 1 := by
  rw [String.length_utf8EncodeChar, Char.utf8Size_eq_one_iff, IsAscii]

theorem length_le_length_utf8 (cs : List Char) : cs.length ≤ (utf8 cs).length := by
  induction cs with
  | nil => simp
  | cons c cs ih =>
      have hc := c.utf8Size_pos
      rw [utf8_cons, List.length_append, List.length_cons, String.length_utf8EncodeChar]
      omega

theorem length_utf8_of_isAscii {cs : List Char} (h : ∀ c ∈ cs, IsAscii c) :
    (utf8 cs).length = cs.length := by
  induction cs with
  | nil => rfl
  | cons c cs ih =>
      obtain ⟨hc, hcs⟩ := List.forall_mem_cons.1 h
      rw [utf8_cons, List.length_append, isAscii_iff_length.1 hc, ih hcs, List.length_cons,
        Nat.add_comm]

end Characters

section Alignment

variable {cs : List Char} {x y w : List UInt8} {c : Char}

theorem aligned_encoded (c : Char) (w : List UInt8) : Aligned (String.utf8EncodeChar c ++ w) := by
  obtain ⟨b, u, h, hb, -⟩ := utf8EncodeChar_eq_cons c
  simpa [Aligned, h] using hb

theorem eq_nil_of_aligned_append {u : List UInt8} (hu : ∀ b ∈ u, ¬ b.IsUTF8FirstByte)
    (h : Aligned (u ++ w)) : u = [] := by
  cases u with
  | nil => rfl
  | cons b u => exact absurd (h b (by simp)) (hu b (by simp))

/-- A cut through the bytes of a text is between two characters or within one. -/
theorem utf8_cut (h : utf8 cs = x ++ y) :
    (∃ ds es, cs = ds ++ es ∧ x = utf8 ds ∧ y = utf8 es) ∨
      ∃ ds c es z u, cs = ds ++ c :: es ∧ String.utf8EncodeChar c = z ++ u ∧ u ≠ [] ∧
        (∀ b ∈ u, ¬ b.IsUTF8FirstByte) ∧ x = utf8 ds ++ z ∧ y = u ++ utf8 es := by
  induction cs generalizing x with
  | nil =>
      obtain ⟨rfl, rfl⟩ := List.append_eq_nil_iff.1 h.symm
      exact Or.inl ⟨[], [], rfl, rfl, rfl⟩
  | cons c cs ih =>
      rcases List.append_eq_append_iff.1 ((utf8_cons c cs).symm.trans h) with
        ⟨x', rfl, hcs⟩ | ⟨u, hc, rfl⟩
      · rcases ih hcs with ⟨ds, es, rfl, rfl, rfl⟩ | ⟨ds, d, es, z, u, rfl, hd, hne, hu, rfl, rfl⟩
        · exact Or.inl ⟨c :: ds, es, rfl, rfl, rfl⟩
        · exact Or.inr ⟨c :: ds, d, es, z, u, rfl, hd, hne, hu, by simp, rfl⟩
      · obtain ⟨b, rest, hbrest, -, hrest⟩ := utf8EncodeChar_eq_cons c
        cases x with
        | nil => exact Or.inl ⟨[], c :: cs, rfl, rfl, by simp [hc]⟩
        | cons b' x =>
            by_cases hne : u = []
            · exact Or.inl ⟨[c], cs, rfl, by simp [hc, hne], by simp [hne]⟩
            · have hsub : ∀ d ∈ u, d ∈ rest := by
                rw [hbrest] at hc
                have := (List.cons.inj hc).2
                simp +contextual [this]
              exact Or.inr ⟨[], c, cs, b' :: x, u, rfl, hc, hne, fun d hd => hrest d (hsub d hd),
                rfl, rfl⟩

/-- What is left of a text behind aligned bytes is made of whole characters, and so is what stands
before. -/
theorem utf8_eq_append (h : utf8 cs = x ++ y) (hy : Aligned y) :
    ∃ ds es, cs = ds ++ es ∧ x = utf8 ds ∧ y = utf8 es := by
  rcases utf8_cut h with hcut | ⟨ds, c, es, z, u, -, -, hne, hu, -, rfl⟩
  · exact hcut
  · exact absurd (eq_nil_of_aligned_append hu hy) hne

theorem utf8_eq_encoded_append (h : utf8 cs = String.utf8EncodeChar c ++ w) :
    ∃ ds, cs = c :: ds ∧ w = utf8 ds := by
  have hprefix : [c] <+: cs := by
    refine List.isPrefix_of_utf8Encode_append_eq_utf8Encode w.toByteArray ?_
    rw [List.utf8Encode, List.utf8Encode, ← List.toByteArray_append]
    exact congrArg List.toByteArray (by simpa [utf8] using h.symm)
  obtain ⟨ds, rfl⟩ := hprefix
  exact ⟨ds, rfl, (List.append_cancel_left h).symm⟩

/-- A character among the bytes of a text is a character of the text. -/
theorem utf8_eq_append_encoded (h : utf8 cs = x ++ (String.utf8EncodeChar c ++ y)) :
    ∃ ds es, cs = ds ++ c :: es ∧ x = utf8 ds ∧ y = utf8 es := by
  obtain ⟨ds, es', rfl, rfl, hes⟩ := utf8_eq_append h (aligned_encoded c y)
  obtain ⟨es, rfl, rfl⟩ := utf8_eq_encoded_append hes.symm
  exact ⟨ds, es, rfl, rfl, rfl⟩

/-- The first byte of a text begins its first character. -/
theorem utf8_eq_cons {b : UInt8} (h : utf8 cs = b :: w) :
    ∃ c u ds, cs = c :: ds ∧ String.utf8EncodeChar c = b :: u ∧ w = u ++ utf8 ds ∧
      ∀ x ∈ u, ¬ x.IsUTF8FirstByte := by
  cases cs with
  | nil => cases h
  | cons c ds =>
      obtain ⟨b', u, hc, -, hu⟩ := utf8EncodeChar_eq_cons c
      rw [utf8_cons, hc, List.cons_append] at h
      obtain ⟨rfl, rfl⟩ := List.cons.inj h
      exact ⟨c, u, ds, rfl, hc, rfl, hu⟩

end Alignment

end EndpointMonitor.Text
