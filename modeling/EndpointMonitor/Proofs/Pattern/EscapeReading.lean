import EndpointMonitor.Proofs.Pattern.EnclosedReading

/-!
# Escapes in front of a closing parenthesis

An escape takes the signs that it needs and nothing of the closing, with three exceptions. A lone
backslash takes the parenthesis, and so does the letter of a property. A comment between the signs
of an escape may take all of the closing. And a word boundary leaves a brace behind it to a
repetition if the parenthesis follows, with which no name begins.
-/

namespace EndpointMonitor.Pattern.Reader

variable {verbose : Bool} {text rest : List Char} {c : Char}

section Hexadecimal

variable {n m acc value : Nat}

theorem hexDigit?_parenthesis : Radix.hexDigit? ')' = none := by
  decide

theorem fixedHex_before_closing
    (h : fixedHex verbose n acc (text ++ closing) = some (value, rest)) :
    ReadAlone text.length (fixedHex verbose n acc text) value rest ∨ rest <:+ ['$'] := by
  induction n generalizing acc text with
  | zero =>
      cases h
      exact Or.inl ⟨text, Nat.le_refl _, rfl, rfl⟩
  | succ n ih =>
      cases text with
      | nil => simp [fixedHex, closing, hexDigit?_parenthesis] at h
      | cons c text =>
          simp only [List.cons_append, fixedHex] at h ⊢
          cases hc : Radix.hexDigit? c with
          | none =>
              rw [hc] at h
              cases h
          | some d =>
              simp only [hc] at h ⊢
              have hle := length_skip_le verbose text
              rcases skip_append verbose text with hskip | ⟨-, hskip⟩
              · rw [hskip] at h
                exact (ih h).imp_left (·.mono (by rw [List.length_cons]; omega))
              · rw [hskip] at h
                cases n <;> cases h
                exact Or.inr List.nil_suffix

theorem bracedHex_before_closing {acc : Option Nat} (hm : text.length < m)
    (h : bracedHex verbose n acc (text ++ closing) = some (value, rest)) :
    ReadAlone text.length (bracedHex verbose m acc text) value rest ∨ rest <:+ ['$'] := by
  induction n generalizing m acc text with
  | zero => cases h
  | succ n ih =>
      obtain ⟨m, rfl⟩ := Nat.exists_eq_succ_of_ne_zero (Nat.ne_zero_of_lt hm)
      simp only [bracedHex] at h ⊢
      rcases skip_cases verbose text with ⟨-, hskip | hskip⟩ | ⟨c, more, htext, hlt, hskip⟩
      · rw [hskip] at h
        cases h
      · rw [hskip] at h
        simp [closing, hexDigit?_parenthesis] at h
      · simp only [hskip, htext] at h ⊢
        by_cases hc : c = '\x7d'
        · simp only [if_pos hc] at h ⊢
          obtain ⟨k, rfl, hvalue⟩ := Option.map_eq_some_iff.1 h
          cases hvalue
          exact (readAlone_skip verbose more value).imp (·.mono (Nat.le_of_lt hlt)) suffix_of_eq_nil
        · simp only [if_neg hc] at h ⊢
          cases hd : Radix.hexDigit? c with
          | none =>
              rw [hd] at h
              cases h
          | some d =>
              simp only [hd] at h ⊢
              exact (ih (by omega) h).imp_left (·.mono (Nat.le_of_lt hlt))

/-- The literal of a code point. -/
def literalOf? (asByte : Bool) (n : Nat) : Option Literal :=
  (charOf? n).map fun c => ⟨c, asByte⟩

theorem readHex_of_brace {width : Nat} {more : List Char} (h : skip verbose text = '\x7b' :: more) :
    readHex verbose width text = (bracedHex verbose (more.length + 1) none more).bind fun p =>
      (literalOf? false p.1).map fun l => (l, p.2) := by
  simp [readHex, literalOf?, h, Option.map_eq_bind, Option.bind_assoc]

theorem readHex_of_digits {width : Nat} (h : (skip verbose text).head? ≠ some '\x7b') :
    readHex verbose width text = (fixedHex verbose width 0 (skip verbose text)).bind fun p =>
      (literalOf? (width = 2) p.1).map fun l => (l, p.2) := by
  unfold readHex
  split
  · rename_i hskip
    rw [hskip] at h
    exact absurd rfl h
  · simp [literalOf?, Option.map_eq_bind, Option.bind_assoc]

theorem readHex_before_closing {width : Nat} {l : Literal}
    (h : readHex verbose width (text ++ closing) = some (l, rest)) :
    ReadAlone text.length (readHex verbose width text) l rest ∨ rest <:+ ['$'] := by
  have digits (hskip : skip verbose (text ++ closing) = skip verbose text ++ closing)
      (hhead : (skip verbose text).head? ≠ some '\x7b')
      (hclosing : (skip verbose (text ++ closing)).head? ≠ some '\x7b') :
      ReadAlone text.length (readHex verbose width text) l rest ∨ rest <:+ ['$'] := by
    rw [readHex_of_digits hclosing, hskip] at h
    rw [readHex_of_digits hhead]
    exact readAlone_bind h fun value hvalue =>
      (fixedHex_before_closing hvalue).imp_left (·.mono (length_skip_le verbose text))
  rcases skip_cases verbose text with ⟨htext, hskip | hskip⟩ | ⟨c, more, htext, hlt, hskip⟩
  · rw [readHex_of_digits (by simp [hskip]), hskip] at h
    rw [readHex_of_digits (by simp [htext])]
    exact readAlone_bind h fun value hvalue =>
      Or.inr (by cases width <;> cases hvalue; exact List.nil_suffix)
  · exact digits (by rw [hskip, htext]; rfl) (by simp [htext]) (by rw [hskip]; decide)
  · by_cases hc : c = '\x7b'
    · subst hc
      rw [readHex_of_brace hskip] at h
      rw [readHex_of_brace htext]
      exact readAlone_bind h fun value hvalue =>
        (bracedHex_before_closing (Nat.lt_succ_self _) hvalue).imp_left
          (·.mono (Nat.le_of_lt hlt))
    · exact digits (by rw [hskip, htext]; rfl) (by simp [htext, hc]) (by simp [hskip, hc])

end Hexadecimal

section Properties

variable {negated : Bool} {n m : Nat} {acc : List Char} {a : Atom}

theorem propertyBody_before_closing (hm : text.length < m)
    (h : readProperty.body verbose negated n acc (text ++ closing) = some (a, rest)) :
    ReadAlone text.length (readProperty.body verbose negated m acc text) a rest := by
  induction n generalizing m acc text with
  | zero => cases h
  | succ n ih =>
      obtain ⟨m, rfl⟩ := Nat.exists_eq_succ_of_ne_zero (Nat.ne_zero_of_lt hm)
      rcases skip_cases verbose text with ⟨-, hskip | hskip⟩ | ⟨c, more, htext, hlt, hskip⟩
      · simp only [readProperty.body, hskip] at h
        cases h
      · -- There is no brace in the closing that ends the name.
        rw [readProperty.body, hskip] at h
        rcases n with _ | _ | n <;> simp [readProperty.body, closing] at h
      · simp only [readProperty.body, hskip, htext] at h ⊢
        by_cases hc : c = '\x7d'
        · simp only [if_pos hc] at h ⊢
          cases h
          exact ⟨more, Nat.le_of_lt hlt, rfl, rfl⟩
        · simp only [if_neg hc] at h ⊢
          exact (ih (m := m) (by omega) h).mono (Nat.le_of_lt hlt)

theorem readProperty_before_closing
    (h : readProperty verbose negated (text ++ closing) = some (a, rest)) :
    ReadAlone text.length (readProperty verbose negated text) a rest ∨ rest <:+ ['$'] := by
  unfold readProperty at h ⊢
  rcases skip_cases verbose text with ⟨-, hskip | hskip⟩ | ⟨c, more, htext, hlt, hskip⟩
  · rw [hskip] at h
    cases h
  · rw [hskip] at h
    cases h
    rw [skip_dollar]
    exact Or.inr (List.suffix_refl _)
  · rw [hskip] at h
    rw [htext]
    by_cases hbrace : c = '\x7b'
    · subst hbrace
      exact Or.inl ((propertyBody_before_closing (Nat.lt_succ_self _) h).mono (Nat.le_of_lt hlt))
    · by_cases hslash : c = '\\'
      · subst hslash
        cases h
      · simp only [] at h ⊢
        cases h
        exact (readAlone_skip verbose more _).imp (·.mono (Nat.le_of_lt hlt)) suffix_of_eq_nil

end Properties

section Boundaries

theorem readBoundaryName_before_closing {a : Anchor}
    (h : readBoundaryName verbose (text ++ closing) = some (a, rest)) :
    ReadAlone text.length (readBoundaryName verbose text) a rest := by
  unfold readBoundaryName at h ⊢
  split at h
  · rename_i word left hword
    have hrun := readRun_before_closing (by rw [List.length_append]; omega)
      (Nat.le_succ text.length) (by decide) hword
    obtain ⟨left, hleft, rfl, hread⟩ :=
      (hrun.resolve_right (List.cons_ne_nil _ _)).of_cons (by decide)
    obtain ⟨a, ha, hname⟩ := Option.map_eq_some_iff.1 h
    cases hname
    rw [Option.some.inj hread]
    exact ⟨left, Nat.le_of_lt hleft, rfl, by simp [ha]⟩
  · cases h

theorem readBoundaryKind_before_closing {kind : Option Anchor}
    (h : readBoundaryKind verbose (text ++ closing) = some (kind, rest)) :
    ReadAlone text.length (readBoundaryKind verbose text) kind rest ∨
      (kind = none ∧
        ∃ inside, skip verbose inside = [] ∧ rest = '\x7b' :: (inside ++ closing)) := by
  cases text with
  | nil =>
      cases h
      exact Or.inl ⟨[], Nat.le_refl _, rfl, rfl⟩
  | cons c inside =>
      by_cases hc : c = '\x7b'
      · subst hc
        simp only [List.cons_append, readBoundaryKind] at h ⊢
        rcases skip_cases verbose inside with
          ⟨hinside, hskip | hskip⟩ | ⟨c, more, hinside, hlt, hskip⟩
        · rw [hskip] at h
          cases h
        · rw [hskip] at h
          simp only [closing] at h
          rw [if_neg (by decide)] at h
          cases h
          exact Or.inr ⟨rfl, inside, hinside, rfl⟩
        · rw [hskip] at h
          rw [hinside]
          refine Or.inl ?_
          simp only at h ⊢
          split_ifs at h ⊢ with hname
          · obtain ⟨⟨a, left⟩, ha, hkind⟩ := Option.map_eq_some_iff.1 h
            cases hkind
            rw [← List.cons_append] at ha
            obtain ⟨left, hleft, rfl, hread⟩ := readBoundaryName_before_closing ha
            rw [List.length_cons] at hleft ⊢
            exact ⟨left, by omega, rfl, by simp [hread]⟩
          · cases h
            exact ⟨_, Nat.le_refl _, rfl, rfl⟩
      · simp only [readBoundaryKind, List.cons_append, hc, List.cons.injEq, false_and, imp_self,
          implies_true] at h ⊢
        cases h
        exact Or.inl ⟨_, Nat.le_refl _, rfl, rfl⟩

end Boundaries

section Escapes

variable {a : Atom}

/-- The letters of the escapes that go on after their letter. -/
def longEscapes : List Char :=
  ['x', 'u', 'U', 'p', 'P', 'b']

theorem readEscape_of_short (hc : c ∉ longEscapes) :
    readEscape verbose (c :: text) = (shortEscape? c).map fun a => (a, text) := by
  simp only [longEscapes, List.mem_cons, List.not_mem_nil, or_false, not_or] at hc
  simp [readEscape, hc]

/-- An escape is read alone, or it takes the parenthesis, or it is a word boundary in front of a
brace. -/
theorem readEscape_before_closing (h : readEscape verbose (text ++ closing) = some (a, rest)) :
    ReadAlone text.length (readEscape verbose text) a rest ∨ rest <:+ ['$'] ∨
      (a = .anchor .wordBoundary ∧
        ∃ inside, skip verbose inside = [] ∧ rest = '\x7b' :: (inside ++ closing)) := by
  cases text with
  | nil =>
      cases h
      exact Or.inr (Or.inl (List.suffix_refl _))
  | cons c text =>
      have hle : text.length ≤ (c :: text).length := Nat.le_succ _
      by_cases hc : c ∈ longEscapes
      · have hex {width : Nat} (h : (readHex verbose width (text ++ closing)).map
            (fun p => (Atom.literal p.1, p.2)) = some (a, rest)) :=
          (readAlone_map h fun l hl => readHex_before_closing hl).imp_left (·.mono hle)
        simp only [longEscapes, List.mem_cons, List.not_mem_nil, or_false] at hc
        rcases hc with rfl | rfl | rfl | rfl | rfl | rfl
        · exact (hex h).imp_right Or.inl
        · exact (hex h).imp_right Or.inl
        · exact (hex h).imp_right Or.inl
        · exact (readProperty_before_closing h).imp (·.mono hle) Or.inl
        · exact (readProperty_before_closing h).imp (·.mono hle) Or.inl
        · obtain ⟨⟨kind, left⟩, hkind, ha⟩ := Option.map_eq_some_iff.1 h
          cases ha
          rcases readBoundaryKind_before_closing hkind with
            ⟨left, hleft, rfl, hread⟩ | ⟨rfl, hinside⟩
          · exact Or.inl ⟨left, Nat.le_trans hleft hle, rfl, by simp [readEscape, hread]⟩
          · exact Or.inr (Or.inr ⟨rfl, hinside⟩)
      · rw [List.cons_append, readEscape_of_short hc] at h
        obtain ⟨b, hb, hvalue⟩ := Option.map_eq_some_iff.1 h
        cases hvalue
        exact Or.inl ⟨text, hle, rfl, by rw [readEscape_of_short hc, hb]; rfl⟩

end Escapes

end EndpointMonitor.Pattern.Reader
