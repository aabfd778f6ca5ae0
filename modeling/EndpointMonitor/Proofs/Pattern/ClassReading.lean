import EndpointMonitor.Proofs.Pattern.EscapeReading

/-!
# Classes in front of a closing parenthesis

A class ends with a bracket, which the closing does not have. So no class is closed in the closing,
and what is read of a class that ends within the text is read alone.
-/

namespace EndpointMonitor.Pattern.Reader

variable {verbose : Bool} {text rest : List Char} {c : Char}

section Names

/-- The name of a class ends within the text, as the closing has no colon. -/
theorem readClassName_append (negated : Bool) (text : List Char) :
    readClassName negated (text ++ closing) =
      (readClassName negated text).map fun p => (p.1, p.2 ++ closing) := by
  unfold readClassName
  rw [List.dropWhile_append, List.takeWhile_append]
  cases hdrop : text.dropWhile (· ≠ ':') with
  | nil => simp [closing]
  | cons c more =>
      have hshort : (text.takeWhile (· ≠ ':')).length ≠ text.length := by
        have hlength := congrArg List.length
          (List.takeWhile_append_dropWhile (p := (· ≠ ':')) (l := text))
        rw [hdrop, List.length_append, List.length_cons] at hlength
        omega
      rw [if_neg hshort, if_neg (by simp)]
      cases more with
      | nil => simp [closing]
      | cons d more =>
          by_cases hc : c = ':'
          · subst hc
            by_cases hd : d = ']'
            · subst hd
              simp only [List.cons_append]
              split_ifs <;> rfl
            · simp [hd]
          · simp [hc]

theorem readNamed_append (text : List Char) :
    readNamed (text ++ closing) = (readNamed text).map fun p => (p.1, p.2 ++ closing) := by
  cases text with
  | nil => rfl
  | cons c text =>
      by_cases hc : c = ':'
      · subst hc
        cases text with
        | nil => exact readClassName_append false []
        | cons d text =>
            by_cases hd : d = '^'
            · subst hd
              exact readClassName_append true text
            · simpa [readNamed, hd] using readClassName_append false (d :: text)
      · simp [readNamed, hc]

end Names

theorem leadingDashes_before_closing {dashes : List ClassSet}
    (h : leadingDashes verbose (text ++ closing) = (dashes, rest)) :
    ReadAlone text.length (some (leadingDashes verbose text)) dashes rest ∨ rest = [] := by
  unfold leadingDashes at h ⊢
  generalize hrun : readRun verbose (· = '-') ((text ++ closing).length + 1) (text ++ closing) =
    run at h
  obtain ⟨run, more⟩ := run
  cases h
  refine (readRun_before_closing (by rw [List.length_append]; omega) (Nat.le_succ text.length)
    (by decide) hrun).imp_left ?_
  rintro ⟨left, hleft, hrest, hread⟩
  exact ⟨left, hleft, hrest, by rw [Option.some.inj hread]⟩

theorem readSign_before_closing {negated : Bool}
    (h : readSign verbose (text ++ closing) = (negated, rest)) :
    ReadAlone text.length (some (readSign verbose text)) negated rest ∨ rest = [] := by
  unfold readSign at h ⊢
  rcases skip_cases verbose text with ⟨htext, hskip | hskip⟩ | ⟨c, more, htext, hlt, hskip⟩
  · rw [hskip] at h
    cases h
    exact Or.inr rfl
  · rw [hskip] at h
    rw [htext]
    cases h
    exact Or.inl ⟨[], Nat.zero_le _, rfl, rfl⟩
  · rw [hskip] at h
    rw [htext]
    by_cases hc : c = '^'
    · subst hc
      cases h
      exact (readAlone_skip verbose more true).imp_left (·.mono (Nat.le_of_lt hlt))
    · simp only [hc, List.cons.injEq, false_and, imp_self, implies_true] at h ⊢
      cases h
      exact Or.inl ⟨c :: more, hlt, rfl, rfl⟩

theorem openClass_before_closing {opened : OpenClass}
    (h : openClass verbose (text ++ closing) = (opened, rest)) :
    ReadAlone text.length (some (openClass verbose text)) opened rest ∨ rest = [] := by
  unfold openClass at h ⊢
  generalize hsign : readSign verbose (text ++ closing) = sign at h
  obtain ⟨negated, more⟩ := sign
  generalize hdashes : leadingDashes verbose more = dashes
  obtain ⟨items, more'⟩ := dashes
  simp only [hdashes] at h
  rcases readSign_before_closing hsign with ⟨left, hleft, rfl, hread⟩ | rfl
  · rw [Option.some.inj hread]
    simp only
    rcases leadingDashes_before_closing hdashes with ⟨left', hleft', rfl, hread'⟩ | rfl
    · rw [Option.some.inj hread']
      cases items with
      | nil =>
          cases left' with
          | nil =>
              cases h
              exact Or.inl ⟨[], Nat.zero_le _, rfl, rfl⟩
          | cons c left' =>
              by_cases hc : c = ']'
              · subst hc
                cases h
                rw [List.length_cons] at hleft'
                exact (readAlone_skip verbose left' _).imp_left (·.mono (by omega))
              · simp only [List.cons_append, List.cons.injEq, hc, false_and, imp_self,
                  implies_true] at h ⊢
                cases h
                exact Or.inl ⟨c :: left', by omega, rfl, rfl⟩
      | cons item items =>
          cases h
          exact Or.inl ⟨left', by omega, rfl, rfl⟩
    · cases items <;> cases h <;> exact Or.inr rfl
  · cases hdashes
    cases h
    exact Or.inr rfl

theorem readClassAtom_before_closing {a : Atom}
    (h : readClassAtom verbose (text ++ closing) = some (a, rest)) :
    ReadAlone (text.length - 1) (readClassAtom verbose text) a rest ∨ rest <:+ ['$'] ∨
      a = .anchor .wordBoundary := by
  cases text with
  | nil =>
      cases h
      exact Or.inr (Or.inl (List.suffix_refl _))
  | cons c text =>
      by_cases hc : c = '\\'
      · subst hc
        exact (readEscape_before_closing h).imp_right (·.imp_right And.left)
      · simp only [List.cons_append, readClassAtom] at h ⊢
        cases h
        exact Or.inl ⟨text, Nat.le_refl _, rfl, rfl⟩

theorem readRangeEnd_of_dash {low : Atom} {more : List Char} (htext : skip verbose text = c :: more)
    (hc : c = ']' ∨ c = '-') :
    readRangeEnd verbose low text = (classItem low).map fun item => (item, '-' :: text) := by
  rcases hc with rfl | rfl <;> simp [readRangeEnd, htext]

theorem readRangeEnd_of_atom {low : Atom} {more : List Char} (htext : skip verbose text = c :: more)
    (hc : ¬ (c = ']' ∨ c = '-')) :
    readRangeEnd verbose low text = (readClassAtom verbose (c :: more)).bind fun p =>
      (rangeOf low p.1).map fun item => (item, p.2) := by
  rw [not_or] at hc
  simp [readRangeEnd, htext, hc]

theorem rangeOf_anchor (low : Atom) (a : Anchor) : rangeOf low (.anchor a) = none := by
  cases low <;> rfl

theorem readRangeEnd_before_closing {low : Atom} {item : ClassSet}
    (h : readRangeEnd verbose low (text ++ closing) = some (item, rest)) :
    ReadAlone (text.length + 1) (readRangeEnd verbose low text) item rest ∨ rest <:+ closing := by
  rcases skip_cases verbose text with ⟨htext, hskip | hskip⟩ | ⟨c, more, htext, hlt, hskip⟩
  · rw [readRangeEnd, hskip] at h
    cases h
  · rw [readRangeEnd_of_atom hskip (by decide)] at h
    obtain ⟨⟨high, more⟩, hhigh, h⟩ := Option.bind_eq_some_iff.1 h
    cases hhigh
    obtain ⟨range, -, h⟩ := Option.map_eq_some_iff.1 h
    cases h
    exact Or.inr (List.suffix_cons _ _)
  · by_cases hc : c = ']' ∨ c = '-'
    · rw [readRangeEnd_of_dash hskip hc] at h
      rw [readRangeEnd_of_dash htext hc]
      obtain ⟨item, hitem, h⟩ := Option.map_eq_some_iff.1 h
      cases h
      exact Or.inl ⟨'-' :: text, Nat.le_refl _, rfl, by rw [hitem]; rfl⟩
    · rw [readRangeEnd_of_atom hskip hc] at h
      rw [readRangeEnd_of_atom htext hc]
      obtain ⟨⟨high, left⟩, hhigh, h⟩ := Option.bind_eq_some_iff.1 h
      obtain ⟨item, hitem, h⟩ := Option.map_eq_some_iff.1 h
      cases h
      rw [← List.cons_append] at hhigh
      rcases readClassAtom_before_closing hhigh with ⟨left, hleft, rfl, hread⟩ | hsuffix | rfl
      · rw [List.length_cons] at hleft
        exact Or.inl ⟨left, by omega, rfl, by simp [hread, hitem]⟩
      · exact Or.inr (hsuffix.trans (List.suffix_cons _ _))
      · rw [rangeOf_anchor] at hitem
        cases hitem

theorem readRangeEnd_anchor (a : Anchor) : readRangeEnd verbose (.anchor a) text = none := by
  unfold readRangeEnd
  split
  · rfl
  · rfl
  · rfl
  · cases readClassAtom verbose _ <;> rfl

theorem readClassRange_before_closing {item : ClassSet}
    (h : readClassRange verbose (text ++ closing) = some (item, rest)) :
    ReadAlone (text.length - 1) (readClassRange verbose text) item rest ∨ rest <:+ closing := by
  unfold readClassRange at h ⊢
  obtain ⟨⟨low, more⟩, hlow, h⟩ := Option.bind_eq_some_iff.1 h
  simp only at h
  rcases readClassAtom_before_closing hlow with ⟨left, hleft, rfl, hread⟩ | hsuffix | rfl
  · rw [hread]
    simp only [Option.bind_some] at h ⊢
    rcases skip_cases verbose left with ⟨-, hskip | hskip⟩ | ⟨c, more, htext, hlt, hskip⟩
    · rw [hskip] at h
      cases h
    · rw [hskip] at h
      obtain ⟨item, -, h⟩ := Option.map_eq_some_iff.1 h
      cases h
      exact Or.inr (List.suffix_refl _)
    · rw [hskip] at h
      rw [htext]
      by_cases hc : c = '-'
      · subst hc
        exact (readRangeEnd_before_closing h).imp_left (·.mono (by omega))
      · simp only [hc, List.cons.injEq, false_and, imp_self, implies_true] at h ⊢
        obtain ⟨item, hitem, h⟩ := Option.map_eq_some_iff.1 h
        cases h
        exact Or.inl ⟨c :: more, by simp only [List.length_cons]; omega, rfl, by rw [hitem]; rfl⟩
  · rcases suffix_dollar_iff.1 hsuffix with rfl | rfl
    · rw [skip_dollar] at h
      obtain ⟨item, -, h⟩ := Option.map_eq_some_iff.1 h
      cases h
      exact Or.inr (List.suffix_cons _ _)
    · rw [skip_nil] at h
      cases h
  · split at h
    · cases h
    · rw [readRangeEnd_anchor] at h
      cases h
    · cases h

theorem readClassOp_append (text : List Char) :
    readClassOp (text ++ closing) = (readClassOp text).map fun p => (p.1, p.2 ++ closing) := by
  match text with
  | [] => rfl
  | [c] => simp [readClassOp, closing]
  | c :: d :: text =>
      simp only [List.cons_append]
      unfold readClassOp
      split <;> simp_all

theorem length_readClassOp_lt {op : ClassOp} (h : readClassOp text = some (op, rest)) :
    rest.length < text.length := by
  unfold readClassOp at h
  split at h <;> cases h <;> simp only [List.length_cons] <;> omega

theorem length_readNamed_le {item : ClassSet} (h : readNamed text = some (item, rest)) :
    rest.length ≤ text.length := by
  have name_le : ∀ {negated text}, readClassName negated text = some (item, rest) →
      rest.length ≤ text.length := by
    intro negated text h
    have hdrop := (List.dropWhile_sublist (p := (· ≠ ':')) (l := text)).length_le
    unfold readClassName at h
    split at h
    · rename_i more hmore
      simp only at h
      split_ifs at h
      cases h
      rw [hmore, List.length_cons, List.length_cons] at hdrop
      omega
    · cases h
  unfold readNamed at h
  split at h
  · exact Nat.le_trans (name_le h) (by simp only [List.length_cons]; omega)
  · exact Nat.le_trans (name_le h) (Nat.le_succ _)
  · cases h

/-- No class is closed in the closing. -/
theorem readClass_of_suffix {n : Nat} {inner : OpenClass} {outer : List OpenClass}
    (h : skip verbose text <:+ closing) : readClass verbose n inner outer text = none := by
  have hskip : skip verbose text = closing ∨ skip verbose text = ['$'] ∨
      skip verbose text = [] := by
    simpa [List.suffix_cons_iff, closing] using h
  have dollar : ∀ n inner, readClass verbose n inner outer ['$'] = none := by
    intro n inner
    cases n <;> simp [readClass, readClassOp, readClassRange, readClassAtom]
  cases n with
  | zero => rfl
  | succ n =>
      unfold readClass
      rcases hskip with hskip | hskip | hskip <;> rw [hskip]
      · simp [closing, readClassOp, readClassRange, readClassAtom, classItem, dollar]
      · simp [readClassOp, readClassRange, readClassAtom]

theorem readClass_before_closing {n m : Nat} {inner : OpenClass} {outer : List OpenClass}
    {value : Bool × ClassSet} (hm : text.length < m)
    (h : readClass verbose n inner outer (text ++ closing) = some (value, rest)) :
    ReadAlone text.length (readClass verbose m inner outer text) value rest := by
  induction n generalizing m inner outer text with
  | zero => cases h
  | succ n ih =>
      obtain ⟨m, rfl⟩ := Nat.exists_eq_succ_of_ne_zero (Nat.ne_zero_of_lt hm)
      rcases skip_cases verbose text with ⟨-, hskip⟩ | ⟨c, more, htext, hlt, hskip⟩
      · rw [readClass_of_suffix (by rcases hskip with h | h <;> simp [h])] at h
        cases h
      · unfold readClass at h ⊢
        rw [hskip] at h
        rw [htext]
        by_cases hopen : c = '['
        · subst hopen
          simp only [readNamed_append] at h ⊢
          cases hnamed : readNamed more with
          | some p =>
              obtain ⟨item, left⟩ := p
              have hleft := length_readNamed_le hnamed
              simp only [hnamed, Option.map_some] at h ⊢
              exact (ih (by omega) h).mono (by omega)
          | none =>
              simp only [hnamed, Option.map_none] at h ⊢
              generalize hopened : openClass verbose (more ++ closing) = opened at h
              obtain ⟨opened, rest'⟩ := opened
              rcases openClass_before_closing hopened with ⟨left, hleft, rfl, hread⟩ | rfl
              · rw [Option.some.inj hread]
                exact (ih (by omega) h).mono (by omega)
              · rw [readClass_of_suffix (by simp)] at h
                cases h
        · by_cases hclose : c = ']'
          · subst hclose
            cases outer with
            | nil =>
                cases h
                exact ⟨more, Nat.le_of_lt hlt, rfl, rfl⟩
            | cons around outer => exact (ih (by omega) h).mono (by omega)
          · simp only [List.cons.injEq, hopen, hclose, false_and, imp_self, implies_true] at h ⊢
            rw [← List.cons_append, readClassOp_append] at h
            cases hop : readClassOp (c :: more) with
            | some p =>
                obtain ⟨op, left⟩ := p
                have hleft := length_readClassOp_lt hop
                rw [List.length_cons] at hleft
                simp only [hop, Option.map_some] at h ⊢
                exact (ih (by omega) h).mono (by omega)
            | none =>
                simp only [hop, Option.map_none] at h ⊢
                split at h
                · rename_i item rest' hitem
                  rcases readClassRange_before_closing hitem with
                    ⟨left, hleft, rfl, hread⟩ | hsuffix
                  · rw [List.length_cons] at hleft
                    rw [hread]
                    exact (ih (by omega) h).mono (by omega)
                  · rw [readClass_of_suffix ((skip_suffix verbose rest').trans hsuffix)] at h
                    cases h
                · cases h

end EndpointMonitor.Pattern.Reader
