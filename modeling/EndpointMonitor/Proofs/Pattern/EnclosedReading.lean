import EndpointMonitor.Pattern.SyntaxReader
import Mathlib.Data.List.Basic

/-!
# Reading a pattern in front of a closing parenthesis

A text that is put into a group between anchors is followed by a parenthesis and a dollar sign. Each
reader of patterns is compared on the text with and without them. It reads the same from both, or it
goes on in the closing; then little is left: the dollar sign, or nothing.

Here this is said of blanks and comments, of runs of signs, and of repetitions, whose counts are
runs. Bounds in braces end with a brace, which the closing does not have, so only what is skipped
behind it may take the closing.
-/

namespace EndpointMonitor.Pattern.Reader

variable {α β : Type} {verbose : Bool} {text rest : List Char} {c : Char}

/-- What stands after a pattern that is put into a group between anchors. -/
def closing : List Char :=
  [')', '$']

/-- What was read from a text in front of the closing is read from the text alone as well, and what
is left of the text is no longer than a bound. -/
def ReadAlone (bound : Nat) (read : Option (α × List Char)) (value : α) (rest : List Char) : Prop :=
  ∃ left, left.length ≤ bound ∧ rest = left ++ closing ∧ read = some (value, left)

theorem ReadAlone.mono {m n : Nat} {read : Option (α × List Char)} {value : α}
    (h : ReadAlone m read value rest) (hle : m ≤ n) : ReadAlone n read value rest := by
  obtain ⟨left, hleft, hrest, hread⟩ := h
  exact ⟨left, Nat.le_trans hleft hle, hrest, hread⟩

/-- Of the text and the closing, only a parenthesis may start the closing. -/
theorem exists_eq_cons (h : c :: rest = text ++ closing) (hc : c ≠ ')') :
    ∃ more, text = c :: more ∧ rest = more ++ closing := by
  cases text with
  | nil => exact absurd (List.cons.inj h).1 hc
  | cons b more =>
      obtain ⟨rfl, rfl⟩ := List.cons.inj h
      exact ⟨more, rfl, rfl⟩

theorem ReadAlone.of_cons {bound : Nat} {read : Option (α × List Char)} {value : α}
    (h : ReadAlone bound read value (c :: rest)) (hc : c ≠ ')') :
    ∃ left, left.length < bound ∧ rest = left ++ closing ∧ read = some (value, c :: left) := by
  obtain ⟨left, hleft, hrest, hread⟩ := h
  obtain ⟨more, rfl, rfl⟩ := exists_eq_cons hrest hc
  exact ⟨more, hleft, rfl, hread⟩

section Values

variable {beyond : Prop} {bound : Nat} {read alone : Option (α × List Char)} {value : β}

/-- What is made of a value that is read alone is made of it alone. The other case is that the
reader goes on in the closing. -/
theorem readAlone_bind {f : α → Option β}
    (h : (read.bind fun p => (f p.1).map fun b => (b, p.2)) = some (value, rest))
    (hread : ∀ a, read = some (a, rest) → ReadAlone bound alone a rest ∨ beyond) :
    ReadAlone bound (alone.bind fun p => (f p.1).map fun b => (b, p.2)) value rest ∨ beyond := by
  obtain ⟨⟨a, left⟩, ha, hvalue⟩ := Option.bind_eq_some_iff.1 h
  obtain ⟨b, hb, hvalue⟩ := Option.map_eq_some_iff.1 hvalue
  cases hvalue
  refine (hread a ha).imp_left ?_
  rintro ⟨left, hleft, hrest, hread⟩
  exact ⟨left, hleft, hrest, by simp [hread, hb]⟩

theorem readAlone_map {f : α → β} (h : (read.map fun p => (f p.1, p.2)) = some (value, rest))
    (hread : ∀ a, read = some (a, rest) → ReadAlone bound alone a rest ∨ beyond) :
    ReadAlone bound (alone.map fun p => (f p.1, p.2)) value rest ∨ beyond := by
  obtain ⟨⟨a, left⟩, ha, hvalue⟩ := Option.map_eq_some_iff.1 h
  cases hvalue
  refine (hread a ha).imp_left ?_
  rintro ⟨left, hleft, hrest, hread⟩
  exact ⟨left, hleft, hrest, by simp [hread]⟩

end Values

section Blanks

theorem skipGo_append (text : List Char) (inComment : Bool) :
    skip.go (text ++ closing) inComment = skip.go text inComment ++ closing ∨
      skip.go text inComment = [] ∧ skip.go (text ++ closing) inComment = [] := by
  fun_induction skip.go text inComment with
  | case1 inComment => cases inComment <;> decide
  | case2 c rest ih => simpa [skip.go] using ih
  | case3 c rest hc ih => simpa [skip.go, hc] using ih
  | case4 rest hc ih => simpa [skip.go, hc] using ih
  | case5 c rest hc hne => simp [skip.go, hc, hne]

/-- Blanks and comments are skipped as if the text ended before the closing, unless a comment goes
on there. -/
theorem skip_append (verbose : Bool) (text : List Char) :
    skip verbose (text ++ closing) = skip verbose text ++ closing ∨
      skip verbose text = [] ∧ skip verbose (text ++ closing) = [] := by
  cases verbose with
  | false => exact Or.inl rfl
  | true => exact skipGo_append text false

theorem skip_suffix (verbose : Bool) (text : List Char) : skip verbose text <:+ text := by
  have go_suffix : ∀ inComment, skip.go text inComment <:+ text := fun inComment => by
    fun_induction skip.go text inComment with
    | case1 => exact List.suffix_refl _
    | case2 c rest ih => exact ih.trans (List.suffix_cons _ _)
    | case3 c rest hc ih => exact ih.trans (List.suffix_cons _ _)
    | case4 rest hc ih => exact ih.trans (List.suffix_cons _ _)
    | case5 c rest hc hne => exact List.suffix_refl _
  cases verbose with
  | false => exact List.suffix_refl _
  | true => exact go_suffix false

theorem length_skip_le (verbose : Bool) (text : List Char) :
    (skip verbose text).length ≤ text.length :=
  (skip_suffix verbose text).length_le

/-- Either the text has nothing but blanks and comments, of which the last one may go on in the
closing, or something else comes first in it. -/
theorem skip_cases (verbose : Bool) (text : List Char) :
    (skip verbose text = [] ∧
      (skip verbose (text ++ closing) = [] ∨ skip verbose (text ++ closing) = closing)) ∨
    ∃ c more, skip verbose text = c :: more ∧ more.length < text.length ∧
      skip verbose (text ++ closing) = c :: (more ++ closing) := by
  have hlength := length_skip_le verbose text
  cases hskip : skip verbose text with
  | nil =>
      rcases skip_append verbose text with h | ⟨-, h⟩
      · exact Or.inl ⟨rfl, Or.inr (by rw [h, hskip, List.nil_append])⟩
      · exact Or.inl ⟨rfl, Or.inl h⟩
  | cons c more =>
      rw [hskip, List.length_cons] at hlength
      rcases skip_append verbose text with h | ⟨hnil, -⟩
      · exact Or.inr ⟨c, more, rfl, hlength, by rw [h, hskip, List.cons_append]⟩
      · rw [hskip] at hnil
        cases hnil

@[simp] theorem skip_nil (verbose : Bool) : skip verbose [] = [] := by
  cases verbose <;> rfl

/-- Only blanks and the signs of comments are skipped. -/
theorem skip_cons (verbose : Bool) (hblank : Text.isBlank c = false) (hsign : c ≠ '#') :
    skip verbose (c :: text) = c :: text := by
  cases verbose
  · rfl
  · simp [skip, skip.go, hblank, hsign]

@[simp] theorem skip_parenthesis (verbose : Bool) (text : List Char) :
    skip verbose (')' :: text) = ')' :: text :=
  skip_cons verbose (by decide) (by decide)

@[simp] theorem skip_dollar (verbose : Bool) (text : List Char) :
    skip verbose ('$' :: text) = '$' :: text :=
  skip_cons verbose (by decide) (by decide)

/-- What is left after the blanks behind an item. -/
theorem readAlone_skip (verbose : Bool) (text : List Char) (value : α) :
    ReadAlone text.length (some (value, skip verbose text)) value (skip verbose (text ++ closing)) ∨
      skip verbose (text ++ closing) = [] := by
  rcases skip_append verbose text with h | ⟨-, h⟩
  · exact Or.inl ⟨_, length_skip_le verbose text, h, rfl⟩
  · exact Or.inr h

theorem suffix_dollar_iff : rest <:+ ['$'] ↔ rest = ['$'] ∨ rest = [] := by
  simp [List.suffix_cons_iff]

theorem suffix_of_eq_nil (h : rest = []) : rest <:+ ['$'] :=
  suffix_dollar_iff.2 (Or.inr h)

end Blanks

/-- A run of signs ends in front of a parenthesis. Nothing is left if a comment behind one of the
signs goes on in the closing. -/
theorem readRun_before_closing {ofKind : Char → Bool} {run : List Char} {n m : Nat}
    (hn : text.length ≤ n) (hm : text.length ≤ m) (hstop : ofKind ')' = false)
    (h : readRun verbose ofKind n (text ++ closing) = (run, rest)) :
    ReadAlone text.length (some (readRun verbose ofKind m text)) run rest ∨ rest = [] := by
  induction n generalizing m text run with
  | zero =>
      obtain rfl := List.eq_nil_of_length_eq_zero (Nat.le_zero.1 hn)
      cases h
      exact Or.inl ⟨[], Nat.le_refl _, rfl, by cases m <;> rfl⟩
  | succ n ih =>
      cases text with
      | nil =>
          simp only [List.nil_append, closing, readRun, hstop, Bool.false_eq_true, if_false] at h
          cases h
          exact Or.inl ⟨[], Nat.le_refl _, rfl, by cases m <;> rfl⟩
      | cons c text =>
          rw [List.length_cons] at hn hm ⊢
          obtain ⟨m, rfl⟩ := Nat.exists_eq_succ_of_ne_zero (show m ≠ 0 by omega)
          simp only [List.cons_append, readRun] at h ⊢
          split_ifs at h ⊢ with hc
          · have hle := length_skip_le verbose text
            generalize hmore : readRun verbose ofKind n (skip verbose (text ++ closing)) = more at h
            obtain ⟨more, left⟩ := more
            obtain ⟨rfl, rfl⟩ := Prod.mk.inj h
            rcases skip_append verbose text with hskip | ⟨-, hskip⟩
            · rw [hskip] at hmore
              refine (ih (m := m) (by omega) (by omega) hmore).imp_left ?_
              rintro ⟨left, hleft, hrest, hread⟩
              exact ⟨left, by omega, hrest, by rw [Option.some.inj hread]⟩
            · rw [hskip] at hmore
              cases n <;> cases hmore <;> exact Or.inr rfl
          · cases h
            exact Or.inl ⟨c :: text, Nat.le_refl _, rfl, rfl⟩

section Repetitions

variable {value : Option Nat}

theorem dropBlanks_append (text : List Char) :
    (text ++ closing).dropWhile Text.isBlank = text.dropWhile Text.isBlank ++ closing := by
  rw [List.dropWhile_append]
  split
  · rename_i hnil
    rw [List.isEmpty_iff.1 hnil]
    rfl
  · rfl

theorem length_dropBlanks_le (text : List Char) :
    (text.dropWhile Text.isBlank).length ≤ text.length :=
  (List.dropWhile_sublist _).length_le

theorem readCount_before_closing (h : readCount verbose (text ++ closing) = (value, rest)) :
    ReadAlone text.length (some (readCount verbose text)) value rest ∨ rest = [] := by
  simp only [readCount, dropBlanks_append] at h ⊢
  have hle := length_dropBlanks_le text
  generalize hrun : readRun verbose Char.isDigit
    ((text.dropWhile Text.isBlank ++ closing).length + 1)
    (text.dropWhile Text.isBlank ++ closing) = run at h
  obtain ⟨digits, more⟩ := run
  cases h
  rcases readRun_before_closing (by rw [List.length_append]; omega) (Nat.le_succ _) (by decide)
    hrun with ⟨left, hleft, rfl, hread⟩ | rfl
  · rw [Option.some.inj hread, dropBlanks_append]
    exact Or.inl ⟨_, Nat.le_trans (length_dropBlanks_le left) (Nat.le_trans hleft hle), rfl, rfl⟩
  · exact Or.inr rfl

theorem readMost_before_closing {least : Option Nat} {limits : Nat × Option Nat}
    (h : readMost verbose least (text ++ closing) = some (limits, rest)) :
    ReadAlone text.length (readMost verbose least text) limits rest ∨ rest = [] := by
  unfold readMost at h ⊢
  rcases skip_cases verbose text with ⟨-, hskip | hskip⟩ | ⟨c, more, htext, hlt, hskip⟩
  · rw [hskip] at h
    cases h
  · rw [hskip] at h
    cases least <;> cases verbose <;> cases h
  · rw [hskip] at h
    rw [htext]
    by_cases hc : c = '\x7d'
    · subst hc
      obtain ⟨n, rfl, hlimits⟩ := Option.map_eq_some_iff.1 h
      cases hlimits
      exact Or.inl ⟨'\x7d' :: more, hlt, rfl, rfl⟩
    · simp only [hc, List.cons.injEq, false_and, imp_self, implies_true] at h ⊢
      split at h
      · rename_i least most more' hmost
        cases h
        rw [← List.cons_append] at hmost
        refine (readCount_before_closing hmost).imp_left ?_
        rintro ⟨left, hleft, rfl, hread⟩
        rw [Option.some.inj hread]
        exact ⟨left, Nat.le_trans hleft hlt, rfl, rfl⟩
      · cases h

theorem readLimits_before_closing {limits : Nat × Option Nat}
    (h : readLimits verbose (text ++ closing) = some (limits, rest)) :
    ReadAlone text.length (readLimits verbose text) limits rest ∨ rest = [] := by
  have hle := length_skip_le verbose text
  unfold readLimits at h ⊢
  rcases skip_append verbose text with hskip | ⟨-, hskip⟩
  · rw [hskip] at h
    split at h
    · rename_i least more hcount
      obtain ⟨left, hleft, rfl, hread⟩ :=
        ((readCount_before_closing hcount).resolve_right (List.cons_ne_nil _ _)).of_cons (by decide)
      rw [Option.some.inj hread]
      exact (readMost_before_closing h).imp_left (·.mono (by omega))
    · rename_i least more hcomma hcount
      obtain ⟨n, rfl, hlimits⟩ := Option.map_eq_some_iff.1 h
      cases hlimits
      refine (readCount_before_closing hcount).imp_left ?_
      rintro ⟨left, hleft, rfl, hread⟩
      rw [Option.some.inj hread]
      have hcomma : ∀ more, left ≠ ',' :: more := by
        rintro more rfl
        exact hcomma _ rfl
      exact ⟨left, Nat.le_trans hleft hle, rfl, by simp only [Option.map_some]⟩
  · rw [hskip] at h
    cases h

/-- There are no bounds where only blanks and the closing are left. -/
theorem readLimits_eq_none (h : skip verbose text = [] ∨ skip verbose text = closing) :
    readLimits verbose text = none := by
  unfold readLimits
  rcases h with h | h <;> rw [h] <;> cases verbose <;> rfl

theorem readLazy_append (text : List Char) :
    readLazy (text ++ closing) = ((readLazy text).1, (readLazy text).2 ++ closing) := by
  cases text with
  | nil => rfl
  | cons c text => by_cases hc : c = '?' <;> simp [readLazy, hc]

theorem length_readLazy_le (text : List Char) : (readLazy text).2.length ≤ text.length := by
  cases text with
  | nil => exact Nat.le_refl _
  | cons c text => by_cases hc : c = '?' <;> simp [readLazy, hc]

theorem readBounds_before_closing {times : Times}
    (h : readBounds verbose (text ++ closing) = some (times, rest)) :
    ReadAlone text.length (readBounds verbose text) times rest ∨ rest <:+ ['$'] := by
  unfold readBounds at h ⊢
  split at h
  · rename_i least most more hlimits
    obtain ⟨left, hleft, rfl, hread⟩ :=
      ((readLimits_before_closing hlimits).resolve_right (List.cons_ne_nil _ _)).of_cons (by decide)
    rw [hread]
    simp only at h ⊢
    split_ifs at h ⊢ with hle
    cases h
    have hskip := length_skip_le verbose left
    have hlazy := length_readLazy_le (skip verbose left)
    rcases skip_append verbose left with h | ⟨-, h⟩
    · rw [h, readLazy_append]
      exact Or.inl ⟨_, by omega, rfl, rfl⟩
    · rw [h]
      exact Or.inr List.nil_suffix
  · cases h

end Repetitions

end EndpointMonitor.Pattern.Reader
