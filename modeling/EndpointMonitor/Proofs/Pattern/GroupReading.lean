import EndpointMonitor.Proofs.Pattern.ClassReading

/-!
# Groups in front of a closing parenthesis

A pattern that closes a group that it has not opened is malformed. Any other pattern is read in a
group as it is read alone, item by item: the groups that it opens stand within the group around it,
whose parenthesis is the one in the closing. What goes on in the closing cannot be finished, as it
leaves the group around it open.
-/

namespace EndpointMonitor.Pattern.Reader

variable {α : Type} {verbose : Bool} {text rest : List Char} {c : Char}

section Heads

variable {items flags : List FlagItem} {acc : List Char}

theorem readFlags_before_closing (h : readFlags items (text ++ closing) = some (flags, rest)) :
    ReadAlone text.length (readFlags items text) flags rest ∨ rest = closing := by
  induction text generalizing items with
  | nil =>
      rw [List.nil_append, closing, readFlags, if_pos (Or.inr rfl)] at h
      split_ifs at h
      cases h
      exact Or.inr rfl
  | cons c text ih =>
      simp only [List.cons_append, readFlags] at h ⊢
      by_cases hc : c = ':' ∨ c = ')'
      · rw [if_pos hc] at h ⊢
        split_ifs at h ⊢
        cases h
        exact Or.inl ⟨c :: text, Nat.le_refl _, rfl, rfl⟩
      · rw [if_neg hc] at h ⊢
        split at h
        · split_ifs at h ⊢
          exact (ih h).imp_left (·.mono (Nat.le_succ _))
        · cases h

theorem readName_before_closing {name : String}
    (h : readName acc (text ++ closing) = some (name, rest)) :
    ReadAlone text.length (readName acc text) name rest := by
  induction text generalizing acc with
  | nil =>
      have hstop : ∀ first, isNameChar ')' first = false := by decide
      simp [closing, readName, hstop] at h
  | cons c text ih =>
      simp only [List.cons_append, readName] at h ⊢
      split_ifs at h ⊢
      · cases h
        exact ⟨text, Nat.le_succ _, rfl, rfl⟩
      · exact (ih h).mono (Nat.le_succ _)

theorem readFlagged_before_closing {opening : Opening}
    (h : readFlagged (text ++ closing) = some (opening, rest)) :
    ReadAlone text.length (readFlagged text) opening rest ∨ rest <:+ ['$'] := by
  unfold readFlagged at h ⊢
  split at h
  · rename_i items more hflags
    split_ifs at h with hempty
    cases h
    rcases readFlags_before_closing hflags with ⟨left, hleft, hmore, hread⟩ | hclosing
    · cases left with
      | nil =>
          cases hmore
          exact Or.inr (List.suffix_refl _)
      | cons c left =>
          obtain ⟨rfl, rfl⟩ := List.cons.inj hmore
          rw [hread]
          exact Or.inl ⟨left, Nat.le_of_lt hleft, rfl, if_neg hempty⟩
    · cases hclosing
      exact Or.inr (List.suffix_refl _)
  · rename_i items more hflags
    cases h
    obtain ⟨left, hleft, rfl, hread⟩ :=
      ((readFlags_before_closing hflags).resolve_right (by simp [closing])).of_cons (by decide)
    rw [hread]
    exact Or.inl ⟨left, Nat.le_of_lt hleft, rfl, rfl⟩
  · cases h

theorem readKind_before_closing {opening : Opening}
    (h : readKind (text ++ closing) = some (opening, rest)) :
    ReadAlone text.length (readKind text) opening rest ∨ rest <:+ ['$'] := by
  have named : ∀ {more : List Char}, (readName [] (more ++ closing)).map
      (fun p => (Opening.capture (some p.1), p.2)) = some (opening, rest) →
      ReadAlone more.length ((readName [] more).map fun p => (Opening.capture (some p.1), p.2))
        opening rest ∨ rest <:+ ['$'] := fun h =>
    readAlone_map (f := fun name => Opening.capture (some name)) h fun name hname =>
      Or.inl (readName_before_closing hname)
  unfold readKind at h
  split at h
  · rename_i more htext
    obtain ⟨text, rfl, hmore⟩ := exists_eq_cons htext.symm (by decide)
    obtain ⟨text, rfl, rfl⟩ := exists_eq_cons hmore (by decide)
    exact (named h).imp_left (·.mono (by simp only [List.length_cons]; omega))
  · rename_i more htext
    obtain ⟨text, rfl, rfl⟩ := exists_eq_cons htext.symm (by decide)
    exact (named h).imp_left (·.mono (Nat.le_succ _))
  · rename_i hlong hshort
    have hread : readKind text = readFlagged text := by
      unfold readKind
      split
      · exact absurd rfl (hlong _)
      · exact absurd rfl (hshort _)
      · rfl
    rw [hread]
    exact readFlagged_before_closing h

theorem readOpening_before_closing {opening : Opening}
    (h : readOpening verbose (text ++ closing) = some (opening, rest)) :
    ReadAlone text.length (readOpening verbose text) opening rest ∨ rest <:+ ['$'] := by
  unfold readOpening at h ⊢
  rcases skip_cases verbose text with ⟨htext, hskip | hskip⟩ | ⟨c, more, htext, hlt, hskip⟩
  · rw [hskip] at h
    cases h
    exact Or.inr List.nil_suffix
  · rw [hskip] at h
    rw [htext]
    cases h
    exact Or.inl ⟨[], Nat.zero_le _, rfl, rfl⟩
  · rw [hskip] at h
    rw [htext]
    by_cases hc : c = '?'
    · subst hc
      exact (readKind_before_closing h).imp_left (·.mono (Nat.le_of_lt hlt))
    · simp only [hc, List.cons.injEq, false_and, imp_self, implies_true] at h ⊢
      cases h
      exact Or.inl ⟨c :: more, hlt, rfl, rfl⟩

end Heads

theorem OpenGroup.repeatLast_eq_some {g g' : OpenGroup} {times : Times}
    (h : g.repeatLast times = some g') : g'.captures = g.captures ∧ g'.flags = g.flags := by
  unfold OpenGroup.repeatLast at h
  split at h <;> cases h
  exact ⟨rfl, rfl⟩

namespace OpenPattern

variable {p q : OpenPattern} {around : OpenGroup} {n m : Nat}

/-- What comes next closes a group, but none is open; or it is an item after which this is so. A
parenthesis in an escape, a class or a comment is part of a longer item. -/
inductive ClosesUnopened : OpenPattern → Prop
  | now {p : OpenPattern} {rest : List Char} (houter : p.outer = [])
      (hnext : skip p.verbose p.rest = ')' :: rest) : ClosesUnopened p
  | later {p q : OpenPattern} {c : Char} {rest : List Char}
      (hnext : skip p.verbose p.rest = c :: rest) (hitem : p.item c rest = some q)
      (hq : ClosesUnopened q) : ClosesUnopened p

/-- A pattern that closes a group that it has not opened is malformed. -/
theorem ClosesUnopened.finish_eq_none (h : ClosesUnopened p) (n : Nat) : p.finish n = none := by
  induction h generalizing n with
  | now houter hnext =>
      cases n with
      | zero => rfl
      | succ n => simp [finish, hnext, item, leave, houter]
  | later hnext hitem hq ih =>
      cases n with
      | zero => rfl
      | succ n => simp [finish, hnext, hitem, ih]

/-- The reading of the same text in a group, in front of the closing. -/
def within (around : OpenGroup) (p : OpenPattern) : OpenPattern :=
  { p with outer := p.outer ++ [around], rest := p.rest ++ closing }

@[simp] theorem within_verbose : (p.within around).verbose = p.verbose := rfl

@[simp] theorem within_rest : (p.within around).rest = p.rest ++ closing := rfl

@[simp] theorem within_names : (p.within around).names = p.names := rfl

theorem within_outer_ne_nil : (p.within around).outer ≠ [] := by
  simp [within]

/-- Whether the outermost group captures, and its flags. -/
def root (p : OpenPattern) : Bool × List FlagItem :=
  let g := p.outer.getLast?.getD p.inner
  (g.captures, g.flags)

theorem root_eq (houter : q.outer = p.outer) (hcaptures : q.inner.captures = p.inner.captures)
    (hflags : q.inner.flags = p.inner.flags) : q.root = p.root := by
  unfold root
  rw [houter]
  cases p.outer.getLast? with
  | none => simp [hcaptures, hflags]
  | some g => rfl

/-- How a reading goes on after what has been read: it does the same in a group, it goes on with the
text that is left, and it leaves no group. -/
structure Follows (go : OpenPattern → List Char → Option OpenPattern) : Prop where
  within : ∀ {p around left},
    go (p.within around) (left ++ closing) = (go p left).map (within around)
  rest : ∀ {p q rest}, go p rest = some q → q.rest = rest
  outer : ∀ {p q rest}, go p rest = some q → p.outer ≠ [] → q.outer ≠ []
  root : ∀ {p q rest}, go p rest = some q → q.root = p.root

theorem follows_add (part : Ast) : Follows fun p rest => some (p.add part rest) where
  within := rfl
  rest h := by cases h; rfl
  outer h houter := by cases h; exact houter
  root h := by cases h; exact root_eq rfl rfl rfl

theorem follows_alternate : Follows fun p rest => some (p.alternate rest) where
  within := rfl
  rest h := by cases h; rfl
  outer h houter := by cases h; exact houter
  root h := by cases h; exact root_eq rfl rfl rfl

theorem follows_repeatLast (times : Times) : Follows fun p rest => p.repeatLast times rest where
  within {p around left} := by
    cases h : p.inner.repeatLast times <;> simp [repeatLast, OpenPattern.within, h]
  rest h := by
    obtain ⟨inner, -, rfl⟩ := Option.map_eq_some_iff.1 h
    rfl
  outer h houter := by
    obtain ⟨inner, -, rfl⟩ := Option.map_eq_some_iff.1 h
    exact houter
  root h := by
    obtain ⟨inner, hinner, rfl⟩ := Option.map_eq_some_iff.1 h
    obtain ⟨hcaptures, hflags⟩ := OpenGroup.repeatLast_eq_some hinner
    exact root_eq rfl hcaptures hflags

theorem follows_push (captures : Bool) (flags : List FlagItem) (names : OpenPattern → List String)
    (hnames : ∀ p around, names (within around p) = names p) :
    Follows fun p rest => some (p.push captures flags (names p) rest) where
  within {p around left} := by
    rw [hnames]
    rfl
  rest h := by cases h; rfl
  outer h _ := by cases h; exact List.cons_ne_nil _ _
  root h := by cases h; simp [OpenPattern.root, push, List.getLast?_cons]

theorem follows_enter (opening : Opening) : Follows fun p rest => p.enter opening rest := by
  cases opening with
  | switch items =>
      exact {
        within := rfl
        rest := fun h => by cases h; rfl
        outer := fun h houter => by cases h; exact houter
        root := fun h => by cases h; exact root_eq rfl rfl rfl }
  | plain items => exact follows_push false items names fun _ _ => rfl
  | capture name =>
      have hpush := follows_push true [] (fun p => name.toList ++ p.names) fun _ _ => rfl
      have enter_eq_some {p q : OpenPattern} {rest : List Char}
          (h : p.enter (.capture name) rest = some q) :
          some (p.push true [] (name.toList ++ p.names) rest) = some q := by
        simp only [enter] at h
        split_ifs at h
        exact h
      exact {
        within := fun {p around left} => by
          by_cases htaken : name.any p.names.contains = true
          · rw [enter, enter, if_pos htaken, within_names, if_pos htaken]
            rfl
          · rw [enter, enter, if_neg htaken, within_names, if_neg htaken]
            rfl
        rest := fun h => hpush.rest (enter_eq_some h)
        outer := fun h => hpush.outer (enter_eq_some h)
        root := fun h => hpush.root (enter_eq_some h) }

/-- An open group cannot be closed in what is left after the closing parenthesis. -/
theorem finish_of_suffix (hrest : p.rest <:+ ['$']) (houter : p.outer ≠ []) (n : Nat) :
    p.finish n = none := by
  have finish_nil : ∀ {q : OpenPattern}, q.rest = [] → q.outer ≠ [] → ∀ n, q.finish n = none := by
    intro q hrest houter n
    cases n <;> simp [finish, hrest, houter]
  rcases suffix_dollar_iff.1 hrest with hrest | hrest
  · cases n with
    | zero => rfl
    | succ n =>
        simp only [finish, hrest, skip_dollar, item]
        exact finish_nil (q := p.add (.atom (.anchor .lineEnd)) []) rfl houter n
  · exact finish_nil hrest houter n

/-- A brace after a word boundary that is followed by blanks only is no repetition. -/
theorem finish_of_brace {inside : List Char} (hinside : skip p.verbose inside = [])
    (hrest : p.rest = '\x7b' :: (inside ++ closing)) (n : Nat) : p.finish n = none := by
  have hnone : readBounds p.verbose (inside ++ closing) = none := by
    have hskip : skip p.verbose (inside ++ closing) = [] ∨
        skip p.verbose (inside ++ closing) = closing := by
      rcases skip_cases p.verbose inside with ⟨-, hskip⟩ | ⟨c, more, hcons, -⟩
      · exact hskip
      · rw [hinside] at hcons
        cases hcons
    rw [readBounds, readLimits_eq_none hskip]
  cases n with
  | zero => rfl
  | succ n =>
      have hbrace : skip p.verbose p.rest = '\x7b' :: (inside ++ closing) :=
        hrest ▸ skip_cons p.verbose (by decide) (by decide)
      simp [finish, hbrace, item, hnone]

section Items

/-- What comes of a reading in a group: it is that of the text alone, or it cannot be finished. -/
def Parallel (around : OpenGroup) (p : OpenPattern) (bound : Nat) (alone : Option OpenPattern)
    (q : OpenPattern) : Prop :=
  (∃ left, alone = some left ∧ q = left.within around ∧ left.rest.length ≤ bound ∧
    left.root = p.root) ∨ ∀ n, q.finish n = none

theorem Follows.parallel {go : OpenPattern → List Char → Option OpenPattern} (hgo : Follows go)
    {bound : Nat} (h : go (p.within around) (text ++ closing) = some q)
    (hle : text.length ≤ bound) : Parallel around p bound (go p text) q := by
  rw [hgo.within] at h
  obtain ⟨left, hleft, rfl⟩ := Option.map_eq_some_iff.1 h
  exact Or.inl ⟨left, hleft, rfl, (hgo.rest hleft).symm ▸ hle, hgo.root hleft⟩

/-- A reading that went on in the closing leaves a group open. -/
theorem Follows.lost {go : OpenPattern → List Char → Option OpenPattern} (hgo : Follows go)
    (h : go (p.within around) rest = some q) (hrest : rest <:+ ['$']) (n : Nat) :
    q.finish n = none :=
  finish_of_suffix ((hgo.rest h).symm ▸ hrest) (hgo.outer h within_outer_ne_nil) n

/-- An item is read, and the reading goes on with what was read. -/
theorem Follows.parallel_bind {go : α → OpenPattern → List Char → Option OpenPattern}
    (hgo : ∀ a, Follows (go a)) {grouped alone : Option (α × List Char)} {bound : Nat}
    (h : (grouped.bind fun x => go x.1 (p.within around) x.2) = some q)
    (hread : ∀ a rest, grouped = some (a, rest) → ReadAlone bound alone a rest ∨ rest <:+ ['$']) :
    Parallel around p bound (alone.bind fun x => go x.1 p x.2) q := by
  obtain ⟨⟨a, rest⟩, ha, hq⟩ := Option.bind_eq_some_iff.1 h
  rcases hread a rest ha with ⟨left, hle, rfl, halone⟩ | hsuffix
  · rw [halone]
    exact (hgo a).parallel hq hle
  · exact Or.inr ((hgo a).lost hq hsuffix)

theorem parallel_leave (h : (p.within around).leave (text ++ closing) = some q)
    (houter : p.outer ≠ []) : Parallel around p text.length (p.leave text) q := by
  cases hp : p.outer with
  | nil => exact absurd hp houter
  | cons g outer =>
      simp only [leave, within, hp, List.cons_append] at h ⊢
      cases h
      refine Or.inl ⟨_, rfl, rfl, Nat.le_refl _, ?_⟩
      cases outer <;> simp [root, hp, OpenGroup.add, List.getLast?_cons]

theorem parallel_class (h : (p.within around).item '[' (text ++ closing) = some q) :
    Parallel around p text.length (p.item '[' text) q := by
  simp only [item, within_verbose] at h ⊢
  generalize hopened : openClass p.verbose (text ++ closing) = opened at h
  obtain ⟨opened, rest⟩ := opened
  rcases openClass_before_closing hopened with ⟨left, hleft, rfl, hread⟩ | rfl
  · rw [Option.some.inj hread]
    rw [Option.map_eq_bind] at h ⊢
    exact Follows.parallel_bind (fun body => follows_add (.classSet body.1 body.2)) h
      fun body rest hbody =>
        Or.inl ((readClass_before_closing (Nat.lt_succ_self _) hbody).mono hleft)
  · rw [readClass_of_suffix (by simp)] at h
    cases h

theorem parallel_escape (h : (p.within around).item '\\' (text ++ closing) = some q) :
    Parallel around p text.length (p.item '\\' text) q := by
  have hadd : ∀ a, Follows fun p rest => some (p.add (.atom a) rest) :=
    fun a => follows_add (.atom a)
  simp only [item, within_verbose] at h ⊢
  obtain ⟨⟨a, rest⟩, ha, hq⟩ := Option.map_eq_some_iff.1 h
  rcases readEscape_before_closing ha with
    ⟨left, hle, rfl, hread⟩ | hsuffix | ⟨rfl, inside, hinside, rfl⟩
  · rw [hread]
    exact (hadd a).parallel (congrArg some hq) hle
  · exact Or.inr ((hadd a).lost (congrArg some hq) hsuffix)
  · subst hq
    exact Or.inr (finish_of_brace hinside rfl)

/-- The signs of items that are more than a character. -/
def longItems : List Char :=
  ['(', ')', '|', '[', '\x7b', '\\']

theorem item_of_short (p : OpenPattern) (text : List Char) (hc : c ∉ longItems) :
    p.item c text = match signBounds? c with
      | some (least, most) => p.repeatLast ⟨least, most, (readLazy text).1⟩ (readLazy text).2
      | none => some (p.add (partOf c) text) := by
  simp only [longItems, List.mem_cons, List.not_mem_nil, or_false, not_or] at hc
  cases hsign : signBounds? c <;> simp [item, hc, hsign]

theorem parallel_item (h : (p.within around).item c (text ++ closing) = some q)
    (hclosed : c = ')' → p.outer ≠ []) : Parallel around p text.length (p.item c text) q := by
  by_cases hlong : c ∈ longItems
  · simp only [longItems, List.mem_cons, List.not_mem_nil, or_false] at hlong
    rcases hlong with rfl | rfl | rfl | rfl | rfl | rfl
    · exact Follows.parallel_bind follows_enter h fun opening rest => readOpening_before_closing
    · exact parallel_leave h (hclosed rfl)
    · exact follows_alternate.parallel h (Nat.le_refl _)
    · exact parallel_class h
    · exact Follows.parallel_bind follows_repeatLast h fun times rest => readBounds_before_closing
    · exact parallel_escape h
  · rw [item_of_short _ _ hlong] at h ⊢
    cases hsign : signBounds? c with
    | some bounds =>
        simp only [hsign, readLazy_append] at h ⊢
        exact (follows_repeatLast _).parallel h (length_readLazy_le text)
    | none =>
        simp only [hsign] at h ⊢
        exact (follows_add _).parallel h (Nat.le_refl _)

end Items

/-- The dollar sign of the closing is the last part. -/
theorem eq_close_of_finish_dollar {ast : Ast} (hrest : p.rest = ['$'])
    (h : p.finish n = some ast) : ast = (p.inner.add (.atom (.anchor .lineEnd))).close := by
  rcases n with _ | _ | n
  · cases h
  · simp [finish, hrest, item_of_short, longItems, signBounds?] at h
  · have houter : p.outer = [] := by
      by_contra houter
      rw [finish_of_suffix (hrest ▸ List.suffix_refl _) houter] at h
      cases h
    simp [finish, hrest, item_of_short, longItems, signBounds?, add, partOf, houter] at h
    exact h.symm

/-- A pattern that is read in a group, and opens what it closes, is read alone as well. What is read
in the group is its reading between the parts around it. -/
theorem finish_within {ast : Ast} (hclosed : ¬ ClosesUnopened p)
    (h : (p.within around).finish n = some ast) (hm : p.rest.length < m) :
    ∃ body, p.finish m = some body ∧ ast =
      ((around.add (.group p.root.1 p.root.2 body)).add (.atom (.anchor .lineEnd))).close := by
  induction n generalizing p m with
  | zero => cases h
  | succ n ih =>
      obtain ⟨m, rfl⟩ := Nat.exists_eq_succ_of_ne_zero (Nat.ne_zero_of_lt hm)
      rcases skip_cases p.verbose p.rest with ⟨htext, hskip | hskip⟩ | ⟨c, more, htext, hlt, hskip⟩
      · simp [finish, hskip, within] at h
      · rw [finish, within_verbose, within_rest, hskip] at h
        obtain ⟨q, hq, h⟩ := Option.bind_eq_some_iff.1 h
        cases houter : p.outer with
        | nil =>
            -- The parenthesis of the closing is that of the group around the pattern.
            refine ⟨p.inner.close, by simp [finish, htext, houter], ?_⟩
            simp only [item, leave, within, houter, List.nil_append] at hq
            cases hq
            rw [eq_close_of_finish_dollar rfl h]
            simp [root, houter]
        | cons g outer =>
            -- It is taken by a group that the pattern has left open.
            simp only [item, leave, within, houter, List.cons_append] at hq
            cases hq
            rw [finish_of_suffix (List.suffix_refl _) (by simp)] at h
            cases h
      · simp only [finish, within_verbose, within_rest, hskip, htext] at h ⊢
        obtain ⟨q, hq, h⟩ := Option.bind_eq_some_iff.1 h
        have hparen : c = ')' → p.outer ≠ [] := by
          rintro rfl houter
          exact hclosed (.now houter htext)
        rcases parallel_item hq hparen with ⟨p', hp', rfl, hle, hroot⟩ | hnone
        · have hclosed' : ¬ ClosesUnopened p' := fun h' => hclosed (.later htext hp' h')
          rw [hp', ← hroot]
          exact ih hclosed' h (by omega)
        · rw [hnone] at h
          cases h

end OpenPattern

end EndpointMonitor.Pattern.Reader
