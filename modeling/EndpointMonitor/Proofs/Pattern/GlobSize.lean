import EndpointMonitor.Proofs.Pattern.PlainGlobs
import EndpointMonitor.Proofs.Pattern.ShortTexts

/-!
# The size of a glob

Reading a glob needs a character of the pattern for every character of its bound. Every sign other
than a wildcard costs a character more, and so does a double star between two slashes.
-/

namespace EndpointMonitor.Pattern.Glob

section Bounds

@[simp] theorem bound_append (ts us : List GlobToken) : bound (ts ++ us) = bound ts + bound us := by
  induction ts with
  | nil => rw [List.nil_append, bound, Nat.zero_add]
  | cons t ts ih => rw [List.cons_append, bound, bound, ih, Nat.add_assoc]

@[simp] theorem optionsBound_append (options others : List (List GlobToken)) :
    optionsBound (options ++ others) = optionsBound options + optionsBound others := by
  induction options with
  | nil => rw [List.nil_append, optionsBound, Nat.zero_add]
  | cons option options ih => rw [List.cons_append, optionsBound, optionsBound, ih, Nat.add_assoc]

@[simp] theorem bound_reverse (ts : List GlobToken) : bound ts.reverse = bound ts := by
  induction ts with
  | nil => rfl
  | cons t ts ih => simp [bound, ih, Nat.add_comm]

@[simp] theorem optionsBound_reverse (options : List (List GlobToken)) :
    optionsBound options.reverse = optionsBound options := by
  induction options with
  | nil => rfl
  | cons option options ih => simp [optionsBound, ih, Nat.add_comm]

/-- The number of characters that are enough for what is read into a frame. -/
def frameBound (f : Frame) : Nat :=
  optionsBound f.finished + bound f.current

/-- The number of characters that are enough for what is read into some frames. -/
def framesBound : List Frame → Nat
  | [] => 0
  | f :: fs => frameBound f + framesBound fs

/-- The number of characters that are enough for what is read. -/
def readingBound (r : Reading) : Nat :=
  framesBound (r.inner :: r.outer)

@[simp] theorem readingBound_push (r : Reading) (t : GlobToken) :
    readingBound (r.push t) = tokenBound t + readingBound r := by
  simp [readingBound, framesBound, frameBound, Reading.push, bound]
  omega

end Bounds

section Steps

variable {prev : Option Char} {r : Reading} {cs rest : List Char} {ts : List GlobToken} {c : Char}

theorem fixedLength_readClass {ranges out : List (Char × Char)} {first inRange : Bool}
    (h : readClass cs ranges first inRange = some (out, rest)) :
    fixedLength rest < fixedLength cs := by
  induction cs generalizing ranges first inRange with
  | nil => simp [readClass] at h
  | cons c cs ih =>
      rw [fixedLength_cons]
      unfold readClass at h
      split at h
      · rename_i hclose
        simp at h
        rw [if_neg (by simp [hclose.1]), ← h.2]
        omega
      · grind

theorem fixedLength_negation (cs : List Char) : fixedLength (negation cs).2 ≤ fixedLength cs := by
  unfold negation
  grind [fixedLength_cons]

/-- What makes a glob smaller than the pattern that is left to be read: a sign, or a double star
between two slashes, the first of which may be the character before. -/
def Rich (prev : Option Char) (cs : List Char) : Prop :=
  (∃ c ∈ cs, c ∈ signs) ∨ ['/', '*', '*', '/'] <:+: prev.toList ++ cs

/-- Where a double star could change the part before it, that part stands for a character. -/
structure Ready (prev : Option Char) (r : Reading) : Prop where
  slash : prev = some '/' → ∃ t ts, r.inner.current = t :: ts ∧ 1 ≤ tokenBound t
  separator : prev = some ',' ∨ prev = some '{' →
    r.inner.current = [] ∨ ∃ t ts, r.inner.current = t :: ts ∧ 1 ≤ tokenBound t

/-- The first part of the whole glob, as far as it is read. -/
def firstPart? (r : Reading) : Option GlobToken :=
  ((r.inner :: r.outer).getLast (by simp)).current.getLast?

/-- A part of the pattern is read. -/
structure Advances (prev : Option Char) (r : Reading) (cs : List Char)
    (prev' : Option Char) (r' : Reading) (cs' : List Char) : Prop where
  shorter : cs'.length < cs.length
  ready : Ready prev' r'
  bound : readingBound r' + fixedLength cs' ≤ readingBound r + fixedLength cs
  rich : Rich prev cs → readingBound r' + fixedLength cs' < readingBound r + fixedLength cs ∨
    Rich prev' cs'
  first : firstPart? r = some .leadingDirs → firstPart? r' = some .leadingDirs

theorem dirs_prefix_iff : ['/', '*', '*', '/'] <+: prev.toList ++ '*' :: '*' :: rest ↔
    prev = some '/' ∧ rest.head? = some '/' := by
  cases prev with
  | none => simp [List.cons_prefix_cons]
  | some d => cases rest <;> simp [List.cons_prefix_cons, eq_comm]

/-- Behind stars that are not between two slashes the pattern is as rich as before. -/
theorem Rich.behind_stars (stars : List Char) (h : Rich prev (stars ++ cs))
    (hstars : ∀ c ∈ stars, c = '*')
    (hdirs : ¬ ['/', '*', '*', '/'] <+: prev.toList ++ (stars ++ cs)) : Rich (some '*') cs := by
  rcases h with ⟨c, hc, hsign⟩ | hoccurs
  · rcases List.mem_append.1 hc with hc | hc
    · exact absurd (hstars c hc ▸ hsign) (by decide)
    · exact Or.inl ⟨c, hc, hsign⟩
  · have hrest : ['/', '*', '*', '/'] <:+: stars ++ cs := by
      cases prev with
      | none => exact hoccurs
      | some d => exact (List.infix_cons_iff.1 hoccurs).resolve_left hdirs
    refine Or.inr (List.infix_cons_iff.2 (Or.inr ?_))
    clear hoccurs hdirs
    induction stars with
    | nil => exact hrest
    | cons c stars ih =>
        obtain ⟨rfl, hrests⟩ := List.forall_mem_cons.1 hstars
        refine ih hrests ((List.infix_cons_iff.1 hrest).resolve_left fun hbegins => ?_)
        simp [List.cons_prefix_cons] at hbegins

theorem firstPart?_push {t first : GlobToken} (h : firstPart? r = some first) :
    firstPart? (r.push t) = some first := by
  obtain ⟨⟨finished, current⟩, outer⟩ := r
  cases outer with
  | nil =>
      cases current with
      | nil => simp [firstPart?] at h
      | cons t' current => simpa [firstPart?, Reading.push] using h
  | cons frame outer => simpa [firstPart?, Reading.push] using h

theorem Rich.next (h : Rich prev (c :: cs)) (hstar : c ≠ '*') (hsign : c ∉ signs) :
    Rich (some c) cs := by
  rcases h with ⟨d, hd, hsign'⟩ | hdirs
  · rcases List.mem_cons.1 hd with rfl | hd
    · exact absurd hsign' hsign
    · exact Or.inl ⟨d, hd, hsign'⟩
  · refine Or.inr ?_
    cases prev with
    | none => exact hdirs
    | some d =>
        rcases List.infix_cons_iff.1 hdirs with hbegins | hdirs
        · simp [List.cons_prefix_cons, hstar.symm] at hbegins
        · exact hdirs

theorem ready_push {t : GlobToken} (ht : 1 ≤ tokenBound t) : Ready (some c) (r.push t) :=
  ⟨fun _ => ⟨t, _, rfl, ht⟩, fun _ => Or.inr ⟨t, _, rfl, ht⟩⟩

theorem ready_of_ne (hslash : c ≠ '/') (hcomma : c ≠ ',') (hbrace : c ≠ '{') (r : Reading) :
    Ready (some c) r := by
  constructor <;> simp [hslash, hcomma, hbrace]

theorem Advances.of_lt {prev' : Option Char} {r' : Reading} {cs' : List Char}
    (shorter : cs'.length < cs.length) (ready : Ready prev' r')
    (hlt : readingBound r' + fixedLength cs' < readingBound r + fixedLength cs)
    (first : firstPart? r = some .leadingDirs → firstPart? r' = some .leadingDirs) :
    Advances prev r cs prev' r' cs' :=
  ⟨shorter, ready, Nat.le_of_lt hlt, fun _ => Or.inl hlt, first⟩

theorem advances_char {t : GlobToken} (hstar : c ≠ '*') (hsign : c ∉ signs)
    (ht : tokenBound t = 1) : Advances prev r (c :: rest) (some c) (r.push t) rest where
  shorter := by simp
  ready := ready_push (Nat.le_of_eq ht.symm)
  bound := by
    rw [readingBound_push, fixedLength_cons, if_neg hstar, ht]
    omega
  rich h := Or.inr (h.next hstar hsign)
  first := firstPart?_push

theorem advances_star (hrest : rest.head? ≠ some '*') :
    Advances prev r ('*' :: rest) (some '*') (r.push .anyBytes) rest where
  shorter := by simp
  ready := ready_of_ne (by decide) (by decide) (by decide) _
  bound := by
    rw [readingBound_push, fixedLength_cons, tokenBound]
    simp
  rich h := Or.inr <| by
    refine h.behind_stars ['*'] (by simp) fun hdirs => hrest ?_
    cases prev with
    | none => simp [List.cons_prefix_cons] at hdirs
    | some d =>
        simp only [Option.toList_some, List.cons_append, List.nil_append, List.cons_prefix_cons,
          true_and] at hdirs
        obtain ⟨-, more, rfl⟩ := hdirs
        rfl
  first := firstPart?_push

theorem advances_class {negated : Bool} {ranges : List (Char × Char)} {more : List Char}
    (h : readClass (negation rest).2 [] true false = some (ranges, more)) :
    Advances prev r ('[' :: rest) (some ']') (r.push (.byteClass negated ranges)) more := by
  have hclass := fixedLength_readClass h
  have hnegation := fixedLength_negation rest
  have hlength := readClass_length h
  have hlength' := negation_length rest
  refine .of_lt ?_ (ready_of_ne (by decide) (by decide) (by decide) _) ?_ firstPart?_push
  · rw [List.length_cons]
    omega
  · rw [readingBound_push, fixedLength_cons, tokenBound, if_neg (by decide)]
    omega

/-- An escaped character, of which the backslash is not read. -/
theorem advances_escape :
    Advances prev r ('\\' :: c :: rest) (some c) (r.push (.literal c)) rest := by
  refine .of_lt ?_ ?_ ?_ firstPart?_push
  · simp only [List.length_cons]
    omega
  · by_cases hstar : c = '*'
    · subst hstar
      exact ready_of_ne (by decide) (by decide) (by decide) _
    · exact ready_push (by simp [tokenBound, hstar])
  · rw [readingBound_push, fixedLength_cons, fixedLength_cons, tokenBound,
      if_neg (show ¬ '\\' = '*' by decide)]
    omega

theorem advances_open : Advances prev r ('{' :: rest) (some '{') ⟨⟨[], []⟩, r.inner :: r.outer⟩
    rest := by
  refine .of_lt (by simp) ⟨by simp, fun _ => Or.inl rfl⟩ ?_ fun h => ?_
  · rw [fixedLength_cons, if_neg (by decide)]
    simp [readingBound, framesBound, frameBound, optionsBound, Glob.bound]
  · simpa [firstPart?] using h

theorem advances_close {frame : Frame} {outer : List Frame} (h : r.outer = frame :: outer) :
    Advances prev r ('}' :: rest) (some '}') (Reading.push ⟨frame, outer⟩
      (.alternatives (r.inner.current.reverse :: r.inner.finished).reverse)) rest := by
  refine .of_lt (by simp) (ready_of_ne (by decide) (by decide) (by decide) _) ?_ fun hfirst => ?_
  · rw [readingBound_push, fixedLength_cons, if_neg (by decide), tokenBound, optionsBound_reverse,
      optionsBound, bound_reverse]
    simp [readingBound, framesBound, frameBound, h]
    omega
  · exact firstPart?_push (by simpa [firstPart?, h] using hfirst)

theorem advances_separator (h : r.outer ≠ []) :
    Advances prev r (',' :: rest) (some ',')
      { r with inner := ⟨r.inner.current.reverse :: r.inner.finished, []⟩ } rest := by
  refine .of_lt (by simp) ⟨by simp, fun _ => Or.inl rfl⟩ ?_ fun hfirst => ?_
  · rw [fixedLength_cons, if_neg (by decide)]
    simp [readingBound, framesBound, frameBound, optionsBound, Glob.bound]
    omega
  · obtain ⟨frame, outer, hcons⟩ := List.exists_cons_of_ne_nil h
    simpa [firstPart?, hcons] using hfirst

/-- A reading with another last part. -/
def replaceLast (r : Reading) (t : GlobToken) : Reading :=
  { r with inner := { r.inner with current := t :: r.inner.current.tail } }

/-- What a double star makes of the part before it. -/
def dirsFor (isSuffix : Bool) : GlobToken → GlobToken
  | .leadingDirs => .leadingDirs
  | .trailingPath => .trailingPath
  | _ => if isSuffix then .trailingPath else .middleDirs

theorem tokenBound_dirsFor (isSuffix : Bool) (t : GlobToken) :
    tokenBound (dirsFor isSuffix t) = 1 := by
  unfold dirsFor
  grind [tokenBound]

/-- A double star that is not at the beginning stands for any bytes or changes the part before it,
which ends with a slash or with what begins an alternative. -/
theorem readDoubleStar_cons (prev : Option Char) (rest : List Char) {last : GlobToken}
    {others : List GlobToken} (h : r.inner.current = last :: others) :
    (readDoubleStar prev r rest = ⟨(r.push .anyBytes).push .anyBytes, rest, '*'⟩ ∧
        ¬ (prev = some '/' ∧ rest.head? = some '/')) ∨
      (prev = some '/' ∨ prev = some ',' ∨ prev = some '{') ∧
        ((rest.head? ≠ some '/' ∧ readDoubleStar prev r rest =
            ⟨replaceLast r (dirsFor true last), rest, '*'⟩) ∨
          ∃ more, rest = '/' :: more ∧ readDoubleStar prev r rest =
            ⟨replaceLast r (dirsFor false last), more, '/'⟩) := by
  obtain ⟨⟨finished, current⟩, outer⟩ := r
  subst h
  unfold readDoubleStar
  by_cases hplain : prev ≠ some '/' ∧
      ((!(!outer.isEmpty)) = true ∨ (prev ≠ some ',' ∧ prev ≠ some '{'))
  · refine Or.inl ⟨?_, fun h => hplain.1 h.1⟩
    simp only [List.isEmpty_cons, Bool.false_eq_true, if_false, if_pos hplain]
  · have hprev : prev = some '/' ∨ prev = some ',' ∨ prev = some '{' := by grind
    simp only [List.isEmpty_cons, Bool.false_eq_true, if_false, if_neg hplain]
    rcases rest with _ | ⟨c, rest⟩
    · exact Or.inr ⟨hprev, Or.inl ⟨by simp, rfl⟩⟩
    · by_cases hc : c = '/'
      · subst hc
        exact Or.inr ⟨hprev, Or.inr ⟨rest, rfl, rfl⟩⟩
      · have hslash : (c :: rest).head? ≠ some '/' := by simpa using hc
        by_cases hend : outer ≠ [] ∧ (c = ',' ∨ c = '}')
        · refine Or.inr ⟨hprev, Or.inl ⟨hslash, ?_⟩⟩
          simp only [List.isEmpty_eq_false_iff.2 hend.1, Bool.not_false, Bool.true_and,
            Bool.or_eq_true, decide_eq_true_eq, if_pos hend.2]
          rfl
        · refine Or.inl ⟨?_, fun h => hslash h.2⟩
          have hend' : ¬ (!outer.isEmpty && (decide (c = ',') || decide (c = '}'))) = true := by
            simpa using hend
          simp only [if_neg hend']

/-- A double star that begins a glob or an alternative stands for any bytes or, before a slash, for
components of a path. -/
theorem readDoubleStar_nil (prev : Option Char) (h : r.inner.current = []) (hne : rest ≠ []) :
    (readDoubleStar prev r rest = ⟨(r.push .anyBytes).push .anyBytes, rest, '*'⟩ ∧
        rest.head? ≠ some '/') ∨
      ∃ more, rest = '/' :: more ∧
        readDoubleStar prev r rest = ⟨r.push .leadingDirs, more, '/'⟩ := by
  obtain ⟨⟨finished, current⟩, outer⟩ := r
  subst h
  obtain ⟨c, rest, rfl⟩ := List.exists_cons_of_ne_nil hne
  by_cases hc : c = '/'
  · subst hc
    exact Or.inr ⟨rest, rfl, rfl⟩
  · refine Or.inl ⟨?_, by simpa using hc⟩
    simp [readDoubleStar, hc]

theorem advances_plainStars
    (hdirs : ¬ (prev = some '/' ∧ rest.head? = some '/')) :
    Advances prev r ('*' :: '*' :: rest) (some '*') ((r.push .anyBytes).push .anyBytes) rest where
  shorter := by
    simp only [List.length_cons]
    omega
  ready := ready_of_ne (by decide) (by decide) (by decide) _
  bound := by
    simp [fixedLength_cons, tokenBound]
  rich h := Or.inr (h.behind_stars ['*', '*'] (by simp) (hdirs ∘ dirs_prefix_iff.1))
  first h := firstPart?_push (firstPart?_push h)

theorem advances_leadingDirs {more : List Char} (hready : Ready prev r)
    (h : r.inner.current = []) :
    Advances prev r ('*' :: '*' :: '/' :: more) (some '/') (r.push .leadingDirs) more where
  shorter := by
    simp only [List.length_cons]
    omega
  ready := ready_push (Nat.le_refl 1)
  bound := by
    rw [readingBound_push, tokenBound]
    simp [fixedLength_cons]
    omega
  rich hrich := Or.inr <| by
    refine Rich.next (hrich.behind_stars ['*', '*'] (by simp) fun hbegins => ?_)
      (by decide) (by decide)
    obtain ⟨t, ts, hcons, -⟩ := hready.slash (dirs_prefix_iff.1 hbegins).1
    rw [h] at hcons
    cases hcons
  first := firstPart?_push

section Replacing

variable {last : GlobToken} {others : List GlobToken}

theorem readingBound_replaceLast (h : r.inner.current = last :: others) (t : GlobToken) :
    readingBound (replaceLast r t) + tokenBound last = readingBound r + tokenBound t := by
  simp [readingBound, framesBound, frameBound, replaceLast, h, Glob.bound]
  omega

theorem firstPart?_replaceLast (h : r.inner.current = last :: others) (isSuffix : Bool)
    (hfirst : firstPart? r = some .leadingDirs) :
    firstPart? (replaceLast r (dirsFor isSuffix last)) = some .leadingDirs := by
  obtain ⟨⟨finished, current⟩, outer⟩ := r
  subst h
  cases outer with
  | cons frame outer => simpa [firstPart?, replaceLast] using hfirst
  | nil =>
      cases others with
      | cons t others => simpa [firstPart?, replaceLast] using hfirst
      | nil =>
          obtain rfl : last = .leadingDirs := by simpa [firstPart?] using hfirst
          rfl

theorem Ready.one_le (hready : Ready prev r) (h : r.inner.current = last :: others)
    (hprev : prev = some '/' ∨ prev = some ',' ∨ prev = some '{') : 1 ≤ tokenBound last := by
  have hlast : (∃ t ts, r.inner.current = t :: ts ∧ 1 ≤ tokenBound t) := by
    rcases hprev with hslash | hseparator
    · exact hready.slash hslash
    · exact (hready.separator hseparator).resolve_left (by simp [h])
  obtain ⟨t, ts, hcons, ht⟩ := hlast
  rw [h] at hcons
  exact (List.cons.inj hcons).1 ▸ ht

theorem advances_suffix (hlast : 1 ≤ tokenBound last) (h : r.inner.current = last :: others)
    (hhead : rest.head? ≠ some '/') : Advances prev r ('*' :: '*' :: rest) (some '*')
      (replaceLast r (dirsFor true last)) rest where
  shorter := by
    simp only [List.length_cons]
    omega
  ready := ready_of_ne (by decide) (by decide) (by decide) _
  bound := by
    have hbound := readingBound_replaceLast h (dirsFor true last)
    rw [tokenBound_dirsFor] at hbound
    simp [fixedLength_cons]
    omega
  rich hrich := Or.inr (hrich.behind_stars ['*', '*'] (by simp) fun hbegins =>
    hhead (dirs_prefix_iff.1 hbegins).2)
  first := firstPart?_replaceLast h true

theorem advances_middle {more : List Char} (hlast : 1 ≤ tokenBound last)
    (h : r.inner.current = last :: others) : Advances prev r ('*' :: '*' :: '/' :: more) (some '/')
      (replaceLast r (dirsFor false last)) more := by
  have hbound := readingBound_replaceLast h (dirsFor false last)
  have hone := tokenBound_dirsFor false last
  have hle := Nat.le_of_eq hone.symm
  refine .of_lt ?_ ⟨fun _ => ⟨_, _, rfl, hle⟩, fun _ => Or.inr ⟨_, _, rfl, hle⟩⟩ ?_
    (firstPart?_replaceLast h false)
  · simp only [List.length_cons]
    omega
  · simp [fixedLength_cons]
    omega

end Replacing

/-- A double star is read. -/
theorem advances_stars (hready : Ready prev r) (hne : r.inner.current ≠ [] ∨ rest ≠ []) :
    Advances prev r ('*' :: '*' :: rest) (some (readDoubleStar prev r rest).last)
      (readDoubleStar prev r rest).reading (readDoubleStar prev r rest).rest := by
  cases hcurrent : r.inner.current with
  | nil =>
      rcases readDoubleStar_nil prev hcurrent (hne.resolve_left (absurd hcurrent)) with
        ⟨heq, hhead⟩ | ⟨more, rfl, heq⟩
      · rw [heq]
        exact advances_plainStars fun h => hhead h.2
      · rw [heq]
        exact advances_leadingDirs hready hcurrent
  | cons last others =>
      rcases readDoubleStar_cons prev rest hcurrent with
        ⟨heq, hdirs⟩ | ⟨hprev, ⟨hhead, heq⟩ | ⟨more, rfl, heq⟩⟩
      · rw [heq]
        exact advances_plainStars hdirs
      · rw [heq]
        exact advances_suffix (hready.one_le hcurrent hprev) hcurrent hhead
      · rw [heq]
        exact advances_middle (hready.one_le hcurrent hprev) hcurrent

/-- Reading ends at the end of the pattern, with a lone double star, or it goes on. -/
theorem readParts_cases (hready : Ready prev r) (h : readParts prev r cs = some ts) :
    (cs = [] ∧ r.outer = [] ∧ ts = r.inner.current.reverse) ∨ ts = [.leadingDirs] ∨
      ∃ prev' r' cs', Advances prev r cs prev' r' cs' ∧ readParts prev' r' cs' = some ts := by
  rw [readParts.eq_def] at h
  split at h
  · -- the end of the pattern
    split at h
    · rename_i hclosed
      exact Or.inl ⟨rfl, List.isEmpty_iff.1 hclosed, (Option.some.inj h).symm⟩
    · cases h
  · -- a question mark
    exact Or.inr (Or.inr ⟨_, _, _, advances_char (by decide) (by decide) rfl, h⟩)
  · -- a double star
    rename_i rest
    by_cases hlone : r.inner.current = [] ∧ rest = []
    · obtain ⟨hcurrent, rfl⟩ := hlone
      simp only [readDoubleStar, hcurrent, List.isEmpty_nil, if_true, readParts, Reading.push] at h
      split at h
      · exact Or.inr (Or.inl (Option.some.inj h).symm)
      · cases h
    · exact Or.inr (Or.inr ⟨_, _, _, advances_stars hready (by grind), h⟩)
  · -- a star
    rename_i rest hstar
    refine Or.inr (Or.inr ⟨_, _, _, advances_star fun hhead => ?_, h⟩)
    obtain ⟨more, rfl⟩ := List.head?_eq_some_iff.1 hhead
    exact hstar more rfl
  · -- a class
    split at h
    · rename_i hclass
      exact Or.inr (Or.inr ⟨_, _, _, advances_class hclass, h⟩)
    · cases h
  · exact Or.inr (Or.inr ⟨_, _, _, advances_open, h⟩)
  · split at h
    · cases h
    · rename_i houter
      exact Or.inr (Or.inr ⟨_, _, _, advances_close houter, h⟩)
  · split at h
    · exact Or.inr (Or.inr ⟨_, _, _, advances_char (by decide) (by decide) rfl, h⟩)
    · rename_i hopen
      exact Or.inr (Or.inr ⟨_, _, _, advances_separator (by simpa using hopen), h⟩)
  · exact Or.inr (Or.inr ⟨_, _, _, advances_escape, h⟩)
  · cases h
  · rename_i c rest _ _ _ _ _ _ _ _ _
    have hstar : c ≠ '*' := by grind
    have hsign : c ∉ signs := by
      simp only [signs, List.mem_cons, List.not_mem_nil, or_false]
      cases rest <;> grind
    exact Or.inr (Or.inr ⟨_, _, _, advances_char hstar hsign (by simp [tokenBound, hstar]), h⟩)

/-- The bound of a glob is at most the size of its pattern, and less if this is rich. A glob that
begins with components of a path does so as soon as this is read. -/
theorem readParts_bound {prev : Option Char} {r : Reading} {cs : List Char}
    (hready : Ready prev r) (h : readParts prev r cs = some ts) :
    ts = [.leadingDirs] ∨ bound ts ≤ readingBound r + fixedLength cs ∧
      (Rich prev cs → bound ts < readingBound r + fixedLength cs) ∧
      (firstPart? r = some .leadingDirs → ts.head? = some .leadingDirs) := by
  rcases readParts_cases hready h with
    ⟨rfl, houter, rfl⟩ | hlone | ⟨prev', r', cs', hadvances, hrest⟩
  · right
    refine ⟨?_, fun hrich => ?_, fun hfirst => ?_⟩
    · rw [bound_reverse, readingBound, framesBound, frameBound]
      omega
    · exfalso
      rcases hrich with ⟨c, hc, -⟩ | hdirs
      · cases hc
      · have hlength := hdirs.length_le
        cases prev <;> simp at hlength
    · simpa [firstPart?, houter] using hfirst
  · exact Or.inl hlone
  · have hshorter := hadvances.shorter
    refine (readParts_bound hadvances.ready hrest).imp_right fun ⟨hbound, hrich, hfirst⟩ => ?_
    have hle := hadvances.bound
    refine ⟨by omega, fun hr => ?_, fun hf => hfirst (hadvances.first hf)⟩
    rcases hadvances.rich hr with hlt | hr
    · omega
    · have hlt := hrich hr
      omega
termination_by cs.length

end Steps

section Patterns

variable {p : List Char} {ts : List GlobToken}

theorem plain_of_fixedLength_eq_zero (h : fixedLength p = 0) : Plain p := by
  have hstars : ∀ c ∈ p, c = '*' := by simpa [fixedLength] using h
  have hslash : '/' ∉ p := fun hmem => absurd (hstars _ hmem) (by decide)
  refine ⟨fun c hc => hstars c hc ▸ by decide, fun hdirs => hslash ?_, fun hdirs => hslash ?_⟩
  · exact hdirs.subset (by simp)
  · exact hdirs.subset (by simp)

theorem rich_of_not_plain (h : ¬ Plain p) (hdirs : ¬ ['*', '*', '/'] <+: p) : Rich none p := by
  by_contra hrich
  simp only [Rich, not_or, not_exists, not_and] at hrich
  exact h ⟨hrich.1, hdirs, hrich.2⟩

theorem ready_start : Ready none (topLevel []) := by
  constructor <;> simp

/-- A glob whose pattern is not plain matches a text that is shorter than what the pattern is
spelled out to, if it matches some text without stars. -/
theorem exists_shorter_of_not_plain (hplain : ¬ Plain p)
    (h : readParts none (topLevel []) p = some ts) (hlone : ts ≠ [.leadingDirs]) {v : List Char}
    (hreads : Reads ts (Text.utf8 v)) (hv : '*' ∉ v) :
    ∃ v', Reads ts (Text.utf8 v') ∧ v'.length < fixedLength p := by
  have hstart : readingBound (topLevel []) = 0 := rfl
  by_cases hdirs : ['*', '*', '/'] <+: p
  · obtain ⟨q, rfl⟩ := hdirs
    have hq : readParts (some '/') (topLevel [.leadingDirs]) q = some ts :=
      readParts_stars.symm.trans h
    have hready : Ready (some '/') (topLevel [.leadingDirs]) :=
      ready_push (r := topLevel []) (Nat.le_refl 1)
    obtain ⟨hbound, -, hfirst⟩ := (readParts_bound hready hq).resolve_left hlone
    obtain ⟨rest, rfl⟩ := List.head?_eq_some_iff.1 (hfirst rfl)
    obtain ⟨v', hv', hlen⟩ := hreads.exists_short_of_leadingDirs hv
    have hone : readingBound (topLevel [.leadingDirs]) = 1 := rfl
    have hfixed : fixedLength (['*', '*', '/'] ++ q) = 1 + fixedLength q := fixedLength_append _ q
    rw [bound, tokenBound] at hbound
    exact ⟨v', hv', by omega⟩
  · obtain ⟨-, hbound, -⟩ := (readParts_bound ready_start h).resolve_left hlone
    have hlt := hbound (rich_of_not_plain hplain hdirs)
    obtain ⟨v', hv', hlen⟩ := hreads.exists_short hv
    exact ⟨v', hv', by omega⟩

end Patterns

end EndpointMonitor.Pattern.Glob
