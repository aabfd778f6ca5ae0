import EndpointMonitor.Proofs.Pattern.Spelling

/-!
# Question marks that stand for bytes

A pattern that is spelled out byte by byte has the values that it has character by character if its
runs of wildcards cannot tell: a run may hold one question mark, and it needs a star beside it. On
texts with one byte for each character there is no difference.
-/

namespace EndpointMonitor.Pattern

open Text

variable {p run v : List Char} {c : Char}

section Runs

theorem spellsBytes_run_append_iff (hc : isWildcard c = false) :
    SpellsBytes (run ++ c :: p) (utf8 v) ↔
      ∃ x y, v = x ++ c :: y ∧ SpellsBytes run (utf8 x) ∧ SpellsBytes p (utf8 y) := by
  refine (spells_run_append_iff hc).trans ⟨?_, ?_⟩
  · rintro ⟨u, w, h, hrun, hp⟩
    obtain ⟨x, y, rfl, rfl, rfl⟩ := utf8_eq_append_encoded h
    exact ⟨x, y, rfl, hrun, hp⟩
  · rintro ⟨x, y, rfl, hrun, hp⟩
    exact ⟨utf8 x, utf8 y, by simp, hrun, hp⟩

/-- The values of a pattern are cut at each character that is no wildcard. -/
def CutsAtLiterals (values : List Char → List Char → Prop) : Prop :=
  ∀ ⦃run c p v⦄, isWildcard c = false →
    (values (run ++ c :: p) v ↔ ∃ x y, v = x ++ c :: y ∧ values run x ∧ values p y)

theorem cutsAtLiterals_chars : CutsAtLiterals SpellsChars :=
  fun _ _ _ _ hc => spells_run_append_iff hc

/-- The characters between the runs have their own bytes. -/
theorem cutsAtLiterals_bytes : CutsAtLiterals fun p v => SpellsBytes p (utf8 v) :=
  fun _ _ _ _ hc => spellsBytes_run_append_iff hc

/-- What holds of all runs of a pattern holds of the pattern. -/
theorem CutsAtLiterals.of_runs {R S : List Char → List Char → Prop} (hR : CutsAtLiterals R)
    (hS : CutsAtLiterals S) (h : ∀ run ∈ runs p, ∀ x, x ⊆ v → R run x → S run x) (hv : R p v) :
    S p v := by
  induction p using runs_induction generalizing v with
  | last run hrun =>
      rw [runs_of_wildcards hrun] at h
      exact h run (by simp) v (List.Subset.refl v) hv
  | next run c p hrun hc ih =>
      rw [runs_append hrun hc] at h
      obtain ⟨x, y, rfl, hx, hy⟩ := (hR hc).1 hv
      refine (hS hc).2 ⟨x, y, rfl, h run (by simp) x (by simp) hx, ?_⟩
      exact ih (fun r hr z hz => h r (by simp [hr]) z (by grind)) hy

theorem wildcard_of_mem_runs (hrun : run ∈ runs p) : ∀ c ∈ run, isWildcard c = true := by
  induction p using runs_induction with
  | last run' hrun' =>
      rw [runs_of_wildcards hrun', List.mem_singleton] at hrun
      exact hrun ▸ hrun'
  | next run' c p hrun' hc ih =>
      rw [runs_append hrun' hc] at hrun
      rcases List.mem_cons.1 hrun with rfl | hrun
      · exact hrun'
      · exact ih hrun

/-- A pattern without wildcards is spelled out to itself. -/
theorem spellsChars_iff_of_literals (h : ∀ c ∈ p, isWildcard c = false) :
    SpellsChars p v ↔ v = p := by
  induction p generalizing v with
  | nil => exact spells_nil_iff
  | cons c p ih =>
      obtain ⟨hc, hp⟩ := List.forall_mem_cons.1 h
      refine (spells_literal_iff hc).trans ?_
      simp only [List.singleton_append]
      constructor
      · rintro ⟨w, rfl, hw⟩
        rw [(ih hp).1 hw]
      · rintro rfl
        exact ⟨p, rfl, (ih hp).2 rfl⟩

end Runs

section Values

/-- Byte by byte a run with one question mark has no values but those that it has character by
character. -/
theorem SpellsBytes.chars (h : ∀ run ∈ runs p, run.count '?' ≤ 1) (hv : SpellsBytes p (utf8 v)) :
    SpellsChars p v := by
  refine cutsAtLiterals_bytes.of_runs cutsAtLiterals_chars (fun run hrun x _ hx => ?_) hv
  have hwild := wildcard_of_mem_runs hrun
  have hcount := h run hrun
  have hlength := length_le_length_utf8 x
  obtain ⟨hle, hstar⟩ := (spells_run_iff hwild).1 hx
  cases x with
  | nil => exact (spells_run_iff hwild).2 ⟨hle, hstar⟩
  | cons c x =>
      rw [List.length_cons] at hlength
      exact (spells_run_iff hwild).2 ⟨by simp; omega, hstar.imp_right fun _ => by simp; omega⟩

/-- Byte by byte a run with a star beside its question marks has all the values that it has
character by character. -/
theorem SpellsChars.bytes (h : ∀ run ∈ runs p, '?' ∈ run → '*' ∈ run) (hv : SpellsChars p v) :
    SpellsBytes p (utf8 v) := by
  refine cutsAtLiterals_chars.of_runs cutsAtLiterals_bytes (fun run hrun x _ hx => ?_) hv
  have hwild := wildcard_of_mem_runs hrun
  have hlength := length_le_length_utf8 x
  obtain ⟨hle, hstar⟩ := (spells_run_iff hwild).1 hx
  refine (spells_run_iff hwild).2 ⟨Nat.le_trans hle hlength, ?_⟩
  by_cases hmark : '?' ∈ run
  · exact Or.inl (h run hrun hmark)
  · rw [List.count_eq_zero_of_not_mem hmark] at hstar ⊢
    exact hstar.imp_right fun hx => by rw [List.eq_nil_of_length_eq_zero hx, utf8_nil]; rfl

theorem spellsBytes_iff_of_isAscii (hv : ∀ c ∈ v, IsAscii c) :
    SpellsBytes p (utf8 v) ↔ SpellsChars p v := by
  have hruns : ∀ run ∈ runs p, ∀ x, x ⊆ v → (SpellsBytes run (utf8 x) ↔ SpellsChars run x) := by
    intro run hrun x hx
    have hwild := wildcard_of_mem_runs hrun
    refine (spells_run_iff hwild).trans (Iff.trans ?_ (spells_run_iff hwild).symm)
    rw [length_utf8_of_isAscii fun c hc => hv c (hx hc)]
  exact ⟨cutsAtLiterals_bytes.of_runs cutsAtLiterals_chars fun run hrun x hx =>
      (hruns run hrun x hx).1,
    cutsAtLiterals_chars.of_runs cutsAtLiterals_bytes fun run hrun x hx => (hruns run hrun x hx).2⟩

end Values

section Counting

variable {fill : Char}

/-- The number of characters of a pattern that stand for one character each. -/
def fixedLength (p : List Char) : Nat :=
  p.countP (· != '*')

/-- A pattern without its stars, and with a character for its question marks. -/
def filled (fill : Char) (p : List Char) : List Char :=
  (p.filter (· != '*')).map fun c => if c = '?' then fill else c

theorem length_filled (fill : Char) (p : List Char) : (filled fill p).length = fixedLength p := by
  rw [filled, List.length_map, fixedLength, List.countP_eq_length_filter]

theorem isWildcard_of_mem_filled (hfill : isWildcard fill = false) (hc : c ∈ filled fill p) :
    isWildcard c = false := by
  obtain ⟨d, hd, rfl⟩ := List.mem_map.1 hc
  split
  · exact hfill
  · rename_i hmark
    simpa [isWildcard, hmark] using (List.mem_filter.1 hd).2

theorem filled_append (fill : Char) (p q : List Char) :
    filled fill (p ++ q) = filled fill p ++ filled fill q := by
  simp [filled]

theorem filled_cons_literal (hc : isWildcard c = false) :
    filled fill (c :: p) = c :: filled fill p := by
  simp only [isWildcard, Bool.or_eq_false_iff, beq_eq_false_iff_ne] at hc
  simp [filled, hc.1, hc.2]

theorem filled_run (hrun : ∀ c ∈ run, isWildcard c = true) :
    filled fill run = List.replicate (run.count '?') fill := by
  induction run with
  | nil => rfl
  | cons c run ih =>
      obtain ⟨hc, hrest⟩ := List.forall_mem_cons.1 hrun
      obtain rfl | rfl : c = '*' ∨ c = '?' := by simpa [isWildcard] using hc
      · simpa [filled] using ih hrest
      · simpa [filled, List.replicate_succ] using ih hrest

theorem fixedLength_run (hrun : ∀ c ∈ run, isWildcard c = true) :
    fixedLength run = run.count '?' := by
  rw [← length_filled 'a', filled_run hrun, List.length_replicate]

/-- A pattern is spelled out by leaving out its stars and by putting in one character for every
question mark, provided that this is spelled by one symbol. -/
theorem spells_filled {σ : Type} {spell : Char → List σ} (hfill : (spell fill).length = 1)
    (p : List Char) : Spells spell p ((filled fill p).flatMap spell) := by
  induction p with
  | nil => exact spells_nil_iff.2 rfl
  | cons c p ih =>
      by_cases hstar : c = '*'
      · exact spells_cons_iff.2 ⟨[], _, by simp [filled, hstar], by simp [StandsFor, hstar], ih⟩
      · refine spells_cons_iff.2 ⟨spell (if c = '?' then fill else c), _, ?_, ?_, ih⟩
        · simp [filled, hstar]
        · rw [StandsFor, if_neg hstar]
          split <;> simp [*]

theorem spellsChars_filled (fill : Char) (p : List Char) : SpellsChars p (filled fill p) := by
  have h : SpellsChars p ((filled fill p).flatMap fun c => [c]) := spells_filled rfl p
  rwa [List.flatMap_singleton'] at h

theorem spellsBytes_filled (hfill : IsAscii fill) (p : List Char) :
    SpellsBytes p (utf8 (filled fill p)) :=
  spells_filled (isAscii_iff_length.1 hfill) p

theorem fixedLength_append (p q : List Char) :
    fixedLength (p ++ q) = fixedLength p + fixedLength q :=
  List.countP_append

theorem fixedLength_cons (c : Char) (p : List Char) :
    fixedLength (c :: p) = (if c = '*' then 0 else 1) + fixedLength p := by
  by_cases hc : c = '*' <;> simp [fixedLength, hc, Nat.add_comm]

/-- Every value of a pattern has a character for each character that is no star. -/
theorem SpellsChars.fixedLength_le (hv : SpellsChars p v) : fixedLength p ≤ v.length := by
  induction p generalizing v with
  | nil => simp [fixedLength]
  | cons c p ih =>
      obtain ⟨u, w, rfl, hu, hw⟩ := spells_cons_iff.1 hv
      have hrest := ih hw
      rw [fixedLength_cons, List.length_append]
      unfold StandsFor at hu
      split at hu
      · rename_i hstar
        rw [if_pos hstar]
        omega
      · rename_i hstar
        have hone : u.length = 1 := by
          split at hu
          · exact hu
          · rw [hu, List.length_singleton]
        rw [if_neg hstar]
        omega

end Counting

section Differences

theorem exists_short_of_run (hrun : ∀ c ∈ run, isWildcard c = true) (h : 2 ≤ run.count '?') :
    ∃ x, SpellsBytes run (utf8 x) ∧ x.length < run.count '?' := by
  have hrest : (utf8 (List.replicate (run.count '?' - 2) 'a')).length = run.count '?' - 2 := by
    rw [length_utf8_of_isAscii fun c hc => (List.mem_replicate.1 hc).2 ▸ by decide,
      List.length_replicate]
  have hlength : (utf8 ('é' :: List.replicate (run.count '?' - 2) 'a')).length =
      run.count '?' := by
    rw [utf8_cons, List.length_append, hrest, show (String.utf8EncodeChar 'é').length = 2 by decide]
    omega
  refine ⟨'é' :: List.replicate (run.count '?' - 2) 'a',
    (spells_run_iff hrun).2 ⟨by omega, Or.inr hlength⟩, ?_⟩
  rw [List.length_cons, List.length_replicate]
  omega

/-- Two question marks in a run take the two bytes of one character. -/
theorem exists_short_of_two_marks (h : ∃ run ∈ runs p, 2 ≤ run.count '?') :
    ∃ v, SpellsBytes p (utf8 v) ∧ v.length < fixedLength p := by
  obtain ⟨r, hr, htwo⟩ := h
  induction p using runs_induction with
  | last run hrun =>
      rw [runs_of_wildcards hrun, List.mem_singleton] at hr
      rw [fixedLength_run hrun]
      exact exists_short_of_run hrun (hr ▸ htwo)
  | next run c p hrun hc ih =>
      have hfill : IsAscii 'a' := by decide
      have hstar : c ≠ '*' := by
        rintro rfl
        exact absurd hc (by decide)
      rw [fixedLength_append, fixedLength_cons, if_neg hstar, fixedLength_run hrun]
      rw [runs_append hrun hc] at hr
      rcases List.mem_cons.1 hr with rfl | hr
      · obtain ⟨x, hx, hlt⟩ := exists_short_of_run hrun htwo
        refine ⟨x ++ c :: filled 'a' p, (spellsBytes_run_append_iff hc).2
          ⟨x, filled 'a' p, rfl, hx, spellsBytes_filled hfill p⟩, ?_⟩
        rw [List.length_append, List.length_cons, length_filled]
        omega
      · obtain ⟨y, hy, hlt⟩ := ih hr
        refine ⟨filled 'a' run ++ c :: y, (spellsBytes_run_append_iff hc).2
          ⟨filled 'a' run, y, rfl, spellsBytes_filled hfill run, hy⟩, ?_⟩
        rw [List.length_append, List.length_cons, length_filled, fixedLength_run hrun]
        omega

theorem not_spellsBytes_of_lone_run (hrun : ∀ c ∈ run, isWildcard c = true)
    (hmark : '?' ∈ run) (hstar : '*' ∉ run) : ¬ SpellsBytes run (utf8 (filled 'é' run)) := by
  intro h
  have hcount := List.count_pos_iff.2 hmark
  have hlength := ((spells_run_iff hrun).1 h).2.resolve_left hstar
  rw [filled_run hrun, utf8, List.length_flatMap, List.map_replicate, List.sum_replicate_nat,
    show (String.utf8EncodeChar 'é').length = 2 by decide] at hlength
  omega

/-- A question mark without a star does not take both bytes of one character. -/
theorem not_spellsBytes_of_lone_mark (hone : ∀ run ∈ runs p, run.count '?' ≤ 1)
    (h : ∃ run ∈ runs p, '?' ∈ run ∧ '*' ∉ run) : ¬ SpellsBytes p (utf8 (filled 'é' p)) := by
  obtain ⟨r, hr, hmark, hstar⟩ := h
  induction p using runs_induction with
  | last run hrun =>
      rw [runs_of_wildcards hrun, List.mem_singleton] at hr
      exact not_spellsBytes_of_lone_run hrun (hr ▸ hmark) (hr ▸ hstar)
  | next run c p hrun hc ih =>
      rw [runs_append hrun hc] at hr hone
      rw [filled_append, filled_cons_literal hc, spellsBytes_run_append_iff hc]
      rintro ⟨x, y, heq, hx, hy⟩
      -- Both sides have at least as many characters as they need, so the cut is where the run ends.
      have hxlen := (SpellsBytes.chars (p := run) (by
        rw [runs_of_wildcards hrun]
        exact fun r hr => List.mem_singleton.1 hr ▸ hone run (by simp)) hx).fixedLength_le
      have hylen := (SpellsBytes.chars (fun r hr => hone r (by simp [hr])) hy).fixedLength_le
      have hlen := congrArg List.length heq
      simp only [List.length_append, List.length_cons, length_filled] at hlen
      obtain ⟨rfl, hrest⟩ := List.append_inj heq (by rw [length_filled]; omega)
      obtain ⟨-, rfl⟩ := List.cons.inj hrest
      rcases List.mem_cons.1 hr with rfl | hr
      · exact not_spellsBytes_of_lone_run hrun hmark hstar hx
      · exact ih (fun r hr => hone r (by simp [hr])) hr hy

end Differences

end EndpointMonitor.Pattern
