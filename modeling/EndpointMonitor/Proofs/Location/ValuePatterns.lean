import EndpointMonitor.Location.ObjectName
import EndpointMonitor.Proofs.Pattern.GlobSize

/-!
# Patterns for domains and values

A pattern for the parts of object names is given to the globs as it is. It means the same there
exactly if it has nothing that means more in a glob than in an object name, and if no run of its
wildcards can tell a character from a byte.
-/

namespace EndpointMonitor.ObjectName

open Pattern Glob Text

variable {p v : String}

/-- The glob of a pattern has the meaning of the pattern: there are no other signs, a run of
wildcards has a star beside a question mark, and it has one question mark at most. -/
structure GlobSafe (p : List Char) : Prop extends Plain p where
  starred : ∀ run ∈ runs p, '?' ∈ run → '*' ∈ run
  single : ∀ run ∈ runs p, run.count '?' ≤ 1

theorem allows_iff_of_not_isWild (hwild : isWild p = false) : allows p v = true ↔ p = v := by
  simp [allows, hwild]

/-- A pattern that is no well-formed glob allows itself. -/
theorem allows_iff_of_malformed (hwild : isWild p = true)
    (h : readParts none (topLevel []) p.toList = none) : allows p v = true ↔ p = v := by
  have hcompile : compile p = none := by
    rw [compile]
    exact Option.map_eq_none_iff.2 h
  simp [allows, hwild, hcompile]

theorem allows_iff_of_parts (hwild : isWild p = true) {ts : List GlobToken}
    (h : readParts none (topLevel []) p.toList = some ts) :
    allows p v = true ↔ ts = [.leadingDirs] ∨ Reads ts (utf8 v.toList) := by
  have hcompile : compile p = some (expr ts) := by
    rw [compile]
    exact Option.map_eq_some_iff.2 ⟨ts, h, rfl⟩
  rw [allows, if_pos hwild, hcompile]
  exact isMatch_iff ts v

/-- A pattern without other signs than its wildcards is matched byte by byte. -/
theorem allows_iff_spellsBytes (hwild : isWild p = true) (hplain : Plain p.toList) :
    allows p v = true ↔ SpellsBytes p.toList (utf8 v.toList) := by
  obtain ⟨ts, hts, hreads⟩ := exists_readParts [] hplain
  exact (allows_iff_of_parts hwild hts).trans (hreads _)

theorem spellsValue_iff_of_not_isWild (hwild : isWild p = false) : SpellsValue p v ↔ p = v := by
  have hliterals : ∀ c ∈ p.toList, isWildcard c = false := by
    simpa [isWild, isWildcard] using hwild
  refine (spellsChars_iff_of_literals hliterals).trans ?_
  rw [String.toList_inj, eq_comm]

theorem allows_iff_of_isAscii (hplain : isWild p = true → Plain p.toList)
    (hv : ∀ c ∈ v.toList, IsAscii c) : allows p v = true ↔ SpellsValue p v := by
  cases hwild : isWild p with
  | false => rw [allows_iff_of_not_isWild hwild, spellsValue_iff_of_not_isWild hwild]
  | true =>
      exact (allows_iff_spellsBytes hwild (hplain hwild)).trans (spellsBytes_iff_of_isAscii hv)

theorem GlobSafe.allows_iff (h : isWild p = true → GlobSafe p.toList) :
    allows p v = true ↔ SpellsValue p v := by
  cases hwild : isWild p with
  | false => rw [allows_iff_of_not_isWild hwild, spellsValue_iff_of_not_isWild hwild]
  | true =>
      have hp := h hwild
      exact (allows_iff_spellsBytes hwild hp.toPlain).trans
        ⟨SpellsBytes.chars hp.single, SpellsChars.bytes hp.starred⟩

section Necessity

/-- The pattern is given the meaning that it has in an object name. -/
def Agrees (p : String) : Prop :=
  ∀ v, allows p v = true ↔ SpellsValue p v

theorem Agrees.spelled (h : Agrees p) {v : List Char} :
    allows p (String.ofList v) = true ↔ SpellsChars p.toList v := by
  rw [h, SpellsValue, String.toList_ofList]

/-- A pattern that agrees is a well-formed glob, as it does not just allow itself. -/
theorem Agrees.exists_parts (h : Agrees p) (hwild : isWild p = true) :
    ∃ ts, readParts none (topLevel []) p.toList = some ts := by
  by_contra hnone
  have hmalformed := Option.eq_none_iff_forall_ne_some.2 fun ts hts => hnone ⟨ts, hts⟩
  have hitself := (allows_iff_of_malformed hwild hmalformed).1
    (h.spelled.2 (spellsChars_filled 'a' p.toList))
  obtain ⟨c, hc, hcwild⟩ : ∃ c ∈ p.toList, isWildcard c = true := by
    simpa [isWild, isWildcard] using hwild
  rw [hitself, String.toList_ofList] at hc
  rw [isWildcard_of_mem_filled (by decide) hc] at hcwild
  cases hcwild

/-- What a pattern that agrees allows has a character for each of its characters but the stars. -/
theorem Agrees.fixedLength_le (h : Agrees p) {v : List Char}
    (hv : allows p (String.ofList v) = true) : fixedLength p.toList ≤ v.length :=
  (h.spelled.1 hv).fixedLength_le

theorem Agrees.plain (h : Agrees p) (hwild : isWild p = true) : Plain p.toList := by
  obtain ⟨ts, hts⟩ := h.exists_parts hwild
  have allows_iff : ∀ v : List Char, allows p (String.ofList v) = true ↔
      ts = [.leadingDirs] ∨ Reads ts (utf8 v) := fun v => by
    rw [allows_iff_of_parts hwild hts, String.toList_ofList]
  by_contra hplain
  by_cases hlone : ts = [.leadingDirs]
  · -- The glob matches the empty text, which only stars are spelled out to.
    have hzero := h.fixedLength_le ((allows_iff []).2 (Or.inl hlone))
    exact hplain (plain_of_fixedLength_eq_zero (Nat.le_zero.1 hzero))
  · have hfilled := (allows_iff _).1 (h.spelled.2 (spellsChars_filled 'a' p.toList))
    have hstar : '*' ∉ filled 'a' p.toList := fun hmem =>
      absurd (isWildcard_of_mem_filled (by decide) hmem) (by decide)
    obtain ⟨v, hv, hlt⟩ := exists_shorter_of_not_plain hplain hts hlone
      (hfilled.resolve_left hlone) hstar
    exact absurd (h.fixedLength_le ((allows_iff v).2 (Or.inr hv))) (by omega)

theorem Agrees.globSafe (h : Agrees p) (hwild : isWild p = true) : GlobSafe p.toList := by
  have hplain := h.plain hwild
  have allows_iff : ∀ v : List Char, allows p (String.ofList v) = true ↔
      SpellsBytes p.toList (utf8 v) := fun v => by
    rw [allows_iff_spellsBytes hwild hplain, String.toList_ofList]
  have hsingle : ∀ run ∈ runs p.toList, run.count '?' ≤ 1 := by
    intro run hrun
    by_contra hcount
    obtain ⟨v, hv, hlt⟩ := exists_short_of_two_marks ⟨run, hrun, by omega⟩
    exact absurd (h.fixedLength_le ((allows_iff v).2 hv)) (by omega)
  have hread := (allows_iff _).1 (h.spelled.2 (spellsChars_filled 'é' p.toList))
  refine ⟨hplain, fun run hrun hmark => ?_, hsingle⟩
  by_contra hstar
  exact not_spellsBytes_of_lone_mark hsingle ⟨run, hrun, hmark, hstar⟩ hread

/-- A pattern has its meaning exactly if it has no wildcards or it is safe as a glob. -/
theorem agrees_iff : Agrees p ↔ (isWild p = true → GlobSafe p.toList) :=
  ⟨fun h hwild => h.globSafe hwild, fun h _ => GlobSafe.allows_iff h⟩

end Necessity

end EndpointMonitor.ObjectName
