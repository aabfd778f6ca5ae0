import EndpointMonitor.Proofs.Pattern.ByteSpelling
import EndpointMonitor.Proofs.Pattern.GlobReading

/-!
# Patterns that are read as they are

A pattern is plain if it has no sign that a glob has besides the wildcards, and no double star in
place of components of a path. It is read character by character, except for a double star at its
end, which stands for any bytes as well. So it is matched as it is spelled out, byte by byte.
-/

namespace EndpointMonitor.Pattern.Glob

open Text

variable {p pre rest : List Char} {c : Char} {w : List UInt8} {prev : Option Char}
  {current : List GlobToken}

/-- The characters besides the wildcards that have a meaning of their own in every glob. -/
def signs : List Char :=
  ['[', '{', '}', '\\']

/-- A pattern that has nothing but its wildcards with a meaning of its own in a glob. -/
structure Plain (p : List Char) : Prop where
  noSign : ∀ c ∈ p, c ∉ signs
  noLeadingDirs : ¬ ['*', '*', '/'] <+: p
  noMiddleDirs : ¬ ['/', '*', '*', '/'] <:+: p

/-- The part that a character of a plain pattern is read as. -/
def tokenOf (c : Char) : GlobToken :=
  if c = '*' then .anyBytes else if c = '?' then .anyByte else .literal c

/-- The reading when no list of alternatives is open. -/
def topLevel (current : List GlobToken) : Reading :=
  ⟨⟨[], current⟩, []⟩

theorem readParts_nil : readParts prev (topLevel current) [] = some current.reverse := by
  simp [readParts, topLevel]

theorem readParts_char (hstar : c ≠ '*') (hsign : c ∉ signs) :
    readParts prev (topLevel current) (c :: rest) =
      readParts (some c) (topLevel (tokenOf c :: current)) rest := by
  rw [readParts.eq_def]
  split <;> grind [signs, topLevel, tokenOf, Reading.push]

theorem readParts_star (hrest : rest.head? ≠ some '*') :
    readParts prev (topLevel current) ('*' :: rest) =
      readParts (some '*') (topLevel (.anyBytes :: current)) rest := by
  rw [readParts.eq_def]
  split <;> grind [topLevel, Reading.push]

theorem readParts_stars :
    readParts prev (topLevel current) ('*' :: '*' :: rest) =
      readParts (some (readDoubleStar prev (topLevel current) rest).last)
        (readDoubleStar prev (topLevel current) rest).reading
        (readDoubleStar prev (topLevel current) rest).rest := by
  rw [readParts]

/-- A double star has no meaning of its own within a component of a path. -/
theorem readDoubleStar_eq_stars
    (h : rest ≠ [] ∧ rest.head? ≠ some '/' ∨ current ≠ [] ∧ prev ≠ some '/') :
    readDoubleStar prev (topLevel current) rest =
      ⟨topLevel (.anyBytes :: .anyBytes :: current), rest, '*'⟩ := by
  unfold readDoubleStar
  grind [topLevel, Reading.push]

theorem takes_tokenOf_iff : Takes (tokenOf c) w ↔ StandsFor String.utf8EncodeChar c w := by
  unfold tokenOf StandsFor
  split
  · simp [Takes]
  · split
    · simp [Takes, List.length_eq_one_iff]
    · simp [Takes]

theorem reads_map_tokenOf_iff : Reads (p.map tokenOf) w ↔ SpellsBytes p w := by
  induction p generalizing w with
  | nil => rw [List.map_nil, Reads, SpellsBytes, spells_nil_iff]
  | cons c p ih =>
      simp only [List.map_cons, Reads, SpellsBytes, spells_cons_iff, takes_tokenOf_iff, ih]

theorem reads_append_iff {ts us : List GlobToken} : Reads (ts ++ us) w ↔
    ∃ u v, w = u ++ v ∧ Reads ts u ∧ Reads us v := by
  induction ts generalizing w with
  | nil => simp [Reads]
  | cons t ts ih =>
      simp only [List.cons_append, Reads, ih]
      exact exists_append_assoc_iff

/-- A double star at the end of a path stands for what two stars stand for. -/
theorem reads_trailingPath_iff : Reads [.trailingPath] w ↔ SpellsBytes ['/', '*', '*'] w := by
  have hslash : isWildcard '/' = false := by decide
  simp only [Reads, Takes, SpellsBytes, spells_literal_iff hslash, spells_star_iff, spells_nil_iff,
    utf8EncodeChar_slash]
  constructor
  · rintro ⟨_, _, rfl, ⟨u, rfl⟩, rfl⟩
    exact ⟨u, by simp, u, [], by simp, [], [], rfl, rfl⟩
  · rintro ⟨_, rfl, u, _, rfl, v, _, rfl, rfl⟩
    exact ⟨47 :: (u ++ v), [], by simp, ⟨_, rfl⟩, rfl⟩

theorem reads_map_tokenOf (p : List Char) (w : List UInt8) :
    p.map tokenOf = [.leadingDirs] ∨ Reads (p.map tokenOf) w ↔ SpellsBytes p w := by
  rw [← reads_map_tokenOf_iff, or_iff_right]
  intro h
  obtain ⟨c, rfl, hc⟩ := List.map_eq_singleton_iff.1 h
  unfold tokenOf at hc
  split at hc
  · cases hc
  · split at hc <;> cases hc

/-- A double star before the end is the whole pattern, or it ends a path. -/
theorem exists_readParts_last_stars
    (h : pre = [] ∨ pre.getLast? = some '/') :
    ∃ ts, readParts pre.getLast? (topLevel (pre.map tokenOf).reverse) ['*', '*'] = some ts ∧
      ∀ w, ts = [.leadingDirs] ∨ Reads ts w ↔ SpellsBytes (pre ++ ['*', '*']) w := by
  rcases List.eq_nil_or_concat pre with rfl | ⟨dirs, c, rfl⟩
  · refine ⟨[.leadingDirs], ?_, fun w => ?_⟩
    · simp [readDoubleStar, topLevel, readParts, Reading.push]
    · simpa [SpellsBytes, spells_star_iff] using ⟨w, [], (List.append_nil w).symm⟩
  · obtain rfl : c = '/' := by simpa using h
    refine ⟨dirs.map tokenOf ++ [.trailingPath], ?_, fun w => ?_⟩
    · simp [readDoubleStar, topLevel, readParts, tokenOf]
    · rw [or_iff_right fun h => by simpa using congrArg List.getLast? h, reads_append_iff,
        List.concat_eq_append, List.append_assoc]
      simp only [reads_map_tokenOf_iff, reads_trailingPath_iff]
      exact spells_append_iff.symm

/-- A plain pattern is read as a glob that matches what the pattern is spelled out to. -/
theorem exists_readParts (pre : List Char) {cs : List Char} (h : Plain (pre ++ cs)) :
    ∃ ts, readParts pre.getLast? (topLevel (pre.map tokenOf).reverse) cs = some ts ∧
      ∀ w, ts = [.leadingDirs] ∨ Reads ts w ↔ SpellsBytes (pre ++ cs) w := by
  cases cs with
  | nil =>
      refine ⟨pre.map tokenOf, by rw [readParts_nil, List.reverse_reverse], fun w => ?_⟩
      rw [List.append_nil, reads_map_tokenOf]
  | cons c rest =>
      by_cases hdouble : c = '*' ∧ rest.head? = some '*'
      · obtain ⟨rfl, hrest⟩ := hdouble
        obtain ⟨rest, rfl⟩ := List.head?_eq_some_iff.1 hrest
        by_cases hstars : rest ≠ [] ∧ rest.head? ≠ some '/' ∨ pre ≠ [] ∧ pre.getLast? ≠ some '/'
        · have hassoc : pre ++ '*' :: '*' :: rest = (pre ++ ['*', '*']) ++ rest := by simp
          obtain ⟨ts, hts, hreads⟩ := exists_readParts (pre ++ ['*', '*']) (hassoc ▸ h)
          refine ⟨ts, ?_, hassoc ▸ hreads⟩
          rw [readParts_stars, readDoubleStar_eq_stars (by simpa using hstars)]
          simpa [tokenOf] using hts
        · have hpre : pre = [] ∨ pre.getLast? = some '/' := by grind
          have hslash : rest.head? ≠ some '/' := by
            intro hhead
            obtain ⟨more, rfl⟩ := List.head?_eq_some_iff.1 hhead
            rcases hpre with rfl | hlast
            · exact h.noLeadingDirs ⟨more, rfl⟩
            · obtain ⟨dirs, rfl⟩ := List.getLast?_eq_some_iff.1 hlast
              exact h.noMiddleDirs ⟨dirs, more, by simp⟩
          obtain rfl : rest = [] := by grind
          exact exists_readParts_last_stars hpre
      · have hassoc : pre ++ c :: rest = (pre ++ [c]) ++ rest := List.append_cons pre c rest
        obtain ⟨ts, hts, hreads⟩ := exists_readParts (pre ++ [c]) (hassoc ▸ h)
        refine ⟨ts, ?_, hassoc ▸ hreads⟩
        rw [List.getLast?_concat, List.map_append, List.reverse_append] at hts
        by_cases hstar : c = '*'
        · subst hstar
          rw [readParts_star fun hrest => hdouble ⟨rfl, hrest⟩]
          exact hts
        · rw [readParts_char hstar (h.noSign c (by simp))]
          exact hts
termination_by cs.length

end EndpointMonitor.Pattern.Glob
