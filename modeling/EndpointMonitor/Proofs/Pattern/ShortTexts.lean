import EndpointMonitor.Proofs.Pattern.GlobReading

/-!
# Short texts that a glob matches

If a glob matches a text without stars, it also matches one that is no longer than the glob: it has
at most one character for each part that stands for a character, and none for a literal star. The
parts are treated one after another. A part may end within a character of the text; then the bytes
that are left of this character are kept, or the parts behind do without them.
-/

namespace EndpointMonitor.Pattern.Glob

open Text

mutual

/-- The number of characters that are enough for a part. -/
def tokenBound : GlobToken → Nat
  | .literal c => if c = '*' then 0 else 1
  | .anyByte => 1
  | .anyBytes => 0
  | .leadingDirs => 1
  | .trailingPath => 1
  | .middleDirs => 1
  | .byteClass _ _ => 1
  | .alternatives options => optionsBound options

/-- The number of characters that are enough for parts that follow one another. -/
def bound : List GlobToken → Nat
  | [] => 0
  | t :: ts => tokenBound t + bound ts

/-- The number of characters of all alternatives. -/
def optionsBound : List (List GlobToken) → Nat
  | [] => 0
  | option :: options => bound option + optionsBound options

end

/-- The bytes are in one set and then in another one. -/
def After (A R : List UInt8 → Prop) (w : List UInt8) : Prop :=
  ∃ x y, w = x ++ y ∧ A x ∧ R y

/-- Whatever bytes are left of a character before it, a text without stars can be replaced by one
with so many characters. If some bytes are left, then they can be dropped, or the text needs one
character less. -/
def Shortens (n : Nat) (R : List UInt8 → Prop) : Prop :=
  ∀ u v, (∀ b ∈ u, ¬ b.IsUTF8FirstByte) → '*' ∉ v → R (u ++ utf8 v) →
    (∃ v', R (u ++ utf8 v') ∧ v'.length ≤ n) ∧
      (u ≠ [] → (∃ v', R (utf8 v') ∧ v'.length ≤ n) ∨ ∃ v', R (u ++ utf8 v') ∧ v'.length + 1 ≤ n)

variable {n m : Nat} {A B R S : List UInt8 → Prop} {P : Prop}

section Sets

theorem Shortens.mono (h : Shortens n R) (hle : n ≤ m) : Shortens m R := by
  intro u v hu hv hR
  obtain ⟨⟨v', hv', hlen⟩, hrest⟩ := h u v hu hv hR
  refine ⟨⟨v', hv', by omega⟩, fun hne => ?_⟩
  rcases hrest hne with ⟨v', hv', hlen⟩ | ⟨v', hv', hlen⟩
  · exact Or.inl ⟨v', hv', by omega⟩
  · exact Or.inr ⟨v', hv', by omega⟩

theorem Shortens.congr (h : Shortens n R) (hiff : ∀ w, S w ↔ R w) : Shortens n S := by
  obtain rfl : S = R := funext fun w => propext (hiff w)
  exact h

theorem Shortens.or (hR : Shortens n R) (hS : Shortens n S) :
    Shortens n fun w => R w ∨ S w := by
  intro u v hu hv h
  rcases h with h | h
  · obtain ⟨hkept, hrest⟩ := hR u v hu hv h
    grind
  · obtain ⟨hkept, hrest⟩ := hS u v hu hv h
    grind

theorem Shortens.and_left (h : Shortens n R) : Shortens n fun w => P ∧ R w := by
  rintro u v hu hv ⟨hP, hR⟩
  simpa only [hP, true_and] using h u v hu hv hR

theorem shortens_nil : Shortens 0 (· = []) := by
  intro u v hu hv h
  obtain ⟨rfl, hv⟩ := List.append_eq_nil_iff.1 h
  exact ⟨⟨[], rfl, Nat.le_refl 0⟩, fun hne => absurd rfl hne⟩

theorem after_or_iff {w : List UInt8} :
    After (fun w => A w ∨ B w) R w ↔ After A R w ∨ After B R w := by
  simp only [After]
  grind

theorem after_and_left_iff {w : List UInt8} :
    After (fun w => P ∧ A w) R w ↔ P ∧ After A R w := by
  simp only [After]
  grind

theorem after_nil_iff {w : List UInt8} : After (· = []) R w ↔ R w := by
  simp [After]

theorem after_after_iff {w : List UInt8} : After (After A B) R w ↔ After A (After B R) w :=
  exists_append_assoc_iff.symm

end Sets

section Parts

variable {c : Char}

/-- A part that stands for one byte takes the byte that it took. If this begins a character, what
is left of the character stays. -/
theorem Shortens.byte (h : Shortens n R) (test : UInt8 → Prop) :
    Shortens (1 + n) (After (fun w => ∃ b, w = [b] ∧ test b) R) := by
  rintro u v hu hv ⟨_, y, heq, ⟨b, rfl, hb⟩, hy⟩
  cases u with
  | nil =>
      obtain ⟨c, u, ds, rfl, hc, rfl, hu⟩ := utf8_eq_cons heq
      obtain ⟨⟨v', hv', hlen⟩, -⟩ := h u ds hu (List.not_mem_of_not_mem_cons hv) hy
      refine ⟨⟨c :: v', ⟨[b], u ++ utf8 v', by simp [hc], ⟨b, rfl, hb⟩, hv'⟩, ?_⟩,
        fun hne => absurd rfl hne⟩
      rw [List.length_cons]
      omega
  | cons b' u =>
      obtain ⟨rfl, rfl⟩ := List.cons.inj heq
      obtain ⟨⟨v', hv', hlen⟩, -⟩ := h u v (fun x hx => hu x (by simp [hx])) hv hy
      exact ⟨⟨v', ⟨[b'], u ++ utf8 v', rfl, ⟨b', rfl, hb⟩, hv'⟩, by omega⟩,
        fun _ => Or.inr ⟨v', ⟨[b'], u ++ utf8 v', rfl, ⟨b', rfl, hb⟩, hv'⟩, by omega⟩⟩

/-- A literal character is a character of the text. -/
theorem Shortens.literal (h : Shortens n R) (c : Char) :
    Shortens ((if c = '*' then 0 else 1) + n) (After (· = String.utf8EncodeChar c) R) := by
  rintro u v hu hv ⟨_, y, heq, rfl, hy⟩
  obtain rfl := eq_nil_of_aligned_append hu (heq ▸ aligned_encoded c y)
  obtain ⟨ds, rfl, rfl⟩ := utf8_eq_encoded_append heq
  rw [if_neg fun hc => hv (by simp [hc])]
  obtain ⟨⟨v', hv', hlen⟩, -⟩ := h [] ds hu (List.not_mem_of_not_mem_cons hv) hy
  refine ⟨⟨c :: v', ⟨_, utf8 v', rfl, rfl, hv'⟩, ?_⟩, fun hne => absurd rfl hne⟩
  rw [List.length_cons]
  omega

theorem after_bytes {w : List UInt8} (h : R w) (x : List UInt8) :
    After (fun _ => True) R (x ++ w) :=
  ⟨x, w, rfl, trivial, h⟩

/-- Where a part stands for any bytes, it need not take any but those that are left over. -/
theorem Shortens.bytes (h : Shortens n R) : Shortens n (After (fun _ => True) R) := by
  rintro u v hu hv ⟨x, y, heq, -, hy⟩
  rcases List.append_eq_append_iff.1 heq with ⟨x', rfl, hv'⟩ | ⟨u', rfl, rfl⟩
  · -- It takes everything that is left over, so that this does not matter.
    suffices hshort : ∃ v', v'.length ≤ n ∧ ∀ x, After (fun _ => True) R (x ++ utf8 v') by
      obtain ⟨v', hlen, hR⟩ := hshort
      exact ⟨⟨v', hR u, hlen⟩, fun _ => Or.inl ⟨v', hR [], hlen⟩⟩
    rcases utf8_cut hv' with ⟨ds, es, rfl, -, rfl⟩ | ⟨ds, c, es, z, u', rfl, hc, hne, hu', -, rfl⟩
    · obtain ⟨⟨v', hR, hlen⟩, -⟩ := h [] es (by simp) (by grind) hy
      exact ⟨v', hlen, after_bytes hR⟩
    · rcases (h u' es hu' (by grind) hy).2 hne with ⟨v', hR, hlen⟩ | ⟨v', hR, hlen⟩
      · exact ⟨v', hlen, after_bytes hR⟩
      · refine ⟨c :: v', hlen, fun x => ?_⟩
        simpa [hc] using after_bytes hR (x ++ z)
  · have hu' : ∀ b ∈ u', ¬ b.IsUTF8FirstByte := fun b hb => hu b (by simp [hb])
    obtain ⟨⟨v', hR, hlen⟩, hrest⟩ := h u' v hu' hv hy
    refine ⟨⟨v', List.append_assoc x u' _ ▸ after_bytes hR x, hlen⟩, fun _ => ?_⟩
    by_cases hne : u' = []
    · subst hne
      exact Or.inl ⟨v', after_bytes hR [], hlen⟩
    · rcases hrest hne with ⟨v', hR, hlen⟩ | ⟨v', hR, hlen⟩
      · exact Or.inl ⟨v', after_bytes hR [], hlen⟩
      · exact Or.inr ⟨v', List.append_assoc x u' _ ▸ after_bytes hR x, hlen⟩

/-- A slash begins a character, so that nothing is left of a character behind it. -/
theorem Shortens.behind_slash (h : Shortens n R) {u : List UInt8} {v : List Char}
    (hu : ∀ b ∈ u, ¬ b.IsUTF8FirstByte) (hv : '*' ∉ v)
    (hR : After (fun w => ∃ x, w = x ++ [47]) R (u ++ utf8 v)) :
    ∃ v', R (utf8 v') ∧ v'.length ≤ n := by
  obtain ⟨_, y, heq, ⟨x, rfl⟩, hy⟩ := hR
  rw [List.append_assoc, ← utf8EncodeChar_slash] at heq
  rcases List.append_eq_append_iff.1 heq with ⟨x', rfl, hv'⟩ | ⟨u', rfl, hy'⟩
  · obtain ⟨ds, es, rfl, -, rfl⟩ := utf8_eq_append_encoded hv'
    obtain ⟨⟨v', hR, hlen⟩, -⟩ := h [] es (by simp) (by grind) hy
    exact ⟨v', hR, hlen⟩
  · obtain rfl := eq_nil_of_aligned_append (u := u') (w := utf8 v) (fun b hb => hu b (by simp [hb]))
      (hy' ▸ aligned_encoded '/' y)
    obtain ⟨ds, rfl, rfl⟩ := utf8_eq_encoded_append hy'.symm
    obtain ⟨⟨v', hR, hlen⟩, -⟩ := h [] ds (by simp) (by grind) hy
    exact ⟨v', hR, hlen⟩

theorem Shortens.dirs (h : Shortens n R) :
    Shortens (1 + n) (After (fun w => ∃ x, w = x ++ [47]) R) := by
  intro u v hu hv hR
  obtain ⟨v', hv', hlen⟩ := h.behind_slash hu hv hR
  have hafter : ∀ x, After (fun w => ∃ x, w = x ++ [47]) R (x ++ utf8 ('/' :: v')) := fun x =>
    ⟨x ++ [47], utf8 v', by simp [utf8EncodeChar_slash], ⟨x, rfl⟩, hv'⟩
  have hle : ('/' :: v').length ≤ 1 + n := by
    rw [List.length_cons]
    omega
  exact ⟨⟨_, hafter u, hle⟩, fun _ => Or.inl ⟨_, hafter [], hle⟩⟩

/-- Components of a path between two slashes can be left out together with one slash. -/
theorem Shortens.middleDirs (h : Shortens n R) :
    Shortens (1 + n) (After (fun w => w = [47] ∨ ∃ x, w = 47 :: (x ++ [47])) R) := by
  intro u v hu hv hR
  have hbegins : ∃ y, u ++ utf8 v = String.utf8EncodeChar '/' ++ y ∧
      (R y ∨ After (fun w => ∃ x, w = x ++ [47]) R y) := by
    rw [utf8EncodeChar_slash]
    rcases hR with ⟨_, y, heq, rfl | ⟨x, rfl⟩, hy⟩
    · exact ⟨y, heq, Or.inl hy⟩
    · exact ⟨(x ++ [47]) ++ y, heq, Or.inr ⟨x ++ [47], y, rfl, ⟨x, rfl⟩, hy⟩⟩
  obtain ⟨y, heq, hy⟩ := hbegins
  obtain rfl := eq_nil_of_aligned_append hu (heq ▸ aligned_encoded '/' y)
  obtain ⟨ds, rfl, rfl⟩ := utf8_eq_encoded_append heq
  have hds := List.not_mem_of_not_mem_cons hv
  obtain ⟨v', hv', hlen⟩ : ∃ v', R (utf8 v') ∧ v'.length ≤ n := by
    rcases hy with hy | hy
    · exact (h [] ds hu hds hy).1
    · exact h.behind_slash hu hds hy
  refine ⟨⟨'/' :: v', ⟨[47], utf8 v', ?_, Or.inl rfl, hv'⟩, ?_⟩, fun hne => absurd rfl hne⟩
  · rw [utf8_cons, utf8EncodeChar_slash, List.nil_append]
  · rw [List.length_cons]
    omega

theorem Shortens.trailingPath (h : Shortens n R) :
    Shortens (1 + n) (After (fun w => ∃ x, w = 47 :: x) R) := by
  refine (h.bytes.literal '/').congr fun w => ?_
  simp only [utf8EncodeChar_slash, After]
  constructor
  · rintro ⟨_, y, rfl, ⟨x, rfl⟩, hy⟩
    exact ⟨[47], x ++ y, rfl, rfl, x, y, rfl, trivial, hy⟩
  · rintro ⟨_, _, rfl, rfl, x, y, rfl, -, hy⟩
    exact ⟨47 :: x, y, rfl, ⟨x, rfl⟩, hy⟩

mutual

theorem shortens_token : ∀ (t : GlobToken) {n : Nat} {R : List UInt8 → Prop}, Shortens n R →
    Shortens (tokenBound t + n) (After (Takes t) R)
  | .literal c, _, _, h => by
    simpa only [tokenBound, Takes] using h.literal c
  | .anyByte, _, _, h => by
    simpa only [tokenBound, Takes, and_true] using h.byte fun _ => True
  | .anyBytes, _, _, h => by
    simpa only [tokenBound, Takes, Nat.zero_add] using h.bytes
  | .leadingDirs, n, _, h => by
    rw [tokenBound]
    refine ((h.mono (Nat.le_add_left n 1)).or h.dirs).congr fun w => ?_
    simp only [Takes, after_or_iff, after_nil_iff]
  | .trailingPath, _, _, h => by
    simpa only [tokenBound, Takes] using h.trailingPath
  | .middleDirs, _, _, h => by
    simpa only [tokenBound, Takes] using h.middleDirs
  | .byteClass negated ranges, _, _, h => by
    simpa only [tokenBound, Takes] using h.byte fun b => inRanges ranges b ≠ negated
  | .alternatives options, n, _, h => by
    rw [tokenBound]
    have hnone := (h.mono (Nat.le_add_left n (optionsBound options))).and_left
      (P := optionExprs options = [])
    refine ((shortens_options options h).or hnone).congr fun w => ?_
    simp only [Takes, after_or_iff, after_and_left_iff, after_nil_iff]

theorem shortens_parts : ∀ (ts : List GlobToken) {n : Nat} {R : List UInt8 → Prop}, Shortens n R →
    Shortens (bound ts + n) (After (Reads ts) R)
  | [], _, _, h => by
    simp only [bound, Reads]
    exact (h.mono (Nat.le_add_left _ 0)).congr fun w => after_nil_iff
  | t :: ts, _, _, h => by
    rw [bound, Nat.add_assoc]
    refine (shortens_token t (shortens_parts ts h)).congr fun w => ?_
    rw [← after_after_iff]
    simp only [Reads, After]

theorem shortens_options : ∀ (options : List (List GlobToken)) {n : Nat} {R : List UInt8 → Prop},
    Shortens n R → Shortens (optionsBound options + n) (After (TakesOption options) R)
  | [], _, _, _ => by
    rintro u v - - ⟨x, y, -, hx, -⟩
    rw [TakesOption] at hx
    exact hx.elim
  | option :: options, n, R, h => by
    rw [optionsBound]
    have hfirst := ((shortens_parts option h).mono
      (show _ ≤ bound option + optionsBound options + n by omega)).and_left
      (P := tokenExprs option ≠ [])
    have hrest := (shortens_options options h).mono
      (show _ ≤ bound option + optionsBound options + n by omega)
    refine (hfirst.or hrest).congr fun w => ?_
    simp only [TakesOption, after_or_iff, after_and_left_iff]

end

end Parts

theorem shortens_reads (ts : List GlobToken) : Shortens (bound ts) (Reads ts) := by
  refine (shortens_parts ts shortens_nil).congr fun w => ?_
  constructor
  · exact fun h => ⟨w, [], (List.append_nil w).symm, h, rfl⟩
  · rintro ⟨x, _, rfl, hx, rfl⟩
    rwa [List.append_nil]

/-- A glob that matches a text without stars matches one that is no longer than its bound. -/
theorem Reads.exists_short {ts : List GlobToken} {v : List Char} (h : Reads ts (utf8 v))
    (hv : '*' ∉ v) : ∃ v', Reads ts (utf8 v') ∧ v'.length ≤ bound ts :=
  (shortens_reads ts [] v (by simp) hv h).1

/-- Components of a path at the beginning are not needed for the shortest text. -/
theorem Reads.exists_short_of_leadingDirs {ts : List GlobToken} {v : List Char}
    (h : Reads (.leadingDirs :: ts) (utf8 v)) (hv : '*' ∉ v) :
    ∃ v', Reads (.leadingDirs :: ts) (utf8 v') ∧ v'.length ≤ bound ts := by
  obtain ⟨v', hv', hlen⟩ : ∃ v', Reads ts (utf8 v') ∧ v'.length ≤ bound ts := by
    obtain ⟨x, y, heq, rfl | hdirs, hy⟩ := h
    · exact Reads.exists_short (heq ▸ hy) hv
    · exact (shortens_reads ts).behind_slash (u := []) (by simp) hv ⟨x, y, heq, hdirs, hy⟩
  exact ⟨v', ⟨[], utf8 v', rfl, Or.inl rfl, hv'⟩, hlen⟩

end EndpointMonitor.Pattern.Glob
