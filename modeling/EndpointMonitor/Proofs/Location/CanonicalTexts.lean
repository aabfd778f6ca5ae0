import EndpointMonitor.Proofs.Location.KeyLists
import EndpointMonitor.Proofs.Location.PlatformPaths

/-!
# Canonical texts

An object name has many texts, since the parts of its key list may stand in any order and with
blanks around them. The text it is written with is one of them, the same for all. A platform
path has only one text, up to the blanks around it. Nothing is escaped in either.
-/

namespace EndpointMonitor

namespace ObjectName

/-- Two texts with the same domain and the same parts of their key lists, in any order. Blanks
before the domain and around the parts do not count. -/
def Reordered (s t : String) : Prop :=
  ∃ domain keys domain' keys',
    s.toList = domain ++ ':' :: keys ∧ t.toList = domain' ++ ':' :: keys' ∧
    ':' ∉ domain ∧ ':' ∉ domain' ∧ Text.trimLeft domain = Text.trimLeft domain' ∧
    ((Text.pieces ',' keys).map Text.trim).Perm ((Text.pieces ',' keys').map Text.trim)

/-- Writing the same parts behind the same domain in another order. -/
theorem reordered_of_perm (domain : List Char) (parts parts' : List (List Char))
    (hdomain : ':' ∉ domain) (hne : parts ≠ []) (hparts : ∀ part ∈ parts, ',' ∉ part)
    (order : parts.Perm parts') :
    Reordered (String.ofList (domain ++ ':' :: [','].intercalate parts))
      (String.ofList (domain ++ ':' :: [','].intercalate parts')) := by
  refine ⟨domain, _, domain, _, String.toList_ofList, String.toList_ofList, hdomain, hdomain,
    rfl, ?_⟩
  have hne' : parts' ≠ [] := fun h => hne (order.trans (.of_eq h)).eq_nil
  rw [Text.pieces_intercalate hparts hne,
    Text.pieces_intercalate (fun part hpart => hparts part (order.mem_iff.2 hpart)) hne']
  exact order.map _

/-- The order of the parts makes no difference to what is read, nor to whether it is read. -/
theorem Reordered.read_iff {s t : String} (h : Reordered s t) {n : ObjectName} :
    read s = .ok n ↔ read t = .ok n := by
  obtain ⟨domain, keys, domain', keys', hs, ht, hdomain, hdomain', same, order⟩ := h
  have parts : (keyParts keys).Perm (keyParts keys') := order.filter _
  rw [read_eq_ok_iff hs hdomain, read_eq_ok_iff ht hdomain', same]
  exact and_congr_left' ⟨fun h => h.perm parts, fun h => h.perm parts.symm⟩

/-! ### Writing what was read -/

/-- Only the empty name is read from a text without a colon. -/
theorem read_cases {s : String} {n : ObjectName} (h : read s = .ok n) :
    n = empty ∨ ∃ domain keys, s.toList = domain ++ ':' :: keys ∧ ':' ∉ domain := by
  cases hcut : Text.splitFirst ':' s.toList with
  | some cut => exact .inr ⟨cut.1, cut.2, Text.splitFirst_eq_some_iff.1 hcut⟩
  | none =>
      have htrim : Text.splitFirst ':' (Text.trim s.toList) = none := by
        rw [Text.splitFirst_eq_none_iff] at hcut ⊢
        exact fun hmem => hcut (Text.mem_of_mem_trim hmem)
      rw [read, readChars, htrim] at h
      split at h
      · exact .inl (Except.ok.inj h).symm
      · cases h

/-- Parts that are read from a text are written into it as they are. -/
theorem keyParts_propertyChars {ps : List Segment} {openEnded : Bool} {keys : List Char}
    (h : ∀ p ∈ ps, pairChars p ∈ keyParts keys) (hne : ¬(ps = [] ∧ openEnded = false)) :
    keyParts (propertyChars ps openEnded) = parts ps openEnded := by
  have bare : ∀ part ∈ parts ps openEnded,
      ',' ∉ part ∧ Text.trim part = part ∧ part ≠ [] := by
    intro part hpart
    rcases List.mem_append.1 hpart with hpair | hmark
    · obtain ⟨p, hp, rfl⟩ := List.mem_map.1 hpair
      have hmem := h p hp
      refine ⟨comma_notMem_keyParts hmem, ?_, by simp [pairChars]⟩
      obtain ⟨piece, -, htrim⟩ := List.mem_map.1 (List.mem_filter.1 hmem).1
      rw [← htrim, Text.trim_trim]
    · obtain rfl : part = ['*'] := by cases openEnded <;> simp_all
      exact ⟨by simp, rfl, by simp⟩
  have nonempty : parts ps openEnded ≠ [] := by
    cases openEnded <;> simp_all [parts]
  rw [propertyChars_eq, keyParts, Text.pieces_intercalate (fun part hpart => (bare part hpart).1)
    nonempty, List.map_congr_left fun part hpart => (bare part hpart).2.1, List.map_id',
    List.filter_eq_self]
  intro part hpart
  simpa using (bare part hpart).2.2

/-- Parts that stand for the properties of a name make the name of its bare domain. -/
theorem collects_parts {n : ObjectName}
    (h : ∀ p ∈ n.properties, propertyOf (pairChars p) = some p) :
    Collects (parts n.properties n.openEnded) { empty with domain := n.domain } n := by
  have mark : (if n.openEnded then [['*']] else []).filterMap propertyOf = [] := by
    split <;> rfl
  have properties : (parts n.properties n.openEnded).filterMap propertyOf = n.properties := by
    rw [parts, List.filterMap_append, mark, List.append_nil, List.filterMap_map]
    exact (List.filterMap_congr h).trans List.filterMap_some
  refine ⟨rfl, ?_, ?_, ?_⟩
  · rw [star_mem_parts_iff]
    simp [empty]
  · intro part hpart
    rcases List.mem_append.1 hpart with hpair | hmark
    · obtain ⟨p, hp, rfl⟩ := List.mem_map.1 hpair
      exact .inr ⟨p, h p hp⟩
    · cases hopen : n.openEnded <;> simp_all
  · rw [properties]
    exact .of_eq (List.append_nil _).symm

theorem Collects.exists_part {parts : List (List Char)} {domain : String} {n : ObjectName}
    (h : Collects parts { empty with domain := domain } n) {p : Segment}
    (hp : p ∈ n.properties) : propertyOf (pairChars p) = some p ∧ pairChars p ∈ parts := by
  have hmem : p ∈ parts.filterMap propertyOf ++ [] := h.properties.mem_iff.1 hp
  rw [List.append_nil] at hmem
  obtain ⟨part, hpart, hof⟩ := List.mem_filterMap.1 hmem
  rw [pairChars_of_propertyOf hof]
  exact ⟨hof, hpart⟩

/-- A name that was read is read again from its own text. -/
theorem read_text_of_read {s : String} {n : ObjectName} (h : read s = .ok n) :
    read n.text = .ok n := by
  rcases read_cases h with rfl | ⟨domain, keys, hs, hdomain⟩
  · rfl
  · obtain ⟨collects, filled⟩ := (read_eq_ok_iff hs hdomain).1 h
    have bare : n.domain.toList = Text.trimLeft domain := by
      rw [collects.domain, String.toList_ofList]
    have visible : ':' ∉ n.domain.toList := by
      rw [bare]
      exact fun hmem => hdomain ((List.dropWhile_sublist Text.isBlank).subset hmem)
    have written : n.text.toList =
        n.domain.toList ++ ':' :: propertyChars n.properties n.openEnded := by
      rw [text, String.toList_ofList, chars, if_neg]
      intro hempty
      simp only [isEmpty, Bool.and_eq_true, List.isEmpty_iff, Bool.not_eq_true'] at hempty
      exact filled ⟨hempty.1.2, hempty.2⟩
    rw [read_eq_ok_iff written visible, bare, Text.trimLeft_trimLeft, ← bare,
      String.ofList_toList, keyParts_propertyChars (fun p hp => (collects.exists_part hp).2) filled]
    exact ⟨collects_parts fun p hp => (collects.exists_part hp).1, filled⟩

end ObjectName

namespace PlatformPath

theorem read_text_of_read {s : String} {p : PlatformPath} (h : read s = .ok p) :
    read p.text = .ok p := by
  rw [text_of_read h, read, String.toList_ofList, Text.trim_trim]
  exact h

end PlatformPath

namespace Location

/-- The text of an object name that was read is read as the same name, and so is each text with
the same parts in another order; a text that cannot be read cannot be read in another order
either. The text of a platform path that was read is what it was read from, without the blanks
around it, and is read as the same path. -/
theorem texts_canonical :
    (∀ s n, ObjectName.read s = .ok n → ObjectName.read n.text = .ok n ∧
      ∀ t, ObjectName.Reordered s t → ObjectName.read t = .ok n) ∧
    (∀ s fault, ObjectName.read s = .error fault →
      ∀ t, ObjectName.Reordered s t → ∃ fault', ObjectName.read t = .error fault') ∧
    ∀ s p, PlatformPath.read s = .ok p →
      p.text = Text.trimmed s ∧ PlatformPath.read p.text = .ok p := by
  refine ⟨?_, ?_, ?_⟩
  · intro s n h
    exact ⟨ObjectName.read_text_of_read h, fun t order => order.read_iff.1 h⟩
  · intro s fault h t order
    cases hread : ObjectName.read t with
    | error fault' => exact ⟨fault', rfl⟩
    | ok n =>
        rw [order.read_iff.2 hread] at h
        cases h
  · intro s p h
    exact ⟨PlatformPath.text_of_read h, PlatformPath.read_text_of_read h⟩

/-- A name with its mark in the middle and blanks around and inside its parts, a key list with
a key twice, and a path with a bracket inside a name. -/
theorem texts_canonical_blanks :
    (∃ n, ObjectName.read " j :b=x:y ,*, a b= 1" = .ok n ∧
      ObjectName.read n.text = .ok n ∧ n.text = "j :a b= 1,b=x:y,*" ∧
      ObjectName.Reordered " j :b=x:y ,*, a b= 1" "j :*, a b= 1,b=x:y" ∧
      ObjectName.read "j :*, a b= 1,b=x:y" = .ok n) ∧
    (ObjectName.Reordered "j:a=1,b=2,a=3" "j:b=2,a=3,a=1" ∧
      ∃ fault, ObjectName.read "j:b=2,a=3,a=1" = .error fault) ∧
    ∃ p, PlatformPath.read " [a=b]c][d=e] " = .ok p ∧ p.text = "[a=b]c][d=e]" ∧
      PlatformPath.read p.text = .ok p := by
  refine ⟨?_, ?_, ?_⟩
  · have order : ObjectName.Reordered " j :b=x:y ,*, a b= 1" "j :*, a b= 1,b=x:y" :=
      ⟨" j ".toList, "b=x:y ,*, a b= 1".toList, "j ".toList, "*, a b= 1,b=x:y".toList,
        by decide +kernel⟩
    have shown : (ObjectName.read " j :b=x:y ,*, a b= 1").toOption.map (·.text) =
        some "j :a b= 1,b=x:y,*" := by decide +kernel
    cases hread : ObjectName.read " j :b=x:y ,*, a b= 1" with
    | error fault =>
        rw [hread] at shown
        cases shown
    | ok n =>
        rw [hread] at shown
        obtain ⟨again, others⟩ := texts_canonical.1 _ n hread
        exact ⟨n, rfl, again, Option.some.inj shown, order, others _ order⟩
  · have order : ObjectName.Reordered "j:a=1,b=2,a=3" "j:b=2,a=3,a=1" :=
      ObjectName.reordered_of_perm ['j'] [['a', '=', '1'], ['b', '=', '2'], ['a', '=', '3']]
        [['b', '=', '2'], ['a', '=', '3'], ['a', '=', '1']]
        (by decide) (by decide) (by decide) (by decide)
    have twice : ObjectName.read "j:a=1,b=2,a=3" =
        .error (.duplicateKey "a" "j:a=1,b=2,a=3") := by decide +kernel
    exact ⟨order, texts_canonical.2.1 _ _ twice _ order⟩
  · have hread : PlatformPath.read " [a=b]c][d=e] " = .ok ⟨[⟨"a", "b]c"⟩, ⟨"d", "e"⟩]⟩ := by
      decide +kernel
    obtain ⟨untouched, again⟩ := texts_canonical.2.2 _ _ hread
    exact ⟨_, hread, untouched.trans (by decide +kernel), again⟩

end Location

end EndpointMonitor
