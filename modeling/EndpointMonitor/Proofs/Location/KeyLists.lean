import EndpointMonitor.Proofs.Location.ObjectNames
import EndpointMonitor.Proofs.Text.Trimming

/-!
# Key lists of object names

Reading puts the parts of a key list into a name one after the other. Which name comes out is
said here without an order: it has the properties that the parts stand for, and it is open at
its end if a part is the mark of that. It comes out exactly if every part is one or the other
and no key occurs twice.
-/

namespace EndpointMonitor.ObjectName

variable {n m k : ObjectName} {p : Segment} {ps qs : List Segment}

/-! ### Properties as sets -/

theorem nodup_keys (h : ps.Pairwise fun a b => a.key < b.key) : (ps.map (·.key)).Nodup := by
  rw [List.Nodup, List.pairwise_map]
  refine h.imp ?_
  intro a b hlt heq
  rw [heq] at hlt
  exact String.lt_irrefl _ hlt

/-- A name is its domain, its set of properties and whether it is open at its end. -/
theorem eq_of_perm (domain : n.domain = m.domain) (openEnded : n.openEnded = m.openEnded)
    (properties : n.properties.Perm m.properties) : n = m := by
  have same : n.properties = m.properties := by
    refine properties.eq_of_pairwise ?_ n.sorted m.sorted
    intro a b _ _ hab hba
    exact absurd (String.lt_trans hab hba) (String.lt_irrefl _)
  cases n
  cases m
  simp_all

theorem insertProperty_perm (h : insertProperty p ps = some qs) : qs.Perm (p :: ps) := by
  induction ps generalizing qs with
  | nil =>
      cases h
      exact .refl _
  | cons q ps ih =>
      unfold insertProperty at h
      split at h
      · cases h
        exact .refl _
      · split at h
        · cases h
        · obtain ⟨rs, hrs, rfl⟩ := Option.map_eq_some_iff.1 h
          exact ((ih hrs).cons q).trans (.swap p q ps)

/-- Only a key that is taken keeps a property out. -/
theorem insertProperty_eq_none (h : insertProperty p ps = none) : p.key ∈ ps.map (·.key) := by
  induction ps with
  | nil => cases h
  | cons q ps ih =>
      unfold insertProperty at h
      split at h
      · cases h
      · split at h
        · rename_i hkey
          simp [hkey]
        · exact List.mem_cons_of_mem _ (ih (Option.map_eq_none_iff.1 h))

/-- A property that is put into a name is one more, and nothing else changes. -/
theorem insert?_eq_some (h : n.insert? p = some m) :
    m.domain = n.domain ∧ m.openEnded = n.openEnded ∧ m.properties.Perm (p :: n.properties) := by
  unfold insert? at h
  split at h
  · rename_i ps hps
    cases h
    exact ⟨rfl, rfl, insertProperty_perm hps⟩
  · cases h

/-- A property that is to be in the end, besides what is there, can be put in. -/
theorem exists_insert? {others : List Segment}
    (h : m.properties.Perm (p :: others ++ n.properties)) : ∃ k, n.insert? p = some k := by
  unfold insert?
  split
  · exact ⟨_, rfl⟩
  · rename_i hnone
    have keys := (h.map (·.key)).nodup_iff.1 (nodup_keys m.sorted)
    rw [List.cons_append, List.map_cons, List.nodup_cons, List.map_append] at keys
    exact absurd (List.mem_append_right _ (insertProperty_eq_none hnone)) keys.1

/-! ### Parts -/

/-- The property that a part of a key list stands for. -/
def propertyOf (part : List Char) : Option Segment :=
  match Text.splitFirst '=' part with
  | none => none
  | some (key, value) =>
    if key.isEmpty ∨ value.isEmpty then none else some ⟨String.ofList key, String.ofList value⟩

@[simp] theorem propertyOf_mark : propertyOf ['*'] = none := rfl

/-- A part that stands for a property is how this property is written. -/
theorem pairChars_of_propertyOf {part : List Char} (h : propertyOf part = some p) :
    pairChars p = part := by
  unfold propertyOf at h
  split at h
  · cases h
  · rename_i key value hcut
    split at h
    · cases h
    · cases h
      simp [pairChars, (Text.splitFirst_eq_some_iff.1 hcut).1]

/-- A part is the mark of an open end, or it is put in as a property. -/
theorem readPart_eq_ok_iff {text part : List Char} : readPart text n part = .ok m ↔
    part = ['*'] ∧ m = { n with openEnded := true } ∨
      ∃ p, propertyOf part = some p ∧ n.insert? p = some m := by
  unfold readPart
  split
  · rename_i hmark
    subst hmark
    simp [eq_comm]
  · rename_i hmark
    unfold propertyOf
    cases hcut : Text.splitFirst '=' part with
    | none => simp [hmark]
    | some cut =>
        simp only [hmark, false_and, false_or]
        split
        · simp
        · cases hinsert : n.insert? ⟨String.ofList cut.1, String.ofList cut.2⟩ with
          | none => simp [hinsert]
          | some k => simp [hinsert]

/-! ### Whole lists -/

/-- What parts make of a name, whatever their order is. -/
structure Collects (parts : List (List Char)) (n m : ObjectName) : Prop where
  domain : m.domain = n.domain
  openEnded : m.openEnded = true ↔ n.openEnded = true ∨ ['*'] ∈ parts
  readable : ∀ part ∈ parts, part = ['*'] ∨ ∃ p, propertyOf part = some p
  properties : m.properties.Perm (parts.filterMap propertyOf ++ n.properties)

namespace Collects

variable {part : List Char} {parts parts' : List (List Char)}

theorem nil_iff : Collects [] n m ↔ n = m := by
  constructor
  · intro h
    refine eq_of_perm h.domain.symm ?_ (by simpa using h.properties.symm)
    rw [Bool.eq_iff_iff]
    simpa using h.openEnded.symm
  · rintro rfl
    exact ⟨rfl, by simp, by simp, by simp⟩

theorem mark_iff :
    Collects (['*'] :: parts) n m ↔ Collects parts { n with openEnded := true } m := by
  have same : (['*'] :: parts).filterMap propertyOf = parts.filterMap propertyOf :=
    List.filterMap_cons_none rfl
  constructor
  · intro h
    refine ⟨h.domain, by simpa using h.openEnded, ?_, same ▸ h.properties⟩
    exact fun part hpart => h.readable part (List.mem_cons_of_mem _ hpart)
  · intro h
    refine ⟨h.domain, by simpa using h.openEnded, ?_, same.symm ▸ h.properties⟩
    exact List.forall_mem_cons.2 ⟨.inl rfl, h.readable⟩

theorem property_iff (hp : propertyOf part = some p) (hk : n.insert? p = some k) :
    Collects (part :: parts) n m ↔ Collects parts k m := by
  obtain ⟨domain, openEnded, properties⟩ := insert?_eq_some hk
  have hmark : ['*'] ≠ part := by
    rintro rfl
    simp at hp
  have same : ((part :: parts).filterMap propertyOf ++ n.properties).Perm
      (parts.filterMap propertyOf ++ k.properties) := by
    rw [List.filterMap_cons_some hp]
    calc List.Perm (p :: parts.filterMap propertyOf ++ n.properties)
          (parts.filterMap propertyOf ++ p :: n.properties) := List.perm_middle.symm
      List.Perm _ (parts.filterMap propertyOf ++ k.properties) := properties.symm.append_left _
  constructor
  · intro h
    refine ⟨h.domain.trans domain.symm, ?_, ?_, h.properties.trans same⟩
    · simpa [openEnded, hmark] using h.openEnded
    · exact fun part hpart => h.readable part (List.mem_cons_of_mem _ hpart)
  · intro h
    refine ⟨h.domain.trans domain, ?_, ?_, h.properties.trans same.symm⟩
    · simpa [openEnded, hmark] using h.openEnded
    · exact List.forall_mem_cons.2 ⟨.inr ⟨p, hp⟩, h.readable⟩

/-- Of a list, the first part is read, and the others are put into what it makes of the name. -/
theorem cons_iff (text : List Char) : Collects (part :: parts) n m ↔
    ∃ k, readPart text n part = .ok k ∧ Collects parts k m := by
  constructor
  · intro h
    rcases h.readable part List.mem_cons_self with rfl | ⟨p, hp⟩
    · exact ⟨_, readPart_eq_ok_iff.2 (.inl ⟨rfl, rfl⟩), mark_iff.1 h⟩
    · -- The name that comes out has each key once, so this one is not taken yet.
      have properties := h.properties
      rw [List.filterMap_cons_some hp] at properties
      obtain ⟨k, hk⟩ := exists_insert? properties
      exact ⟨k, readPart_eq_ok_iff.2 (.inr ⟨p, hp, hk⟩), (property_iff hp hk).1 h⟩
  · rintro ⟨k, hread, h⟩
    rcases readPart_eq_ok_iff.1 hread with ⟨rfl, rfl⟩ | ⟨p, hp, hk⟩
    · exact mark_iff.2 h
    · exact (property_iff hp hk).2 h

/-- Parts in another order make the same of a name. -/
theorem perm (h : Collects parts n m) (order : parts.Perm parts') : Collects parts' n m where
  domain := h.domain
  openEnded := by rw [h.openEnded, order.mem_iff]
  readable part hpart := h.readable part (order.mem_iff.2 hpart)
  properties := h.properties.trans ((order.filterMap propertyOf).append_right _)

end Collects

/-- Reading parts one after the other yields what they make of the name together. -/
theorem foldlM_readPart_iff (text : List Char) {parts : List (List Char)} :
    parts.foldlM (readPart text) n = .ok m ↔ Collects parts n m := by
  induction parts generalizing n with
  | nil =>
      rw [Collects.nil_iff, List.foldlM_nil]
      exact ⟨Except.ok.inj, congrArg _⟩
  | cons part parts ih =>
      rw [Collects.cons_iff text, List.foldlM_cons, except_bind_eq_ok_iff]
      simp only [ih]

/-! ### Texts -/

/-- The blanks at the end of a key list belong to no part. -/
theorem keyParts_trimRight (keys : List Char) : keyParts (Text.trimRight keys) = keyParts keys := by
  have comma : Text.isBlank ',' = false := rfl
  obtain ⟨ps, p, hkeys, htrimmed⟩ := Text.pieces_trimRight comma keys
  rw [keyParts, keyParts, hkeys, htrimmed]
  simp only [List.map_append, List.map_cons, Text.trim_trimRight]

/-- Texts with a domain and a key list are read as what the parts make of the bare domain. -/
theorem read_eq_ok_iff {s : String} {domain keys : List Char}
    (hs : s.toList = domain ++ ':' :: keys) (hdomain : ':' ∉ domain) : read s = .ok n ↔
      Collects (keyParts keys) { empty with domain := String.ofList (Text.trimLeft domain) } n ∧
        ¬(n.properties = [] ∧ n.openEnded = false) := by
  have hleft : ':' ∉ Text.trimLeft domain :=
    fun h => hdomain ((List.dropWhile_sublist Text.isBlank).subset h)
  have hcut := Text.splitFirst_eq_some_iff.2
    ⟨(rfl : Text.trimLeft domain ++ ':' :: Text.trimRight keys = _), hleft⟩
  rw [read, hs, Text.trim_append_cons rfl, readChars, if_neg (by simp), hcut]
  simp only [keyParts_trimRight]
  rw [← foldlM_readPart_iff (Text.trimLeft domain ++ ':' :: Text.trimRight keys)]
  rw [except_bind_eq_ok_iff]
  simp only [List.isEmpty_iff, Bool.not_eq_true']
  constructor
  · rintro ⟨k, hread, h⟩
    split at h
    · cases h
    · rename_i hfilled
      cases h
      exact ⟨hread, hfilled⟩
  · rintro ⟨hread, hfilled⟩
    exact ⟨n, hread, if_neg hfilled⟩

end EndpointMonitor.ObjectName
