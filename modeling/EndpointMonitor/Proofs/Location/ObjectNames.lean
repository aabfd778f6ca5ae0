import EndpointMonitor.Location.ObjectName
import EndpointMonitor.Proofs.Readings

/-!
# Texts of object names

A name that was read has no colon in its domain, no equals sign in a key and no comma in a
property. These are the characters that separate the parts of its text, so the text can be
taken apart again and belongs to no other name that was read.
-/

namespace EndpointMonitor

namespace Text

theorem mem_of_mem_trim {c : Char} {cs : List Char} (h : c ∈ trim cs) : c ∈ cs := by
  have hleft : c ∈ trimLeft cs :=
    List.mem_reverse.1 ((List.dropWhile_sublist isBlank).subset (List.mem_reverse.1 h))
  exact (List.dropWhile_sublist isBlank).subset hleft

/-- There is one cut at the first separator. -/
theorem cut_inj {sep : Char} {before before' after after' : List Char} (h : sep ∉ before)
    (h' : sep ∉ before') (heq : before ++ sep :: after = before' ++ sep :: after') :
    before = before' ∧ after = after' := by
  have hcut := splitFirst_eq_some_iff.2 ⟨heq, h'⟩
  rw [splitFirst_eq_some_iff.2 ⟨rfl, h⟩] at hcut
  simpa using hcut

/-- Texts without the separator that are not empty can be told from their intercalation. -/
theorem intercalate_inj {sep : Char} {ps qs : List (List Char)} (hps : ∀ p ∈ ps, sep ∉ p)
    (hqs : ∀ q ∈ qs, sep ∉ q) (hp : [] ∉ ps) (hq : [] ∉ qs)
    (h : [sep].intercalate ps = [sep].intercalate qs) : ps = qs := by
  have hsplit : ∀ {ts : List (List Char)}, (∀ t ∈ ts, sep ∉ t) → ts ≠ [] →
      ([sep].intercalate ts).splitOn sep = ts :=
    fun hts hne => List.splitOn_intercalate sep hts hne
  by_cases hps0 : ps = [] <;> by_cases hqs0 : qs = []
  · rw [hps0, hqs0]
  · have := hsplit hqs hqs0
    rw [← h, hps0] at this
    exact absurd (this ▸ List.mem_singleton_self []) hq
  · have := hsplit hps hps0
    rw [h, hqs0] at this
    exact absurd (this ▸ List.mem_singleton_self []) hp
  · rw [← hsplit hps hps0, h, hsplit hqs hqs0]

end Text

namespace ObjectName

/-- No part of the name holds the character that ends it in a text. -/
structure Separable (n : ObjectName) : Prop where
  domain : ':' ∉ n.domain.toList
  key : ∀ p ∈ n.properties, '=' ∉ p.key.toList ∧ ',' ∉ p.key.toList
  value : ∀ p ∈ n.properties, ',' ∉ p.value.toList

/-- A property as it is written between two commas. -/
def pairChars (p : Segment) : List Char :=
  p.key.toList ++ '=' :: p.value.toList

/-- What stands between the commas of the text of a name. -/
def parts (ps : List Segment) (openEnded : Bool) : List (List Char) :=
  ps.map pairChars ++ if openEnded then [['*']] else []

theorem propertyChars_eq (ps : List Segment) (openEnded : Bool) :
    propertyChars ps openEnded = [','].intercalate (parts ps openEnded) := by
  induction ps with
  | nil => cases openEnded <;> rfl
  | cons p rest ih =>
      cases rest with
      | nil => cases openEnded <;> simp [propertyChars, parts, pairChars]
      | cons q rest =>
          rw [propertyChars, ih]
          · simp [parts, pairChars]
          · simp

/-- The mark of an open end is no property. -/
theorem star_mem_parts_iff {ps : List Segment} {openEnded : Bool} :
    ['*'] ∈ parts ps openEnded ↔ openEnded = true := by
  have hpair : ∀ p, pairChars p ≠ ['*'] := by
    intro p h
    have : '=' ∈ pairChars p := by simp [pairChars]
    simp [h] at this
  cases openEnded <;> simp [parts, hpair]

theorem filterMap_pairs {ps : List Segment} (h : ∀ p ∈ ps, '=' ∉ p.key.toList) :
    (ps.map pairChars).filterMap (Text.splitFirst '=') =
      ps.map fun p => (p.key.toList, p.value.toList) := by
  induction ps with
  | nil => rfl
  | cons p ps ih =>
      have hcut : Text.splitFirst '=' (pairChars p) = some (p.key.toList, p.value.toList) :=
        Text.splitFirst_eq_some_iff.2 ⟨rfl, h p (by simp)⟩
      simp [hcut, ih fun q hq => h q (List.mem_cons_of_mem p hq)]

namespace Separable

variable {n m : ObjectName}

/-- Cutting the parts at their first equals signs gives the properties back. -/
theorem filterMap_parts (h : n.Separable) :
    (parts n.properties n.openEnded).filterMap (Text.splitFirst '=') =
      n.properties.map fun p => (p.key.toList, p.value.toList) := by
  have hmark : (if n.openEnded then [['*']] else []).filterMap (Text.splitFirst '=') = [] := by
    split <;> rfl
  rw [parts, List.filterMap_append, hmark, List.append_nil,
    filterMap_pairs fun p hp => (h.key p hp).1]

theorem comma_notMem_parts (h : n.Separable) {part : List Char}
    (hpart : part ∈ parts n.properties n.openEnded) : ',' ∉ part := by
  rcases List.mem_append.1 hpart with hpair | hmark
  · obtain ⟨p, hp, rfl⟩ := List.mem_map.1 hpair
    simp [pairChars, (h.key p hp).2, h.value p hp]
  · have : part = ['*'] := by cases hopen : n.openEnded <;> simp_all
    simp [this]

theorem nil_notMem_parts : [] ∉ parts n.properties n.openEnded := by
  cases hopen : n.openEnded <;> simp [parts, pairChars]

/-- The text after the domain tells the properties and the open end. -/
theorem properties_eq (hn : n.Separable) (hm : m.Separable)
    (h : propertyChars n.properties n.openEnded = propertyChars m.properties m.openEnded) :
    n.properties = m.properties ∧ n.openEnded = m.openEnded := by
  rw [propertyChars_eq, propertyChars_eq] at h
  have hparts := Text.intercalate_inj (fun _ => hn.comma_notMem_parts)
    (fun _ => hm.comma_notMem_parts) nil_notMem_parts nil_notMem_parts h
  constructor
  · have hpairs := hn.filterMap_parts
    rw [hparts, hm.filterMap_parts] at hpairs
    refine ((List.map_inj_right fun p q hpq => ?_).1 hpairs).symm
    cases p
    cases q
    simpa [String.toList_inj] using hpq
  · rw [Bool.eq_iff_iff, ← star_mem_parts_iff, hparts, star_mem_parts_iff]

/-- Names that can be taken apart have different texts. -/
theorem eq_of_text_eq (hn : n.Separable) (hm : m.Separable) (h : n.text = m.text) : n = m := by
  have hchars : n.chars = m.chars := String.ofList_injective h
  have hempty : ∀ k : ObjectName, k.isEmpty = true →
      k.domain = "" ∧ k.properties = [] ∧ k.openEnded = false := by
    simp [isEmpty, and_assoc]
  have hfields : n.domain = m.domain ∧ n.properties = m.properties ∧
      n.openEnded = m.openEnded := by
    unfold chars at hchars
    split at hchars <;> rename_i hn0 <;> split at hchars <;> rename_i hm0
    · obtain ⟨hd, hp, ho⟩ := hempty n hn0
      obtain ⟨hd', hp', ho'⟩ := hempty m hm0
      simp [*]
    · simp at hchars
    · simp at hchars
    · obtain ⟨hdomain, hrest⟩ := Text.cut_inj hn.domain hm.domain hchars
      exact ⟨String.toList_inj.1 hdomain, hn.properties_eq hm hrest⟩
  cases n
  cases m
  simpa using hfields

end Separable

/-! ### Reading -/

theorem separable_empty : empty.Separable := by
  constructor <;> simp [empty]

/-- What a name is after a property was put into it. -/
theorem of_insert? {n n' : ObjectName} {s : Segment} (h : n.insert? s = some n') :
    n'.domain = n.domain ∧ ∀ p ∈ n'.properties, p = s ∨ p ∈ n.properties := by
  unfold insert? at h
  split at h
  · rename_i ps hps
    cases h
    exact ⟨rfl, fun p hp => mem_of_insertProperty hps hp⟩
  · cases h

/-- A part without commas keeps the name separable. -/
theorem Separable.readPart {text part : List Char} {n n' : ObjectName} (hn : n.Separable)
    (hpart : ',' ∉ part) (h : readPart text n part = .ok n') : n'.Separable := by
  unfold ObjectName.readPart at h
  split at h
  · cases h
    exact ⟨hn.domain, hn.key, hn.value⟩
  · split at h
    · cases h
    · rename_i key value hcut
      split at h
      · cases h
      · split at h
        · rename_i n'' hinsert
          cases h
          obtain ⟨hdomain, hmem⟩ := of_insert? hinsert
          obtain ⟨rfl, hkey⟩ := Text.splitFirst_eq_some_iff.1 hcut
          simp only [List.mem_append, List.mem_cons, not_or] at hpart
          refine ⟨hdomain ▸ hn.domain, fun p hp => ?_, fun p hp => ?_⟩ <;>
            rcases hmem p hp with rfl | hp
          · simpa using ⟨hkey, hpart.1⟩
          · exact hn.key p hp
          · simpa using hpart.2.2
          · exact hn.value p hp
        · cases h

theorem Separable.readParts {text : List Char} {ps : List (List Char)} {n n' : ObjectName}
    (hn : n.Separable) (hps : ∀ p ∈ ps, ',' ∉ p)
    (h : ps.foldlM (ObjectName.readPart text) n = .ok n') : n'.Separable := by
  induction ps generalizing n with
  | nil =>
      cases h
      exact hn
  | cons p ps ih =>
      rw [List.foldlM_cons] at h
      obtain ⟨k, hp, h⟩ := except_bind_eq_ok_iff.1 h
      exact ih (hn.readPart (hps p (by simp)) hp) (fun q hq => hps q (by simp [hq])) h

theorem comma_notMem_keyParts {cs part : List Char} (h : part ∈ keyParts cs) : ',' ∉ part := by
  obtain ⟨piece, hpiece, rfl⟩ := List.mem_map.1 (List.mem_filter.1 h).1
  exact fun hc => Text.notMem_of_mem_pieces hpiece (Text.mem_of_mem_trim hc)

/-- Every name that can be read is separable. -/
theorem separable_of_read {s : String} {n : ObjectName} (h : read s = .ok n) : n.Separable := by
  unfold read readChars at h
  split at h
  · cases h
    exact separable_empty
  · split at h
    · cases h
    · rename_i domain keyList hcut
      have hdomain : ':' ∉ domain := (Text.splitFirst_eq_some_iff.1 hcut).2
      have hstart : Separable { empty with domain := String.ofList domain } := by
        constructor <;> simp [empty, hdomain]
      obtain ⟨k, hread, h⟩ := except_bind_eq_ok_iff.1 h
      split at h
      · cases h
      · cases h
        exact hstart.readParts (fun _ => comma_notMem_keyParts) hread

/-- Names that were read have different texts. -/
theorem eq_of_text_eq {s t : String} {n m : ObjectName} (hn : read s = .ok n)
    (hm : read t = .ok m) (h : n.text = m.text) : n = m :=
  (separable_of_read hn).eq_of_text_eq (separable_of_read hm) h

end ObjectName

end EndpointMonitor
