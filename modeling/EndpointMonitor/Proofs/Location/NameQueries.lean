import EndpointMonitor.Proofs.Location.KeyLists
import EndpointMonitor.Proofs.Location.ValuePatterns
import EndpointMonitor.Proofs.Resource.Calls

/-!
# What a query for object names addresses

A query addresses the names whose domain and values its patterns are spelled out to, and whose keys
it has, unless it is open at its end. It selects these names, and no others, exactly if each of its
patterns has the same meaning as a glob.
-/

namespace EndpointMonitor.ObjectName

open Pattern Text

variable {query candidate : ObjectName} {R S : String → String → Prop}

/-- A name fits a query that allows some values for its domain and for each of its keys. -/
structure Fits (R : String → String → Prop) (query candidate : ObjectName) : Prop where
  domain : R query.domain candidate.domain
  closed : query.openEnded = true ∨
    ∀ s ∈ candidate.properties, ∃ p ∈ query.properties, p.key = s.key
  values : ∀ p ∈ query.properties, ∃ s ∈ candidate.properties, s.key = p.key ∧ R p.value s.value

/-- A query addresses the names that its patterns are spelled out to. -/
abbrev Addresses (query candidate : ObjectName) : Prop :=
  Fits SpellsValue query candidate

/-- The domain and the values of a name. -/
def fields (n : ObjectName) : List String :=
  n.domain :: n.properties.map (·.value)

section Covering

/-- A name has one property for a key. -/
theorem eq_of_key_eq (n : ObjectName) {p s : Segment} (hp : p ∈ n.properties)
    (hs : s ∈ n.properties) (h : p.key = s.key) : p = s :=
  List.inj_on_of_nodup_map (nodup_keys n.sorted) hp hs h

theorem property?_eq_some_iff {n : ObjectName} {key value : String} :
    n.property? key = some value ↔ ⟨key, value⟩ ∈ n.properties := by
  rw [property?, Option.map_eq_some_iff]
  constructor
  · rintro ⟨s, hfound, rfl⟩
    obtain rfl : s.key = key := by simpa using List.find?_some hfound
    exact List.mem_of_find?_eq_some hfound
  · intro hmem
    cases hfound : n.properties.find? (·.key == key) with
    | none => simpa using List.find?_eq_none.1 hfound _ hmem
    | some s =>
        have hkey : s.key = key := by simpa using List.find?_some hfound
        have heq := n.eq_of_key_eq (List.mem_of_find?_eq_some hfound) hmem hkey
        exact ⟨s, rfl, by rw [heq]⟩

/-- With the keys of a query among its own, a name has no others exactly if it has as many. -/
theorem length_eq_iff_of_keys
    (h : ∀ p ∈ query.properties, ∃ s ∈ candidate.properties, s.key = p.key) :
    query.properties.length = candidate.properties.length ↔
      ∀ s ∈ candidate.properties, ∃ p ∈ query.properties, p.key = s.key := by
  have hsub : query.properties.map (·.key) ⊆ candidate.properties.map (·.key) := by
    intro key hkey
    obtain ⟨p, hp, rfl⟩ := List.mem_map.1 hkey
    exact List.mem_map.2 (h p hp)
  have hsubperm := List.subperm_of_subset (nodup_keys query.sorted) hsub
  rw [← List.length_map (fun p : Segment => p.key), ← List.length_map (fun s : Segment => s.key)]
  constructor
  · intro hlength s hs
    have hperm := hsubperm.perm_of_length_le hlength.ge
    exact List.mem_map.1 (hperm.mem_iff.2 (List.mem_map_of_mem hs))
  · intro hkeys
    refine le_antisymm hsubperm.length_le (List.Subperm.length_le ?_)
    refine List.subperm_of_subset (nodup_keys candidate.sorted) fun key hkey => ?_
    obtain ⟨s, hs, rfl⟩ := List.mem_map.1 hkey
    exact List.mem_map.2 (hkeys s hs)

/-- What a query covers fits it value by value. -/
theorem covers_iff_fits :
    covers query candidate = true ↔ Fits (fun p v => allows p v = true) query candidate := by
  have hvalues : propertiesCover query candidate = true ↔ ∀ p ∈ query.properties,
      ∃ s ∈ candidate.properties, s.key = p.key ∧ allows p.value s.value = true := by
    rw [propertiesCover, List.all_eq_true]
    refine forall₂_congr fun p hp => ?_
    constructor
    · intro hp
      split at hp
      · rename_i value hvalue
        exact ⟨_, property?_eq_some_iff.1 hvalue, rfl, hp⟩
      · cases hp
    · rintro ⟨s, hs, hkey, hallows⟩
      rw [property?_eq_some_iff.2 (show ⟨p.key, s.value⟩ ∈ candidate.properties from hkey ▸ hs)]
      exact hallows
  have hlength : propertiesCover query candidate = true →
      (query.properties.length = candidate.properties.length ↔
        ∀ s ∈ candidate.properties, ∃ p ∈ query.properties, p.key = s.key) := fun h =>
    length_eq_iff_of_keys fun p hp => by
      obtain ⟨s, hs, hkey, -⟩ := hvalues.1 h p hp
      exact ⟨s, hs, hkey⟩
  simp only [covers, Bool.and_eq_true, Bool.or_eq_true, beq_iff_eq]
  constructor
  · rintro ⟨⟨hdomain, hkeys⟩, hcover⟩
    exact ⟨hdomain, hkeys.imp_right (hlength hcover).1, hvalues.1 hcover⟩
  · rintro ⟨hdomain, hkeys, hall⟩
    have hcover := hvalues.2 hall
    exact ⟨⟨hdomain, hkeys.imp_right (hlength hcover).2⟩, hcover⟩

end Covering

section Values

theorem Fits.congr (h : ∀ p ∈ query.fields, ∀ v ∈ candidate.fields, R p v ↔ S p v) :
    Fits R query candidate ↔ Fits S query candidate := by
  have hdomain := h query.domain (by simp [fields]) candidate.domain (by simp [fields])
  have hvalue : ∀ p ∈ query.properties, ∀ s ∈ candidate.properties,
      (R p.value s.value ↔ S p.value s.value) := fun p hp s hs =>
    h p.value (List.mem_cons_of_mem _ (List.mem_map_of_mem hp)) s.value
      (List.mem_cons_of_mem _ (List.mem_map_of_mem hs))
  constructor
  · rintro ⟨hd, hkeys, hall⟩
    refine ⟨hdomain.1 hd, hkeys, fun p hp => ?_⟩
    obtain ⟨s, hs, hkey, hR⟩ := hall p hp
    exact ⟨s, hs, hkey, (hvalue p hp s hs).1 hR⟩
  · rintro ⟨hd, hkeys, hall⟩
    refine ⟨hdomain.2 hd, hkeys, fun p hp => ?_⟩
    obtain ⟨s, hs, hkey, hS⟩ := hall p hp
    exact ⟨s, hs, hkey, (hvalue p hp s hs).2 hS⟩

/-- A name with the keys of a query and with some values for them. -/
def withValues (query : ObjectName) (domain : String) (value : String → String) : ObjectName where
  domain := domain
  properties := query.properties.map fun p => ⟨p.key, value p.key⟩
  openEnded := false
  sorted := List.pairwise_map.2 query.sorted

theorem fits_withValues_iff {domain : String} {value : String → String} :
    Fits R query (query.withValues domain value) ↔
      R query.domain domain ∧ ∀ p ∈ query.properties, R p.value (value p.key) := by
  constructor
  · rintro ⟨hdomain, -, hvalues⟩
    refine ⟨hdomain, fun p hp => ?_⟩
    obtain ⟨s, hs, hkey, hR⟩ := hvalues p hp
    obtain ⟨q, hq, rfl⟩ := List.mem_map.1 hs
    exact hkey ▸ hR
  · rintro ⟨hdomain, hvalues⟩
    refine ⟨hdomain, Or.inr fun s hs => ?_, fun p hp => ?_⟩
    · obtain ⟨p, hp, rfl⟩ := List.mem_map.1 hs
      exact ⟨p, hp, rfl⟩
    · exact ⟨_, List.mem_map_of_mem hp, rfl, hvalues p hp⟩

/-- If all values but one are allowed, only this one matters. -/
theorem forall_update_iff {value : String → String}
    (h : ∀ p ∈ query.properties, R p.value (value p.key)) {p : Segment} (hp : p ∈ query.properties)
    (v : String) : (∀ q ∈ query.properties, R q.value (Function.update value p.key v q.key)) ↔
      R p.value v := by
  constructor
  · intro hall
    simpa using hall p hp
  · intro hv q hq
    by_cases hkey : q.key = p.key
    · rw [query.eq_of_key_eq hq hp hkey, Function.update_self]
      exact hv
    · rw [Function.update_of_ne hkey]
      exact h q hq

/-- Whether the same names fit is decided part by part, if every part of a query allows a value. -/
theorem forall_fits_iff (query : ObjectName) (hsome : ∀ p, ∃ v, S p v) :
    (∀ candidate, Fits R query candidate ↔ Fits S query candidate) ↔
      ∀ p ∈ query.fields, ∀ v, R p v ↔ S p v := by
  refine ⟨fun h => ?_, fun h candidate => Fits.congr fun p hp v _ => h p hp v⟩
  choose value hvalue using hsome
  have agree := fun domain value => fits_withValues_iff.symm.trans
    ((h (query.withValues domain value)).trans fits_withValues_iff)
  obtain ⟨own, hS⟩ : ∃ own : String → String, ∀ p ∈ query.properties, S p.value (own p.key) := by
    refine ⟨fun key => value ((query.property? key).getD ""), fun p hp => ?_⟩
    have hown : query.property? p.key = some p.value := property?_eq_some_iff.2 hp
    simpa only [hown, Option.getD_some] using hvalue p.value
  -- Some name fits, and it still does with another value that its part allows.
  obtain ⟨hdomain, hR⟩ := (agree _ own).2 ⟨hvalue query.domain, hS⟩
  intro p hp v
  rcases List.mem_cons.1 hp with rfl | hp
  · have hboth := agree v own
    simpa only [iff_true_intro hR, iff_true_intro hS, and_true] using hboth
  · obtain ⟨q, hq, rfl⟩ := List.mem_map.1 hp
    have hboth := agree (value query.domain) (Function.update own q.key v)
    rw [forall_update_iff hR hq, forall_update_iff hS hq] at hboth
    simpa only [iff_true_intro hdomain, iff_true_intro (hvalue query.domain), true_and] using hboth

end Values

section Selection

/-- A query finds in a graph what it addresses, and removes this with everything below it. -/
structure SelectsIn (g : ResourceGraph ObjectName) (query : ObjectName) : Prop where
  find_iff : ∀ r, r ∈ g.find query ↔ r ∈ g.depthFirst ∧ query.Addresses r.location
  remove_iff : ∀ s, s ∈ (g.removeCovered query).2 ↔ g.get? s.id = some s ∧
    ∃ r ∈ g.depthFirst, query.Addresses r.location ∧ Relation.ReflTransGen g.Above r.id s.id

/-- A query covers what it addresses, and it selects this in every graph that calls lead to. -/
structure Selects (query : ObjectName) : Prop where
  covers_iff : ∀ candidate, covers query candidate = true ↔ query.Addresses candidate
  selects_in : ∀ calls, SelectsIn (({} : ResourceGraph ObjectName).callAll calls) query

theorem selects_of_covers_iff
    (h : ∀ candidate, covers query candidate = true ↔ query.Addresses candidate) :
    Selects query := by
  refine ⟨h, fun calls => ?_⟩
  have hfind : ∀ r, r ∈ (({} : ResourceGraph ObjectName).callAll calls).find query ↔
      r ∈ (({} : ResourceGraph ObjectName).callAll calls).depthFirst ∧
        query.Addresses r.location := fun r => by
    rw [ResourceGraph.find, List.mem_filter]
    exact and_congr_right fun _ => h r.location
  refine ⟨hfind, fun s => ?_⟩
  simp only [(ResourceGraph.linked_callAll calls).mem_removeCovered_iff query, hfind, and_assoc]

/-- A query selects what it addresses exactly if all its patterns are safe as globs. -/
theorem selects_iff : Selects query ↔
    ∀ p ∈ query.fields, isWild p = true → GlobSafe p.toList := by
  have hsome : ∀ p, ∃ v, SpellsValue p v := fun p =>
    ⟨String.ofList (filled 'a' p.toList), by
      rw [SpellsValue, String.toList_ofList]
      exact spellsChars_filled 'a' p.toList⟩
  have hagrees := forall_fits_iff query (R := fun p v => allows p v = true) hsome
  simp only [← covers_iff_fits] at hagrees
  refine Iff.trans ⟨Selects.covers_iff, selects_of_covers_iff⟩ (hagrees.trans ?_)
  exact forall₂_congr fun p _ => agrees_iff

/-- Names with one byte for each character are selected as they are addressed if the patterns have
no other signs than their wildcards. -/
theorem covers_iff_of_isAscii (hquery : ∀ p ∈ query.fields, isWild p = true → Glob.Plain p.toList)
    (hcandidate : ∀ v ∈ candidate.fields, ∀ c ∈ v.toList, IsAscii c) :
    covers query candidate = true ↔ query.Addresses candidate :=
  covers_iff_fits.trans <| Fits.congr fun p hp v hv =>
    allows_iff_of_isAscii (hquery p hp) (hcandidate v hv)

/-- The glob of a pattern has the meaning of the pattern if and only if the pattern is safe. Queries
with such patterns, and no others, select what they address. On names with one byte for each
character it is enough that there are no other signs. -/
theorem patterns_spelled_iff (p : String) (query : ObjectName) :
    ((∀ v, allows p v = true ↔ SpellsValue p v) ↔ (isWild p = true → GlobSafe p.toList)) ∧
    (Selects query ↔ ∀ q ∈ query.fields, isWild q = true → GlobSafe q.toList) ∧
    ((∀ q ∈ query.fields, isWild q = true → Glob.Plain q.toList) →
      ∀ candidate : ObjectName, (∀ v ∈ candidate.fields, ∀ c ∈ v.toList, IsAscii c) →
        (covers query candidate = true ↔ query.Addresses candidate)) :=
  ⟨agrees_iff, selects_iff, fun hquery _ hcandidate => covers_iff_of_isAscii hquery hcandidate⟩

/-- Brackets mean themselves in an object name, but in a glob they do not. -/
theorem not_selects_brackets :
    let query : ObjectName := ⟨"d", [⟨"type", "a[bc]*"⟩], false, by decide⟩
    let single : ObjectName := ⟨"d", [⟨"type", "a[bc]d"⟩], false, by decide⟩
    isWild "a[bc]*" = true ∧ SpellsValue "a[bc]*" "a[bc]d" ∧ allows "a[bc]*" "a[bc]d" = false ∧
      query.Addresses single ∧ covers query single = false := by
  intro query single
  have hspells : SpellsValue "a[bc]*" "a[bc]d" :=
    ⟨[['a'], ['['], ['b'], ['c'], [']'], ['d']], by simp [StandsFor], rfl⟩
  have haddresses : query.Addresses single := by
    have hdomain : SpellsValue query.domain single.domain :=
      ⟨[['d']], by simp [query, StandsFor], by simp [single]⟩
    refine ⟨hdomain, Or.inr fun s hs => ?_, fun p hp => ?_⟩
    · obtain rfl := List.mem_singleton.1 hs
      exact ⟨_, List.mem_singleton_self _, rfl⟩
    · obtain rfl := List.mem_singleton.1 hp
      exact ⟨_, List.mem_singleton_self _, rfl, hspells⟩
  exact ⟨rfl, hspells, by decide +kernel, haddresses, by decide +kernel⟩

end Selection

end EndpointMonitor.ObjectName
