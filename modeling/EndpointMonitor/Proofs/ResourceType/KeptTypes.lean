import EndpointMonitor.Proofs.ResourceType.Levels
import Mathlib.Data.List.Nodup

/-!
# The types that a type graph is built of

A type graph is built unless a name is declared twice by the sets in use. It then keeps exactly the
types of enabled sets from which a chain of declared parents leads up to a type without parents,
without the measurements that are too frequent.
-/

namespace EndpointMonitor

variable {L : Type}

theorem firstRepeated?_eq_none_iff {seen names : List String} :
    firstRepeated? seen names = none ↔ names.Nodup ∧ ∀ name ∈ names, name ∉ seen := by
  induction names generalizing seen with
  | nil => simp [firstRepeated?]
  | cons name rest ih =>
      rw [firstRepeated?, List.nodup_cons, List.forall_mem_cons]
      by_cases hseen : name ∈ seen
      · simp [hseen]
      · rw [if_neg fun hmem => hseen (List.contains_iff_mem.1 hmem), ih]
        simp only [List.mem_cons, not_or]
        constructor
        · rintro ⟨hnodup, hrest⟩
          exact ⟨⟨fun hmem => (hrest name hmem).1 rfl, hnodup⟩, hseen,
            fun n hn => (hrest n hn).2⟩
        · rintro ⟨⟨hname, hnodup⟩, -, hrest⟩
          exact ⟨hnodup, fun n hn => ⟨fun heq => hname (heq ▸ hn), hrest n hn⟩⟩

/-- Whether a set is in use: all of them are, or those of the given names. -/
def TypeSet.isInUse (use : Option (List String)) (s : TypeSet L) : Bool :=
  use.all fun names => names.contains s.name

/-- The names of the types of all sets in use, in order. -/
def namesInUse (sets : List (TypeSet L)) (use : Option (List String)) : List String :=
  ((sets.filter (TypeSet.isInUse use)).flatMap (·.types)).map (·.name)

namespace TypeGraph

/-- The type is one of an enabled set in use. -/
def Offered (sets : List (TypeSet L)) (use : Option (List String)) (t : ResourceType L) : Prop :=
  ∃ s ∈ sets, s.isInUse use = true ∧ s.enabled = true ∧ t ∈ s.types

/-- A chain of declared parents leads from the name up to a type without parents, through types of
enabled sets in use. -/
inductive LeadsUp (sets : List (TypeSet L)) (use : Option (List String)) : String → Prop
  | root {t} (ht : Offered sets use t) (hroot : t.parents = []) : LeadsUp sets use t.name
  | child {t p} (ht : Offered sets use t) (hp : p ∈ t.parents) (h : LeadsUp sets use p) :
      LeadsUp sets use t.name

/-- The graph has exactly the types that lead up to a type without parents, linked and listed as
they are declared. -/
structure KeepsDerivable (sets : List (TypeSet L)) (use : Option (List String)) (min : UInt64)
    (g : TypeGraph L) : Prop where
  get?_isSome_iff : ∀ name, (g.get? name).isSome = true ↔ LeadsUp sets use name
  get?_eq : ∀ t, Offered sets use t → LeadsUp sets use t.name → g.get? t.name = some { t with
    metrics := t.metrics.filter fun m => min ≤ m.interval.millis
    avails := t.avails.filter fun a => min ≤ a.interval.millis }
  mem_rootTypes_iff : ∀ t, t ∈ g.rootTypes ↔ g.get? t.name = some t ∧ t.parents = []
  mem_childTypes_iff : ∀ name t, t ∈ g.childTypes name ↔
    (g.get? name).isSome = true ∧ g.get? t.name = some t ∧ name ∈ t.parents
  mem_breadthFirst_iff : ∀ t, t ∈ g.breadthFirst ↔ g.get? t.name = some t
  nodup_breadthFirst : (g.breadthFirst.map (·.name)).Nodup

section Declarations

variable {sets : List (TypeSet L)} {use : Option (List String)}

theorem ofSets_eq (sets : List (TypeSet L)) (use : Option (List String)) :
    Declaration.ofSets sets use = (sets.filter (TypeSet.isInUse use)).flatMap fun s =>
      s.types.map fun t => ⟨s.name, s.enabled, t⟩ := by
  cases use <;> rfl

theorem map_name_ofSets (sets : List (TypeSet L)) (use : Option (List String)) :
    (Declaration.ofSets sets use).map (·.type.name) = namesInUse sets use := by
  simp [ofSets_eq, namesInUse, List.map_flatMap, Function.comp_def]

theorem offered_iff {t : ResourceType L} :
    Offered sets use t ↔ ∃ d ∈ Declaration.ofSets sets use, d.enabled = true ∧ d.type = t := by
  simp only [ofSets_eq, List.mem_flatMap, List.mem_filter, List.mem_map, Offered]
  constructor
  · rintro ⟨s, hs, huse, hon, ht⟩
    exact ⟨⟨s.name, s.enabled, t⟩, ⟨s, ⟨hs, huse⟩, t, ht, rfl⟩, hon, rfl⟩
  · rintro ⟨_, ⟨s, ⟨hs, huse⟩, t, ht, rfl⟩, hon, rfl⟩
    exact ⟨s, hs, huse, hon, ht⟩

theorem declared_ofSets_iff (name : String) :
    Declared (Declaration.ofSets sets use) name ↔ LeadsUp sets use name := by
  constructor
  · intro h
    induction h with
    | root hd hon hroot =>
        exact .root (offered_iff.2 ⟨_, hd, hon, rfl⟩) (List.isEmpty_iff.1 hroot)
    | child hd hon hp _ ih => exact .child (offered_iff.2 ⟨_, hd, hon, rfl⟩) hp ih
  · intro h
    induction h with
    | root ht hroot =>
        obtain ⟨d, hd, hon, rfl⟩ := offered_iff.1 ht
        exact .root hd hon (List.isEmpty_iff.2 hroot)
    | child ht hp _ ih =>
        obtain ⟨d, hd, hon, rfl⟩ := offered_iff.1 ht
        exact .child hd hon hp ih

end Declarations

section Build

variable {sets : List (TypeSet L)} {use : Option (List String)} {min : UInt64} {g : TypeGraph L}

/-- A type graph is built exactly if no name is declared twice. -/
theorem build_cases (sets : List (TypeSet L)) (use : Option (List String)) (min : UInt64) :
    (∃ name, build sets use min = .error (.duplicateResourceType name) ∧
      ¬ (namesInUse sets use).Nodup) ∨
    (namesInUse sets use).Nodup ∧ ∃ g, build sets use min = .ok g := by
  have repeated := @firstRepeated?_eq_none_iff [] (namesInUse sets use)
  unfold build
  simp only [map_name_ofSets]
  split
  · rename_i name hname
    refine Or.inl ⟨name, rfl, fun hnodup => ?_⟩
    rw [repeated.2 ⟨hnodup, by simp⟩] at hname
    cases hname
  · rename_i hnone
    exact Or.inr ⟨(repeated.1 hnone).1, _, rfl⟩

/-- No two kept types have one name. -/
theorem nodup_types_build (h : build sets use min = .ok g) : (g.types.map (·.name)).Nodup := by
  obtain ⟨name, herror, -⟩ | ⟨hnodup, -⟩ := build_cases sets use min
  · rw [h] at herror
    cases herror
  · have perm : ((candidates min (Declaration.ofSets sets use)).map (·.name)).Perm
        ((((Declaration.ofSets sets use).filter (·.enabled)).map fun d =>
          d.type.withoutShortIntervals min).map (·.name)) :=
      (List.mergeSort_perm _ _).map _
    have sub : ((((Declaration.ofSets sets use).filter (·.enabled)).map fun d =>
        d.type.withoutShortIntervals min).map (·.name)).Sublist (namesInUse sets use) := by
      rw [List.map_map, ← map_name_ofSets]
      exact List.filter_sublist.map _
    rw [types_of_build h]
    exact (List.filter_sublist.map _).nodup (perm.nodup_iff.2 (sub.nodup hnodup))

theorem get?_eq_some_iff (h : (g.types.map (·.name)).Nodup) {name : String}
    {t : ResourceType L} : g.get? name = some t ↔ t ∈ g.types ∧ t.name = name := by
  unfold get?
  constructor
  · intro hfind
    exact ⟨List.mem_of_find?_eq_some hfind, by simpa using List.find?_some hfind⟩
  · rintro ⟨ht, rfl⟩
    obtain ⟨u, hu⟩ : ∃ u, (g.types.find? fun u => u.name == t.name) = some u :=
      Option.isSome_iff_exists.1 (List.find?_isSome.2 ⟨t, ht, by simp⟩)
    have hname : u.name = t.name := by simpa using List.find?_some hu
    rw [hu, List.inj_on_of_nodup_map h (List.mem_of_find?_eq_some hu) ht hname]

end Build

section Listing

variable {sets : List (TypeSet L)} {use : Option (List String)} {min : UInt64} {g : TypeGraph L}

theorem mem_types_build_of_offered (h : build sets use min = .ok g) {t : ResourceType L}
    (ht : Offered sets use t) (hname : LeadsUp sets use t.name) :
    t.withoutShortIntervals min ∈ g.types := by
  obtain ⟨d, hd, hon, rfl⟩ := offered_iff.1 ht
  exact (mem_types_build_iff h _).2 ⟨(declared_ofSets_iff _).2 hname, d, hd, hon, rfl⟩

/-- Every name that leads up to a type without parents is listed, from the roots down. -/
theorem mem_breadthFirst_of_leadsUp (h : build sets use min = .ok g) {name : String}
    (hname : LeadsUp sets use name) : name ∈ g.breadthFirst.map (·.name) := by
  have unseen : ∀ {t}, t ∈ g.types → t.name ∈ g.types.map (·.name) := fun ht =>
    List.mem_map_of_mem ht
  induction hname with
  | @root t ht hroot =>
      have hkept := mem_types_build_of_offered h ht (.root ht hroot)
      refine mem_visit_of_unseen (c := t.withoutShortIntervals min) (unseen hkept) (Or.inl ?_)
      exact List.mem_filter.2 ⟨hkept, List.isEmpty_iff.2 hroot⟩
  | @child t p ht hp hparent ih =>
      have hkept := mem_types_build_of_offered h ht (.child ht hp hparent)
      obtain ⟨u, hu, rfl⟩ := List.mem_map.1 ih
      have hu' : u ∈ g.types := mem_types_of_mem_visit (fun v hv => (List.mem_filter.1 hv).1) hu
      refine mem_visit_of_unseen (c := t.withoutShortIntervals min) (unseen hkept) (Or.inr ?_)
      exact ⟨u, hu, (g.mem_childTypes_iff u.name _).2 ⟨⟨u, hu', rfl⟩, hkept, hp⟩⟩

theorem keepsDerivable_build (h : build sets use min = .ok g) :
    KeepsDerivable sets use min g := by
  have hnodup := nodup_types_build h
  have get?_iff : ∀ {name t}, g.get? name = some t ↔ t ∈ g.types ∧ t.name = name :=
    get?_eq_some_iff hnodup
  have stored_iff : ∀ t, g.get? t.name = some t ↔ t ∈ g.types := fun t =>
    get?_iff.trans (and_iff_left rfl)
  have isSome_iff : ∀ name, (g.get? name).isSome = true ↔ ∃ t ∈ g.types, t.name = name := by
    intro name
    rw [Option.isSome_iff_exists]
    exact exists_congr fun t => get?_iff
  have leadsUp : ∀ {t}, t ∈ g.types → LeadsUp sets use t.name := fun ht =>
    (declared_ofSets_iff _).1 ((mem_types_build_iff h _).1 ht).1
  have listed : ∀ {t}, t ∈ g.breadthFirst → t ∈ g.types := fun ht =>
    mem_types_of_mem_visit (fun v hv => (List.mem_filter.1 hv).1) ht
  refine ⟨fun name => ?_, fun t ht hname => ?_, fun t => ?_, fun name t => ?_, fun t => ?_, ?_⟩
  · rw [isSome_iff]
    constructor
    · rintro ⟨t, ht, rfl⟩
      exact leadsUp ht
    · intro hname
      obtain ⟨t, ht, hlisted⟩ := List.mem_map.1 (mem_breadthFirst_of_leadsUp h hname)
      exact ⟨t, listed ht, hlisted⟩
  · exact get?_iff.2 ⟨mem_types_build_of_offered h ht hname, rfl⟩
  · rw [stored_iff, rootTypes, List.mem_filter, ResourceType.isRoot, List.isEmpty_iff]
  · rw [stored_iff, isSome_iff]
    exact g.mem_childTypes_iff name t
  · rw [stored_iff]
    refine ⟨listed, fun ht => ?_⟩
    obtain ⟨u, hu, hname⟩ := List.mem_map.1 (mem_breadthFirst_of_leadsUp h (leadsUp ht))
    rwa [← List.inj_on_of_nodup_map hnodup (listed hu) ht hname]
  · exact (nodup_visit hnodup).1

/-- Building a type graph is refused exactly if some name is declared twice by the sets in use.
Otherwise the graph has exactly the types that lead up to a type without parents. -/
theorem build_keeps_derivable (sets : List (TypeSet L)) (use : Option (List String))
    (min : UInt64) :
    ((∃ name, build sets use min = .error (.duplicateResourceType name)) ↔
      ∃ name, 2 ≤ (namesInUse sets use).count name) ∧
    ((∃ name, 2 ≤ (namesInUse sets use).count name) ∨
      ∃ g, build sets use min = .ok g ∧ KeepsDerivable sets use min g) := by
  have repeated : (∃ name, 2 ≤ (namesInUse sets use).count name) ↔
      ¬ (namesInUse sets use).Nodup := by
    simp [List.nodup_iff_count_le_one, Nat.lt_iff_add_one_le]
  rw [repeated]
  rcases build_cases sets use min with ⟨name, herror, hdup⟩ | ⟨hnodup, g, hg⟩
  · exact ⟨iff_of_true ⟨name, herror⟩ hdup, Or.inl hdup⟩
  · refine ⟨iff_of_false ?_ (not_not_intro hnodup), Or.inr ⟨g, hg, keepsDerivable_build hg⟩⟩
    rintro ⟨name, herror⟩
    rw [hg] at herror
    cases herror

end Listing

end TypeGraph

end EndpointMonitor
