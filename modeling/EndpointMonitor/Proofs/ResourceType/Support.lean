import EndpointMonitor.Proofs.Runs
import EndpointMonitor.ResourceType.Graph

/-!
# Which types a type graph keeps

A type is supported if a chain of declared parents leads from it to a type without parents.
The rounds of the search find more names each time until they find no more, so as many rounds
as there are types find all supported names. Hence the links between the types that are kept
are exactly the declared ones between supported types.
-/

namespace EndpointMonitor.TypeGraph

open Relation

variable {L : Type} {types : List (ResourceType L)}

/-- The names of the types that lead up to a type without parents. -/
inductive Supported (types : List (ResourceType L)) : String → Prop
  | root {t} (ht : t ∈ types) (hroot : t.isRoot = true) : Supported types t.name
  | child {t p} (ht : t ∈ types) (hp : p ∈ t.parents) (h : Supported types p) :
      Supported types t.name

section Rounds

theorem mem_grow_iff (types : List (ResourceType L)) (names : List String) (x : String) :
    x ∈ grow types names ↔
      ∃ t ∈ types, (t.isRoot = true ∨ ∃ p ∈ t.parents, p ∈ names) ∧ t.name = x := by
  simp [grow, and_assoc]

theorem grow_sublist (types : List (ResourceType L)) {names names' : List String}
    (h : names ⊆ names') : (grow types names).Sublist (grow types names') := by
  refine (List.monotone_filter_right types fun t ht => ?_).map _
  rw [Bool.or_eq_true, List.any_eq_true] at ht ⊢
  rcases ht with hroot | ⟨p, hp, hmem⟩
  · exact Or.inl hroot
  · rw [List.contains_iff_mem] at hmem
    exact Or.inr ⟨p, hp, List.contains_iff_mem.2 (h hmem)⟩

theorem reached_sublist_succ (types : List (ResourceType L)) (n : Nat) :
    (reached types n).Sublist (reached types (n + 1)) := by
  induction n with
  | zero => exact List.nil_sublist _
  | succ n ih => exact grow_sublist types ih.subset

/-- A round finds nothing new, or every round so far has found some name. -/
theorem reached_succ_eq_or_lt (types : List (ResourceType L)) (n : Nat) :
    reached types (n + 1) = reached types n ∨ n < (reached types (n + 1)).length := by
  induction n with
  | zero =>
      by_cases h : reached types 1 = []
      · exact Or.inl h
      · exact Or.inr (List.length_pos_iff.2 h)
  | succ n ih =>
      rcases ih with heq | hlt
      · exact Or.inl (congrArg (grow types) heq)
      · have sub : (reached types (n + 1)).Sublist (reached types (n + 2)) :=
          reached_sublist_succ types (n + 1)
        by_cases heq : reached types (n + 2) = reached types (n + 1)
        · exact Or.inl heq
        · have hne : (reached types (n + 1)).length ≠ (reached types (n + 2)).length :=
            fun hlen => heq (sub.eq_of_length hlen).symm
          have hle := sub.length_le
          exact Or.inr (show n + 1 < (reached types (n + 2)).length by omega)

/-- One more round than there are types finds nothing new. -/
theorem grow_reachable (types : List (ResourceType L)) :
    grow types (reachable types) = reachable types := by
  refine (reached_succ_eq_or_lt types types.length).resolve_right (Nat.not_lt.2 ?_)
  rw [reached, grow, List.length_map]
  exact List.length_filter_le _ _

theorem supported_of_mem_reached {n : Nat} {x : String} (h : x ∈ reached types n) :
    Supported types x := by
  induction n generalizing x with
  | zero => simp [reached] at h
  | succ n ih =>
      obtain ⟨t, ht, hroot | ⟨p, hp, hmem⟩, rfl⟩ := (mem_grow_iff types _ x).1 h
      · exact .root ht hroot
      · exact .child ht hp (ih hmem)

/-- The search finds exactly the supported names. -/
theorem mem_reachable_iff (types : List (ResourceType L)) (x : String) :
    x ∈ reachable types ↔ Supported types x := by
  refine ⟨supported_of_mem_reached, fun h => ?_⟩
  induction h with
  | root ht hroot =>
      rw [← grow_reachable, mem_grow_iff]
      exact ⟨_, ht, Or.inl hroot, rfl⟩
  | child ht hp _ ih =>
      rw [← grow_reachable, mem_grow_iff]
      exact ⟨_, ht, Or.inr ⟨_, hp, ih⟩, rfl⟩

theorem mem_keptTypes_iff (types : List (ResourceType L)) (t : ResourceType L) :
    t ∈ keptTypes types ↔ t ∈ types ∧ Supported types t.name := by
  unfold keptTypes
  rw [List.mem_filter, List.contains_iff_mem, mem_reachable_iff]

end Rounds

section Children

variable (g : TypeGraph L)

theorem mem_childTypes_iff (name : String) (t : ResourceType L) :
    t ∈ g.childTypes name ↔
      (∃ u ∈ g.types, u.name = name) ∧ t ∈ g.types ∧ name ∈ t.parents := by
  unfold childTypes get?
  by_cases hname : ∃ u ∈ g.types, u.name = name
  · have hfound : (g.types.find? fun u => u.name == name).isSome = true := by
      rw [List.find?_isSome]
      simpa using hname
    rw [if_pos hfound]
    simp only [List.mem_flatMap, List.mem_replicate, and_iff_right hname]
    constructor
    · rintro ⟨u, hu, hcount, rfl⟩
      exact ⟨hu, List.count_pos_iff.1 (Nat.pos_of_ne_zero hcount)⟩
    · rintro ⟨ht, hmem⟩
      exact ⟨t, ht, Nat.ne_of_gt (List.count_pos_iff.2 hmem), rfl⟩
  · have hmissing : ¬ (g.types.find? fun u => u.name == name).isSome = true := by
      rw [List.find?_isSome]
      simpa using hname
    rw [if_neg hmissing]
    simp [hname]

/-- The second name is one of a child type of the first. -/
def Child (p c : String) : Prop :=
  ∃ t ∈ g.childTypes p, t.name = c

/-- No type is below itself. -/
def Acyclic : Prop :=
  ∀ name, ¬ TransGen g.Child name name

end Children

section Build

variable {ds : List (Declaration L)} {min : UInt64}

/-- The names of the types of enabled sets that lead up to a type without parents. -/
inductive Declared (ds : List (Declaration L)) : String → Prop
  | root {d} (hd : d ∈ ds) (hon : d.enabled = true) (hroot : d.type.isRoot = true) :
      Declared ds d.type.name
  | child {d p} (hd : d ∈ ds) (hon : d.enabled = true) (hp : p ∈ d.type.parents)
      (h : Declared ds p) : Declared ds d.type.name

/-- A type of an enabled set declares the first name as a parent of the second. -/
def ParentOf (ds : List (Declaration L)) (p c : String) : Prop :=
  ∃ d ∈ ds, d.enabled = true ∧ d.type.name = c ∧ p ∈ d.type.parents

theorem mem_candidates_iff (t : ResourceType L) :
    t ∈ candidates min ds ↔
      ∃ d ∈ ds, d.enabled = true ∧ d.type.withoutShortIntervals min = t := by
  simp [candidates, and_assoc]

theorem supported_candidates_iff (x : String) :
    Supported (candidates min ds) x ↔ Declared ds x := by
  constructor
  · intro h
    induction h with
    | root ht hroot =>
        obtain ⟨d, hd, hon, rfl⟩ := (mem_candidates_iff _).1 ht
        exact .root hd hon hroot
    | child ht hp _ ih =>
        obtain ⟨d, hd, hon, rfl⟩ := (mem_candidates_iff _).1 ht
        exact .child hd hon hp ih
  · intro h
    induction h with
    | @root d hd hon hroot =>
        exact .root (t := d.type.withoutShortIntervals min)
          ((mem_candidates_iff _).2 ⟨d, hd, hon, rfl⟩) hroot
    | @child d p hd hon hp _ ih =>
        exact .child (t := d.type.withoutShortIntervals min)
          ((mem_candidates_iff _).2 ⟨d, hd, hon, rfl⟩) hp ih

variable {sets : List (TypeSet L)} {use : Option (List String)} {g : TypeGraph L}

theorem types_of_build (h : build sets use min = .ok g) :
    g.types = keptTypes (candidates min (Declaration.ofSets sets use)) := by
  simp only [build] at h
  split at h
  · cases h
  · cases h
    rfl

theorem mem_types_build_iff (h : build sets use min = .ok g) (t : ResourceType L) :
    t ∈ g.types ↔ Declared (Declaration.ofSets sets use) t.name ∧
      ∃ d ∈ Declaration.ofSets sets use,
        d.enabled = true ∧ d.type.withoutShortIntervals min = t := by
  rw [types_of_build h, mem_keptTypes_iff, mem_candidates_iff, supported_candidates_iff,
    and_comm]

/-- The links between the types that are kept are the declared ones below supported types. -/
theorem child_build_iff (h : build sets use min = .ok g) (p c : String) :
    g.Child p c ↔ Declared (Declaration.ofSets sets use) p ∧
      ParentOf (Declaration.ofSets sets use) p c := by
  have mem := mem_types_build_iff h
  constructor
  · rintro ⟨t, ht, rfl⟩
    obtain ⟨⟨u, hu, rfl⟩, ht, hp⟩ := (g.mem_childTypes_iff p t).1 ht
    obtain ⟨-, d, hd, hon, rfl⟩ := (mem t).1 ht
    exact ⟨((mem u).1 hu).1, d, hd, hon, rfl, hp⟩
  · rintro ⟨hsupported, d, hd, hon, rfl, hp⟩
    have kept : ∀ {e : Declaration L}, e ∈ Declaration.ofSets sets use → e.enabled = true →
        Declared (Declaration.ofSets sets use) e.type.name →
        e.type.withoutShortIntervals min ∈ g.types := fun he hon hname =>
      (mem _).2 ⟨hname, _, he, hon, rfl⟩
    refine ⟨d.type.withoutShortIntervals min, (g.mem_childTypes_iff p _).2
      ⟨?_, kept hd hon (.child hd hon hp hsupported), hp⟩, rfl⟩
    cases hsupported with
    | root he hon' hroot => exact ⟨_, kept he hon' (.root he hon' hroot), rfl⟩
    | child he hon' hq hsup => exact ⟨_, kept he hon' (.child he hon' hq hsup), rfl⟩

theorem declared_of_parentOf {ds : List (Declaration L)} {p c : String} (hp : Declared ds p)
    (hpc : ParentOf ds p c) : Declared ds c := by
  obtain ⟨d, hd, hon, rfl, hmem⟩ := hpc
  exact .child hd hon hmem hp

/-- A type graph is free of cycles exactly if no supported type is its own ancestor. -/
theorem acyclic_build_iff (h : build sets use min = .ok g) :
    g.Acyclic ↔ ∀ name, Declared (Declaration.ofSets sets use) name →
      ¬ TransGen (ParentOf (Declaration.ofSets sets use)) name name := by
  constructor
  · intro hacyclic name hname loop
    have chain : ∀ {x}, TransGen (ParentOf (Declaration.ofSets sets use)) name x →
        TransGen g.Child name x ∧ Declared (Declaration.ofSets sets use) x := by
      intro x hx
      induction hx with
      | single step =>
          exact ⟨.single ((child_build_iff h _ _).2 ⟨hname, step⟩), declared_of_parentOf hname step⟩
      | tail _ step ih =>
          exact ⟨ih.1.tail ((child_build_iff h _ _).2 ⟨ih.2, step⟩),
            declared_of_parentOf ih.2 step⟩
    exact hacyclic name (chain loop).1
  · intro hfree name loop
    obtain ⟨c, hc, -⟩ := TransGen.head'_iff.1 loop
    refine hfree name ((child_build_iff h _ _).1 hc).1 ?_
    exact TransGen.mono (fun p c hpc => ((child_build_iff h p c).1 hpc).2) _ _ loop

end Build

section Order

variable {g : TypeGraph L}

/-- Types whose parents all have smaller names have no cycle. -/
theorem acyclic_of_parents_lt (h : ∀ t ∈ g.types, ∀ p ∈ t.parents, p < t.name) : g.Acyclic := by
  have down : ∀ {p c}, TransGen g.Child p c → p < c := by
    intro p c hpc
    refine TransGen.trans_induction_on hpc ?_ fun _ _ => String.lt_trans
    rintro p c ⟨t, ht, rfl⟩
    obtain ⟨-, ht, hp⟩ := (g.mem_childTypes_iff p t).1 ht
    exact h t ht p hp
  exact fun name loop => String.lt_irrefl name (down loop)

/-- Without cycles there is no endless way down, as there are finitely many types. -/
theorem Acyclic.wellFounded (h : g.Acyclic) : WellFounded fun c p => g.Child p c := by
  refine wellFounded_of_loopless (l := g.types.map (·.name)) ?_ fun name loop => ?_
  · rintro c p ⟨t, ht, rfl⟩
    obtain ⟨⟨u, hu, rfl⟩, ht, -⟩ := (g.mem_childTypes_iff p t).1 ht
    exact ⟨List.mem_map_of_mem ht, List.mem_map_of_mem hu⟩
  · exact h name (transGen_swap.1 loop)

end Order

end EndpointMonitor.TypeGraph
