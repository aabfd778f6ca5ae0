import EndpointMonitor.Resource.Graph
import Mathlib.Data.List.Nodup
import Mathlib.Logic.Relation

/-!
# Links of the resource graph

Each operation on the graph is described by what it does to the stored resources, to the links
from a node to those directly below it, and to the set of nodes at the top. From these three
views it follows that every stored node always has exactly one place: the top, or below the
node that its resource names as its parent.
-/

namespace EndpointMonitor.ResourceGraph

variable {L : Type} {g g' : ResourceGraph L}

theorem mem_insert_iff {s : Std.TreeSet String} {x y : String} :
    x ∈ s.insert y ↔ x = y ∨ x ∈ s := by
  rw [Std.TreeSet.mem_insert, Std.LawfulEqOrd.compare_eq_iff_eq, eq_comm]

theorem mem_erase_iff {s : Std.TreeSet String} {x y : String} :
    x ∈ s.erase y ↔ x ∈ s ∧ x ≠ y := by
  rw [Std.TreeSet.mem_erase, ne_eq, Std.LawfulEqOrd.compare_eq_iff_eq, eq_comm, and_comm]

/-- The second identifier hangs directly below the first. -/
def Above (g : ResourceGraph L) (p c : String) : Prop :=
  ∃ n, g.nodes[p]? = some n ∧ c ∈ n.children

theorem mem_nodes_iff (g : ResourceGraph L) (id : String) :
    id ∈ g.nodes ↔ ∃ r, g.get? id = some r := by
  rw [Std.TreeMap.mem_iff_isSome_getElem?, ← Option.isSome_iff_exists, get?, Option.isSome_map]

theorem get?_eq_none_iff (g : ResourceGraph L) (id : String) :
    g.get? id = none ↔ id ∉ g.nodes := by
  rw [mem_nodes_iff, ← Option.not_isSome_iff_eq_none, Option.isSome_iff_exists]

/-- Resources are stored under their own identifiers, and a node hangs below its parent. -/
structure Consistent (g : ResourceGraph L) : Prop where
  id_eq : ∀ {id r}, g.get? id = some r → r.id = id
  parent_eq : ∀ {p c}, g.Above p c → ∃ r, g.get? c = some r ∧ r.parent = some p

/-- Every node has one place: at the top, or below its parent. -/
structure Linked (g : ResourceGraph L) : Prop extends Consistent g where
  irrefl : ∀ {p}, ¬ g.Above p p
  root_stored : ∀ {id}, id ∈ g.roots → id ∈ g.nodes
  root_free : ∀ {id p}, id ∈ g.roots → ¬ g.Above p id
  placed : ∀ {id}, id ∈ g.nodes → id ∈ g.roots ∨ ∃ p, g.Above p id

theorem linked_empty : Linked ({} : ResourceGraph L) where
  id_eq h := by simp [get?] at h
  parent_eq h := by simp [Above] at h
  irrefl h := by simp [Above] at h
  root_stored h := by simp at h
  root_free h := by simp at h
  placed h := by simp at h

namespace Consistent

theorem above_stored (h : Consistent g) {p c : String} (hpc : g.Above p c) :
    p ∈ g.nodes ∧ c ∈ g.nodes := by
  obtain ⟨r, hr, -⟩ := h.parent_eq hpc
  obtain ⟨n, hn, -⟩ := hpc
  exact ⟨(mem_nodes_iff g p).2 ⟨n.resource, by simp [get?, hn]⟩, (mem_nodes_iff g c).2 ⟨r, hr⟩⟩

/-- What is stored at a node names the node above it as its parent. -/
theorem parent_of_above (h : Consistent g) {p c : String} (hpc : g.Above p c) {r : Resource L}
    (hr : g.get? c = some r) : r.parent = some p := by
  obtain ⟨s, hs, hparent⟩ := h.parent_eq hpc
  rw [hr] at hs
  cases hs
  exact hparent

/-- A node hangs below one other node at most. -/
theorem above_unique (h : Consistent g) {p q c : String} (hp : g.Above p c)
    (hq : g.Above q c) : p = q := by
  obtain ⟨r, hr, hrp⟩ := h.parent_eq hp
  have hrq := h.parent_of_above hq hr
  rw [hrp] at hrq
  exact Option.some.inj hrq

end Consistent

section Views

variable (g : ResourceGraph L)

theorem getElem?_updateChildren (id x : String)
    (change : Std.TreeSet String → Std.TreeSet String) :
    (g.updateChildren id change).nodes[x]? =
      if x = id then g.nodes[x]?.map fun n => { n with children := change n.children }
      else g.nodes[x]? := by
  unfold updateChildren
  split
  · rename_i n hn
    simp only [Std.TreeMap.getElem?_insert, Std.LawfulEqOrd.compare_eq_iff_eq, eq_comm (a := id)]
    split
    · rename_i hx
      rw [hx, hn]
      rfl
    · rfl
  · rename_i hn
    split
    · rename_i hx
      rw [hx, hn]
      rfl
    · rfl

@[simp] theorem roots_updateChildren (id : String)
    (change : Std.TreeSet String → Std.TreeSet String) :
    (g.updateChildren id change).roots = g.roots := by
  unfold updateChildren
  split <;> rfl

@[simp] theorem get?_updateChildren (id x : String)
    (change : Std.TreeSet String → Std.TreeSet String) :
    (g.updateChildren id change).get? x = g.get? x := by
  rw [get?, get?, getElem?_updateChildren]
  split
  · rw [Option.map_map]
    rfl
  · rfl

theorem above_updateChildren (id p c : String)
    (change : Std.TreeSet String → Std.TreeSet String) :
    (g.updateChildren id change).Above p c ↔
      ∃ n, g.nodes[p]? = some n ∧ c ∈ if p = id then change n.children else n.children := by
  rw [Above, getElem?_updateChildren]
  split
  · simp only [Option.map_eq_some_iff]
    constructor
    · rintro ⟨_, ⟨n, hn, rfl⟩, hc⟩
      exact ⟨n, hn, hc⟩
    · rintro ⟨n, hn, hc⟩
      exact ⟨_, ⟨n, hn, rfl⟩, hc⟩
  · rfl

variable (r : Resource L)

@[simp] theorem get?_attach (x : String) : (g.attach r).get? x = g.get? x := by
  unfold attach
  split
  · exact get?_updateChildren g _ x _
  · rfl

theorem above_attach (p c : String) :
    (g.attach r).Above p c ↔
      g.Above p c ∨ r.parent = some p ∧ p ∈ g.nodes ∧ c = r.id := by
  unfold attach
  split
  · rename_i parent hparent
    rw [Option.filter_eq_some_iff, Std.TreeMap.contains_iff_mem] at hparent
    rw [above_updateChildren, Above]
    constructor
    · rintro ⟨n, hn, hc⟩
      split at hc
      · rename_i hp
        rcases mem_insert_iff.1 hc with hc | hc
        · exact Or.inr ⟨hp ▸ hparent.1, hp ▸ hparent.2, hc⟩
        · exact Or.inl ⟨n, hn, hc⟩
      · exact Or.inl ⟨n, hn, hc⟩
    · rintro (⟨n, hn, hc⟩ | ⟨hp, hstored, rfl⟩)
      · refine ⟨n, hn, ?_⟩
        split
        · exact mem_insert_iff.2 (Or.inr hc)
        · exact hc
      · obtain ⟨n, hn⟩ := Option.isSome_iff_exists.1 (Std.TreeMap.mem_iff_isSome_getElem?.1 hstored)
        refine ⟨n, hn, ?_⟩
        rw [if_pos (Option.some.inj (hp.symm.trans hparent.1))]
        exact mem_insert_iff.2 (Or.inl rfl)
  · rename_i hparent
    constructor
    · exact Or.inl
    · rintro (hpc | ⟨hp, hstored, -⟩)
      · exact hpc
      · rw [hp] at hparent
        simp [Std.TreeMap.contains_iff_mem, hstored] at hparent

theorem mem_roots_attach (x : String) :
    x ∈ (g.attach r).roots ↔
      x ∈ g.roots ∨ x = r.id ∧ ∀ p, r.parent = some p → p ∉ g.nodes := by
  unfold attach
  split
  · rename_i parent hparent
    rw [Option.filter_eq_some_iff, Std.TreeMap.contains_iff_mem] at hparent
    rw [roots_updateChildren]
    constructor
    · exact Or.inl
    · rintro (hx | ⟨-, hp⟩)
      · exact hx
      · exact absurd hparent.2 (hp _ hparent.1)
  · rename_i hparent
    rw [Option.filter_eq_none_iff] at hparent
    rw [mem_insert_iff, or_comm]
    refine or_congr_right (iff_self_and.2 fun _ p hp hstored => ?_)
    exact hparent p hp (Std.TreeMap.contains_iff_mem.2 hstored)

@[simp] theorem get?_detach (x : String) : (g.detach r).get? x = g.get? x := by
  unfold detach
  cases r.parent with
  | none => rfl
  | some p => exact get?_updateChildren _ _ x _

theorem above_detach (p c : String) :
    (g.detach r).Above p c ↔ g.Above p c ∧ ¬ (r.parent = some p ∧ c = r.id) := by
  unfold detach
  cases hr : r.parent with
  | none => simp [Above]
  | some parent =>
      simp only [above_updateChildren, Option.some.injEq]
      constructor
      · rintro ⟨n, hn, hc⟩
        split at hc
        · rw [mem_erase_iff] at hc
          exact ⟨⟨n, hn, hc.1⟩, fun ⟨_, heq⟩ => hc.2 heq⟩
        · rename_i hp
          exact ⟨⟨n, hn, hc⟩, fun ⟨heq, _⟩ => hp heq.symm⟩
      · rintro ⟨⟨n, hn, hc⟩, hne⟩
        refine ⟨n, hn, ?_⟩
        split
        · rename_i hp
          exact mem_erase_iff.2 ⟨hc, fun heq => hne ⟨hp.symm, heq⟩⟩
        · exact hc

theorem mem_roots_detach (x : String) :
    x ∈ (g.detach r).roots ↔ x ∈ g.roots ∧ x ≠ r.id := by
  have roots : (g.detach r).roots = g.roots.erase r.id := by
    unfold detach
    cases r.parent with
    | none => rfl
    | some p => exact roots_updateChildren _ _ _
  rw [roots, mem_erase_iff]

end Views

end EndpointMonitor.ResourceGraph
