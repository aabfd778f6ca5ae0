import EndpointMonitor.Proofs.Resource.Additions
import EndpointMonitor.Proofs.Resource.Removals
import EndpointMonitor.Proofs.Runs

/-!
# Loops in the resource graph

A node has one place, so the way up from it is the only one: it ends at the top, or it leads
round a loop for ever. Hence everything that looks at the graph from the top sees all of it
exactly if no node is below itself.
-/

namespace EndpointMonitor.ResourceGraph

open Relation

variable {L : Type} {g g' : ResourceGraph L}

/-- No node is below itself. -/
def Loopless (g : ResourceGraph L) : Prop :=
  ∀ x, ¬ TransGen g.Above x x

theorem loopless_empty : Loopless ({} : ResourceGraph L) := by
  intro x loop
  obtain ⟨y, hy, -⟩ := TransGen.head'_iff.1 loop
  exact absurd (linked_empty.above_stored hy).1 (by simp)

theorem Consistent.wellFounded_above (h : Consistent g) (hloop : g.Loopless) :
    WellFounded g.Above := by
  refine wellFounded_of_loopless (l := g.nodes.keys) (fun hpc => ?_) hloop
  obtain ⟨hp, hc⟩ := h.above_stored hpc
  exact ⟨Std.TreeMap.mem_keys.2 hp, Std.TreeMap.mem_keys.2 hc⟩

/-- No node is below itself exactly if every stored node is reached from the top. -/
theorem Linked.loopless_iff (h : Linked g) :
    g.Loopless ↔ ∀ x ∈ g.nodes, ∃ root ∈ g.roots, ReflTransGen g.Above root x := by
  constructor
  · intro hloop x hx
    induction x using (h.wellFounded_above hloop).induction with
    | _ x ih =>
        rcases h.placed hx with hroot | ⟨p, hpx⟩
        · exact ⟨x, hroot, .refl⟩
        · obtain ⟨root, hroot, hreach⟩ := ih p hpx (h.above_stored hpx).1
          exact ⟨root, hroot, hreach.tail hpx⟩
  · intro rooted x loop
    obtain ⟨y, hxy, -⟩ := TransGen.head'_iff.1 loop
    obtain ⟨root, hroot, hreach⟩ := rooted x (h.above_stored hxy).1
    have free : ∀ {z}, ReflTransGen g.Above root z → ¬ TransGen g.Above z z := by
      intro z hz
      induction hz with
      | refl => exact not_loop_of_free fun _ => h.root_free hroot
      | tail _ step ih => exact h.not_loop_of_above ih step
    exact free hreach loop

theorem CutOut.loopless {gone : String → Prop} (h : CutOut g gone g') (hloop : g.Loopless) :
    g'.Loopless := fun x loop =>
  hloop x (TransGen.mono (fun _ _ hpc => (h.above_iff.1 hpc).1) _ _ loop)

section Faithful

/-- A resource hangs below the parent that it names, unless that is the resource itself. -/
structure Faithful (g : ResourceGraph L) : Prop extends Linked g where
  above_of_parent : ∀ {c r p}, g.get? c = some r → r.parent = some p → p ≠ c → g.Above p c

theorem faithful_empty : Faithful ({} : ResourceGraph L) where
  toLinked := linked_empty
  above_of_parent hr := by simp [get?] at hr

theorem Faithful.above_iff (h : Faithful g) {p c : String} :
    g.Above p c ↔ ∃ r, g.get? c = some r ∧ r.parent = some p ∧ p ≠ c := by
  constructor
  · intro hpc
    obtain ⟨r, hr, hp⟩ := h.parent_eq hpc
    refine ⟨r, hr, hp, ?_⟩
    rintro rfl
    exact h.irrefl hpc
  · rintro ⟨r, hr, hp, hne⟩
    exact h.above_of_parent hr hp hne

theorem CutOut.faithful {gone : String → Prop} (h : CutOut g gone g') (hg : Faithful g)
    (closed : ∀ {p c}, gone p → g.Above p c → gone c) : Faithful g' where
  toLinked := h.linked hg.toLinked closed
  above_of_parent hr hp hne := by
    obtain ⟨hr, hkept⟩ := h.get?_of_get? hr
    have hpc := hg.above_of_parent hr hp hne
    exact h.above_iff.2 ⟨hpc, fun hgone => hkept (closed hgone hpc), hkept⟩

/-- Putting a resource below a stored one or itself, or at the top without a parent. -/
theorem PutIn.faithful {r : Resource L} (h : PutIn g r g') (hg : Faithful g)
    (hparent : ∀ p, r.parent = some p → p ∈ g.nodes) : Faithful g' where
  toLinked := h.linked hg.toLinked
  above_of_parent {c s p} hs hp hne := by
    rw [h.above_iff]
    by_cases hc : c = r.id
    · subst hc
      rw [h.get?_self] at hs
      cases hs
      exact Or.inr ⟨rfl, hp, hparent p hp, hne⟩
    · rw [h.get?_of_ne hc] at hs
      exact Or.inl ⟨hg.above_of_parent hs hp hne, hc⟩

theorem Faithful.add [Location L] {r : Resource L} (h : Faithful g)
    (hparent : ∀ p, r.parent = some p → p ∈ g.nodes) : Faithful (g.add r).graph := by
  rcases eq_or_putIn_add h.toLinked r with ⟨old, -, -, heq⟩ | hput
  · rwa [heq]
  · exact hput.faithful h hparent

end Faithful

section Listed

/-- The listing of all resources has each stored one, once and after its parent. -/
structure Listed (g : ResourceGraph L) : Prop where
  mem_depthFirst_iff : ∀ r, r ∈ g.depthFirst ↔ g.get? r.id = some r
  nodup_ids : (g.depthFirst.map (·.id)).Nodup
  length_eq : g.depthFirst.length = g.size
  parent_mem : ∀ r ∈ g.depthFirst, ∀ p, r.parent = some p → p ∈ g.depthFirst.map (·.id)
  parents_first : g.depthFirst.Pairwise fun r s => r.parent ≠ some s.id

theorem Linked.mem_ids_iff (h : Linked g) (hloop : g.Loopless) (id : String) :
    id ∈ g.depthFirst.map (·.id) ↔ id ∈ g.nodes := by
  rw [mem_nodes_iff, List.mem_map]
  constructor
  · rintro ⟨r, hr, rfl⟩
    exact ⟨r, ((h.mem_depthFirst_iff r).1 hr).1⟩
  · rintro ⟨r, hr⟩
    have hid := h.id_eq hr
    subst hid
    refine ⟨r, (h.mem_depthFirst_iff r).2 ⟨hr, ?_⟩, rfl⟩
    exact h.loopless_iff.1 hloop r.id ((mem_nodes_iff g r.id).2 ⟨r, hr⟩)

/-- All resources are listed exactly if no node is below itself. -/
theorem Faithful.listed_iff (h : Faithful g) : g.Listed ↔ g.Loopless := by
  constructor
  · intro listed
    refine h.loopless_iff.2 fun id hid => ?_
    obtain ⟨r, hr⟩ := (mem_nodes_iff g id).1 hid
    have heq := h.id_eq hr
    subst heq
    exact ((h.mem_depthFirst_iff r).1 ((listed.mem_depthFirst_iff r).2 hr)).2
  · intro hloop
    have mem_iff : ∀ r, r ∈ g.depthFirst ↔ g.get? r.id = some r := by
      intro r
      rw [h.toLinked.mem_depthFirst_iff]
      refine and_iff_left_of_imp fun hr => ?_
      exact h.loopless_iff.1 hloop r.id ((mem_nodes_iff g r.id).2 ⟨r, hr⟩)
    refine ⟨mem_iff, h.nodup_depthFirst, ?_, fun r hr p hp => ?_, ?_⟩
    · have ids : (g.depthFirst.map (·.id)).Perm g.nodes.keys := by
        refine (List.perm_ext_iff_of_nodup h.nodup_depthFirst Std.TreeMap.nodup_keys).2 fun id => ?_
        rw [h.mem_ids_iff hloop, Std.TreeMap.mem_keys]
      have length := ids.length_eq
      rwa [List.length_map, Std.TreeMap.length_keys] at length
    · rw [h.mem_ids_iff hloop]
      by_cases hself : p = r.id
      · exact (mem_nodes_iff g p).2 ⟨r, hself ▸ (mem_iff r).1 hr⟩
      · exact (h.above_stored (h.above_of_parent ((mem_iff r).1 hr) hp hself)).1
    · refine (h.pairwise_depthFirst.and (List.pairwise_map.1 h.nodup_depthFirst)).imp_of_mem ?_
      rintro r s hr - ⟨hrs, hne⟩ hparent
      exact hrs (.single (h.above_of_parent ((mem_iff r).1 hr) hparent (Ne.symm hne)))

end Listed

section Clear

theorem Linked.mem_rootIds_iff (h : Linked g) (id : String) :
    id ∈ g.rootResources.map (·.id) ↔ id ∈ g.roots := by
  simp only [rootResources, List.mem_map, List.mem_filterMap, Std.TreeSet.mem_toList]
  constructor
  · rintro ⟨r, ⟨root, hroot, hr⟩, rfl⟩
    rwa [h.id_eq hr]
  · intro hroot
    obtain ⟨r, hr⟩ := (mem_nodes_iff g id).1 (h.root_stored hroot)
    exact ⟨r, ⟨id, hroot, hr⟩, h.id_eq hr⟩

/-- Without loops everything is below the top, where clearing begins. -/
theorem Linked.reachedFrom_roots (h : Linked g) (hloop : g.Loopless) {id : String}
    (hid : id ∈ g.nodes) : g.ReachedFrom (g.rootResources.map (·.id)) id := by
  obtain ⟨root, hroot, hreach⟩ := h.loopless_iff.1 hloop id hid
  exact ⟨root, (h.mem_rootIds_iff root).2 hroot, hreach⟩

theorem size_eq_zero_iff (g : ResourceGraph L) : g.size = 0 ↔ ∀ id, id ∉ g.nodes := by
  rw [size, ← Std.TreeMap.length_keys, List.length_eq_zero_iff, List.eq_nil_iff_forall_not_mem]
  exact forall_congr' fun id => not_congr Std.TreeMap.mem_keys

theorem Linked.size_clear (h : Linked g) (hloop : g.Loopless) : g.clear.1.size = 0 := by
  have cut := h.cutOut_removeAll (g.rootResources.map (·.id))
  refine (size_eq_zero_iff _).2 fun id hid => ?_
  obtain ⟨hid, hkept⟩ := cut.mem_nodes_iff.1 hid
  exact hkept (h.reachedFrom_roots hloop hid)

theorem Linked.loopless_of_size_clear (h : Linked g) (hsize : g.clear.1.size = 0) :
    g.Loopless := by
  refine h.loopless_iff.2 fun id hid => ?_
  by_contra hunreached
  have kept : ¬ g.ReachedFrom (g.rootResources.map (·.id)) id := by
    rintro ⟨root, hroot, hreach⟩
    exact hunreached ⟨root, (h.mem_rootIds_iff root).1 hroot, hreach⟩
  exact (size_eq_zero_iff _).1 hsize id ((h.cutOut_removeAll _).mem_nodes_iff.2 ⟨hid, kept⟩)

theorem Linked.clear_perm (h : Linked g) (hloop : g.Loopless) :
    g.clear.2.Perm g.depthFirst := by
  have removed : (g.clear.2.map (·.id)).Nodup := h.nodup_removeAll _
  refine (List.perm_ext_iff_of_nodup removed.of_map h.nodup_depthFirst.of_map).2 fun r => ?_
  rw [h.mem_depthFirst_iff]
  refine (h.mem_removeAll_iff _ r).trans (and_congr_right fun hr => ?_)
  have hid := (mem_nodes_iff g r.id).2 ⟨r, hr⟩
  exact iff_of_true (h.reachedFrom_roots hloop hid) (h.loopless_iff.1 hloop r.id hid)

end Clear

end EndpointMonitor.ResourceGraph
