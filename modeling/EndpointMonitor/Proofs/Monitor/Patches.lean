import EndpointMonitor.Monitor.Patch
import EndpointMonitor.Proofs.Monitor.Scans
import EndpointMonitor.Proofs.Resource.Additions
import EndpointMonitor.Proofs.Resource.Removals

/-!
# Putting what was found into the graph

The resources found are added one after the other, and then those that are stale are removed.
Adding leaves each of them stored, or one like it. As every resource is found after its parent,
nothing that was found hangs below what is stale, and removing leaves it alone.
-/

namespace EndpointMonitor.Patch

open Relation ResourceGraph

variable {L : Type} {g : ResourceGraph L} {rs : List (Resource L)}

theorem mem_stale_iff (g : ResourceGraph L) (rs : List (Resource L)) (x : String) :
    x ∈ stale g rs ↔ x ∉ rs.map (·.id) ∧ ∃ r ∈ g.depthFirst, r.id = x := by
  unfold stale
  simp only [List.mem_map, List.mem_filter, Bool.not_eq_true', List.contains_eq_mem,
    decide_eq_false_iff_not]
  constructor
  · rintro ⟨r, ⟨hr, hnot⟩, rfl⟩
    exact ⟨hnot, r, hr, rfl⟩
  · rintro ⟨hnot, r, hr, rfl⟩
    exact ⟨r, ⟨hr, hnot⟩, rfl⟩

/-- What is not found is stale, if it is reached from the top. -/
theorem stale_removeAll_stale (h : Linked g) :
    stale (g.removeAll (stale g rs)).1 rs = [] := by
  have cut := h.cutOut_removeAll (stale g rs)
  rw [List.eq_nil_iff_forall_not_mem]
  intro x hx
  obtain ⟨hnot, r, hr, rfl⟩ := (mem_stale_iff _ rs x).1 hx
  obtain ⟨hget, root, hroot, hreach⟩ := ((h.linked_removeAll _).mem_depthFirst_iff r).1 hr
  obtain ⟨hget, hkept⟩ := cut.get?_of_get? hget
  have hdepth : r ∈ g.depthFirst := (h.mem_depthFirst_iff r).2
    ⟨hget, root, (cut.mem_roots_iff.1 hroot).1, cut.reaches_mono hreach⟩
  exact hkept ⟨r.id, (mem_stale_iff g rs r.id).2 ⟨hnot, r, hdepth, rfl⟩, .refl⟩

/-- What is found hangs below nothing that is stale, if what is above it is found as well. -/
theorem not_reachedFrom_stale_of_closed {g : ResourceGraph L}
    (closed : ∀ {p c}, g.Above p c → c ∈ rs.map (·.id) → p ∈ rs.map (·.id)) {id : String}
    (hid : id ∈ rs.map (·.id)) : ¬ g.ReachedFrom (stale g rs) id := by
  rintro ⟨x, hx, hreach⟩
  induction hreach with
  | refl => exact ((mem_stale_iff g rs x).1 hx).1 hid
  | tail _ step ih => exact ih (closed step hid)

/-- What adding a found resource does: nothing if the stored one is like it, and otherwise it is
put into the graph, noted and told of. -/
theorem add_cases [Location L] {p : Patch L} (h : Linked p.graph) (r : Resource L) :
    (∃ old, p.graph.get? r.id = some old ∧ old.isLike r = true ∧ p.add r = p) ∨
    (∃ old g', p.graph.get? r.id = some old ∧ old.isLike r = false ∧ PutIn p.graph r g' ∧
      p.add r = ⟨g', { p.change with modified := p.change.modified ++ [r] },
        p.events ++ [.modified r]⟩) ∨
    (∃ g', p.graph.get? r.id = none ∧ PutIn p.graph r g' ∧
      p.add r = ⟨g', { p.change with added := p.change.added ++ [r] },
        p.events ++ [.added r]⟩) := by
  rcases ResourceGraph.add_cases h r with ⟨old, hold, hlike, heq⟩ |
    ⟨old, g', hold, hunlike, hput, heq⟩ | ⟨g', hnone, hput, heq⟩
  · exact Or.inl ⟨old, hold, hlike, by simp [add, heq, noteOutcome]⟩
  · exact Or.inr (Or.inl ⟨old, g', hold, hunlike, hput, by simp [add, heq, noteOutcome]⟩)
  · exact Or.inr (Or.inr ⟨g', hnone, hput, by simp [add, heq, noteOutcome]⟩)

/-- Among some resources, one after which none has its identifier. -/
def LastOf (rs : List (Resource L)) (r : Resource L) : Prop :=
  ∃ before after, rs = before ++ r :: after ∧ r.id ∉ after.map (·.id)

theorem exists_lastOf {r : Resource L} (hr : r ∈ rs) : ∃ last, LastOf rs last ∧ last.id = r.id := by
  induction rs generalizing r with
  | nil => simp at hr
  | cons head rest ih =>
      by_cases hrest : r.id ∈ rest.map (·.id)
      · obtain ⟨r', hr', hid⟩ := List.mem_map.1 hrest
        obtain ⟨last, ⟨before, after, heq, hlast⟩, hlid⟩ := ih hr'
        exact ⟨last, ⟨head :: before, after, by rw [heq, List.cons_append], hlast⟩, hlid.trans hid⟩
      · have heq : r = head := (List.mem_cons.1 hr).resolve_right fun hmem =>
          hrest (List.mem_map_of_mem hmem)
        subst heq
        exact ⟨r, ⟨[], rest, rfl, hrest⟩, rfl⟩

theorem LastOf.mem {r : Resource L} (h : LastOf rs r) : r ∈ rs := by
  obtain ⟨before, after, rfl, -⟩ := h
  exact List.mem_append_right _ List.mem_cons_self

variable [Location L]

theorem parent_eq_of_isLike {r s : Resource L} (h : r.isLike s = true) : r.parent = s.parent :=
  congrArg ResourceView.parent (Resource.isLike_iff.1 h)

/-- Each of some resources is stored, or one like it. -/
def Holds (g : ResourceGraph L) (rs : List (Resource L)) : Prop :=
  ∀ r ∈ rs, ∃ s, g.get? r.id = some s ∧ s.isLike r = true

section Adding

theorem linked_foldl_add {p : Patch L} (h : Linked p.graph) (rs : List (Resource L)) :
    Linked (rs.foldl add p).graph := by
  induction rs generalizing p with
  | nil => exact h
  | cons r rest ih => exact ih (linked_add h r)

theorem get?_foldl_add_of_notMem {p : Patch L} (h : Linked p.graph) {x : String}
    (hx : x ∉ rs.map (·.id)) : (rs.foldl add p).graph.get? x = p.graph.get? x := by
  induction rs generalizing p with
  | nil => rfl
  | cons r rest ih =>
      rw [List.map_cons, List.mem_cons, not_or] at hx
      rw [List.foldl_cons, ih (linked_add h r) hx.2]
      exact get?_add_of_ne h hx.1

/-- What was added last under its identifier is stored, or a resource like it. -/
theorem LastOf.stored {p : Patch L} (hp : Linked p.graph) {r : Resource L} (h : LastOf rs r) :
    ∃ s, (rs.foldl add p).graph.get? r.id = some s ∧ s.isLike r = true := by
  obtain ⟨before, after, rfl, hlast⟩ := h
  have linked := linked_foldl_add hp before
  obtain ⟨s, hs, hlike⟩ := stored_add linked r
  refine ⟨s, ?_, hlike⟩
  rw [List.foldl_append, List.foldl_cons, get?_foldl_add_of_notMem (linked_add linked r) hlast]
  exact hs

theorem holds_foldl_add {p : Patch L} (h : Linked p.graph)
    (hcoherent : ∀ r ∈ rs, ∀ s ∈ rs, r.id = s.id → r.isLike s = true) :
    Holds (rs.foldl add p).graph rs := by
  intro r hr
  obtain ⟨last, hlast, hid⟩ := exists_lastOf hr
  obtain ⟨s, hs, hlike⟩ := hlast.stored h
  refine ⟨s, hid ▸ hs, ?_⟩
  rw [Resource.isLike_iff] at hlike ⊢
  exact hlike.trans (Resource.isLike_iff.1 (hcoherent last hlast.mem r hr hid))

end Adding

section Removing

/-- What is kept by adding what was found, and by removing from that, is kept by a patch. -/
theorem ofFound_keeps {I : ResourceGraph L → Prop} {found : Found L}
    (hadd : I (found.resources.foldl add { graph := g }).graph)
    (hremove : ∀ ids, I ((found.resources.foldl add { graph := g }).graph.removeAll ids).1) :
    I (ofFound g found).graph := by
  unfold ofFound
  split
  · exact hremove _
  · exact hadd

theorem linked_ofFound (h : Linked g) (found : Found L) : Linked (ofFound g found).graph :=
  have placed := linked_foldl_add (p := { graph := g }) h found.resources
  ofFound_keeps placed placed.linked_removeAll

theorem not_reachedFrom_stale (h : Linked g) (hrs : Holds g rs) (hparents : ParentsFirst [] rs)
    {r : Resource L} (hr : r ∈ rs) : ¬ g.ReachedFrom (stale g rs) r.id := by
  refine not_reachedFrom_stale_of_closed (fun {p c} hpc hc => ?_) (List.mem_map_of_mem hr)
  obtain ⟨s, hs, rfl⟩ := List.mem_map.1 hc
  obtain ⟨t, ht, hlike⟩ := hrs s hs
  have hparent := h.parent_of_above hpc ht
  rw [parent_eq_of_isLike hlike] at hparent
  exact (hparents.parent_mem hs hparent).resolve_left (by simp)

/-- What was found is stored after a patch, or a resource like it. -/
theorem stored_ofFound (h : Linked g) {found : Found L}
    (hparents : ParentsFirst [] found.resources) {r : Resource L} (hr : r ∈ found.resources) :
    ∃ s, (ofFound g found).graph.get? r.id = some s := by
  have placed := linked_foldl_add (p := { graph := g }) h found.resources
  have stored : ∀ {r}, r ∈ found.resources → ∃ last s, LastOf found.resources last ∧
      (found.resources.foldl add { graph := g }).graph.get? r.id = some s ∧
      s.parent = last.parent := by
    intro r hr
    obtain ⟨last, hlast, hid⟩ := exists_lastOf hr
    obtain ⟨s, hs, hlike⟩ := hlast.stored (p := { graph := g }) h
    exact ⟨last, s, hlast, hid ▸ hs, parent_eq_of_isLike hlike⟩
  have kept : ¬ ReachedFrom (found.resources.foldl add { graph := g }).graph
      (stale (found.resources.foldl add { graph := g }).graph found.resources) r.id := by
    refine not_reachedFrom_stale_of_closed (fun {p c} hpc hc => ?_) (List.mem_map_of_mem hr)
    obtain ⟨r', hr', rfl⟩ := List.mem_map.1 hc
    obtain ⟨last, s, hlast, hs, hparent⟩ := stored hr'
    rw [placed.parent_of_above hpc hs] at hparent
    exact (hparents.parent_mem hlast.mem hparent.symm).resolve_left (by simp)
  obtain ⟨-, s, -, hs, -⟩ := stored hr
  unfold ofFound
  split
  · exact ⟨s, ((placed.cutOut_removeAll _).get?_kept kept).trans hs⟩
  · exact ⟨s, hs⟩

end Removing

end EndpointMonitor.Patch
