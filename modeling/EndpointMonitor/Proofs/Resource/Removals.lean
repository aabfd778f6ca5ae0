import EndpointMonitor.Proofs.Resource.Subtree

/-!
# Removing from the resource graph

Removing a resource cuts out exactly what is reached from it. What is cut out is closed
downwards, so no link of a kept node is lost but the one to the removed resource, and the
removals of several resources add up.
-/

namespace EndpointMonitor.ResourceGraph

open Relation

variable {L : Type} {g g' g'' : ResourceGraph L}

/-- The second graph is the first without the nodes that are gone. -/
structure CutOut (g : ResourceGraph L) (gone : String → Prop) (g' : ResourceGraph L) :
    Prop where
  get?_gone : ∀ {x}, gone x → g'.get? x = none
  get?_kept : ∀ {x}, ¬ gone x → g'.get? x = g.get? x
  above_iff : ∀ {p c}, g'.Above p c ↔ g.Above p c ∧ ¬ gone p ∧ ¬ gone c
  mem_roots_iff : ∀ {x}, x ∈ g'.roots ↔ x ∈ g.roots ∧ ¬ gone x

namespace CutOut

variable {gone gone' : String → Prop}

theorem mem_nodes_iff (h : CutOut g gone g') {x : String} :
    x ∈ g'.nodes ↔ x ∈ g.nodes ∧ ¬ gone x := by
  rw [ResourceGraph.mem_nodes_iff, ResourceGraph.mem_nodes_iff]
  by_cases hx : gone x
  · simp [h.get?_gone hx, hx]
  · simp [h.get?_kept hx, hx]

theorem congr (h : CutOut g gone g') (hgone : ∀ x, gone x ↔ gone' x) : CutOut g gone' g' := by
  have heq : gone = gone' := funext fun x => propext (hgone x)
  rwa [← heq]

theorem trans (h : CutOut g gone g') (h' : CutOut g' gone' g'') :
    CutOut g (fun x => gone x ∨ gone' x) g'' where
  get?_gone {x} hx := by
    by_cases hx' : gone' x
    · exact h'.get?_gone hx'
    · rw [h'.get?_kept hx', h.get?_gone (hx.resolve_right hx')]
  get?_kept {x} hx := by
    rw [not_or] at hx
    rw [h'.get?_kept hx.2, h.get?_kept hx.1]
  above_iff {p c} := by
    rw [h'.above_iff, h.above_iff, not_or, not_or]
    tauto
  mem_roots_iff {x} := by
    rw [h'.mem_roots_iff, h.mem_roots_iff, not_or, and_assoc]

theorem get?_of_get? (h : CutOut g gone g') {x : String} {r : Resource L}
    (hr : g'.get? x = some r) : g.get? x = some r ∧ ¬ gone x := by
  have hx := h.mem_nodes_iff.1 ((ResourceGraph.mem_nodes_iff g' x).2 ⟨r, hr⟩)
  exact ⟨(h.get?_kept hx.2).symm.trans hr, hx.2⟩

/-- Cutting out what is closed downwards keeps the links in order. -/
theorem linked (h : CutOut g gone g') (hg : Linked g)
    (closed : ∀ {p c}, gone p → g.Above p c → gone c) : Linked g' where
  id_eq hr := hg.id_eq (h.get?_of_get? hr).1
  parent_eq {p c} hpc := by
    obtain ⟨hpc, -, hc⟩ := h.above_iff.1 hpc
    rw [h.get?_kept hc]
    exact hg.parent_eq hpc
  irrefl hpp := hg.irrefl (h.above_iff.1 hpp).1
  root_stored hx := by
    obtain ⟨hroot, hx⟩ := h.mem_roots_iff.1 hx
    exact h.mem_nodes_iff.2 ⟨hg.root_stored hroot, hx⟩
  root_free hx hpx := hg.root_free (h.mem_roots_iff.1 hx).1 (h.above_iff.1 hpx).1
  placed {x} hx := by
    obtain ⟨hstored, hx⟩ := h.mem_nodes_iff.1 hx
    rcases hg.placed hstored with hroot | ⟨p, hpx⟩
    · exact Or.inl (h.mem_roots_iff.2 ⟨hroot, hx⟩)
    · exact Or.inr ⟨p, h.above_iff.2 ⟨hpx, fun hp => hx (closed hp hpx), hx⟩⟩

theorem reaches_mono (h : CutOut g gone g') {x y : String}
    (hxy : ReflTransGen g'.Above x y) : ReflTransGen g.Above x y :=
  ReflTransGen.mono (fun _ _ hpc => (h.above_iff.1 hpc).1) _ _ hxy

/-- A kept node is reached as before. -/
theorem reaches_kept (h : CutOut g gone g')
    (closed : ∀ {p c}, gone p → g.Above p c → gone c) {x y : String} (hy : ¬ gone y)
    (hxy : ReflTransGen g.Above x y) : ReflTransGen g'.Above x y := by
  induction hxy with
  | refl => exact .refl
  | tail _ step ih =>
      have hz := fun hz => hy (closed hz step)
      exact .tail (ih hz) (h.above_iff.2 ⟨step, hz, hy⟩)

end CutOut

section Remove

theorem getElem?_foldl_erase {α : Type} (nodes : Std.TreeMap String α) (rs : List (Resource L))
    (x : String) :
    (rs.foldl (fun nodes s => nodes.erase s.id) nodes)[x]? =
      if x ∈ rs.map (·.id) then none else nodes[x]? := by
  induction rs generalizing nodes with
  | nil => rfl
  | cons r rest ih =>
      rw [List.foldl_cons, ih, List.map_cons]
      simp only [Std.TreeMap.getElem?_erase, Std.LawfulEqOrd.compare_eq_iff_eq, List.mem_cons,
        eq_comm (a := r.id)]
      by_cases hx : x = r.id <;> simp [hx]

theorem get?_eraseNodes (g : ResourceGraph L) (rs : List (Resource L)) (x : String) :
    ({ g with nodes := rs.foldl (fun nodes s => nodes.erase s.id) g.nodes } :
      ResourceGraph L).get? x = if x ∈ rs.map (·.id) then none else g.get? x := by
  rw [get?, getElem?_foldl_erase, get?]
  split <;> rfl

theorem above_eraseNodes (g : ResourceGraph L) (rs : List (Resource L)) (p c : String) :
    ({ g with nodes := rs.foldl (fun nodes s => nodes.erase s.id) g.nodes } :
      ResourceGraph L).Above p c ↔ p ∉ rs.map (·.id) ∧ g.Above p c := by
  simp only [Above, getElem?_foldl_erase]
  split <;> simp [*]

/-- The links but those to a node that is taken from its place. -/
def AboveBut (g : ResourceGraph L) (id p c : String) : Prop :=
  g.Above p c ∧ c ≠ id

theorem Linked.above_detach_eq (h : Linked g) {id : String} {r : Resource L}
    (hr : g.get? id = some r) : (g.detach r).Above = g.AboveBut id := by
  funext p c
  rw [above_detach, h.id_eq hr, AboveBut, eq_iff_iff]
  refine and_congr_right fun hpc => not_congr ⟨And.right, ?_⟩
  rintro rfl
  exact ⟨h.parent_of_above hpc hr, rfl⟩

/-- A node that is taken from its place hangs below no other. -/
theorem Linked.free_detach (h : Linked g) {id : String} {r : Resource L}
    (hr : g.get? id = some r) (p : String) : ¬ (g.detach r).Above p id := by
  rw [h.above_detach_eq hr]
  exact fun hp => hp.2 rfl

/-- The same is reached from a node that is taken from its place. -/
theorem reaches_aboveBut_iff {id x : String} :
    ReflTransGen (g.AboveBut id) id x ↔ ReflTransGen g.Above id x := by
  refine ⟨ReflTransGen.mono (fun _ _ hpc => hpc.1) _ _, fun h => ?_⟩
  induction h with
  | refl => exact .refl
  | @tail y z _ step ih =>
      by_cases hz : z = id
      · rw [hz]
      · exact ih.tail ⟨step, hz⟩

theorem Linked.consistent_detach {r : Resource L} (h : Linked g) {id : String}
    (hr : g.get? id = some r) : Consistent (g.detach r) where
  id_eq hs := h.id_eq ((get?_detach g r _).symm.trans hs)
  parent_eq {p c} hpc := by
    rw [h.above_detach_eq hr] at hpc
    rw [get?_detach]
    exact h.parent_eq hpc.1

/-- What is removed is what is reached. -/
theorem Linked.mem_remove_iff (h : Linked g) (id : String) (s : Resource L) :
    s ∈ (g.remove id).2 ↔ g.get? s.id = some s ∧ ReflTransGen g.Above id s.id := by
  unfold remove
  split
  · rename_i hnone
    refine ⟨fun hs => by simp at hs, fun ⟨hs, hreach⟩ => ?_⟩
    rw [get?_eq_none_iff] at hnone
    rcases ReflTransGen.cases_head hreach with heq | ⟨c, hc, -⟩
    · exact absurd ((mem_nodes_iff g id).2 ⟨s, heq ▸ hs⟩) hnone
    · exact absurd (h.above_stored hc).1 hnone
  · rename_i r hr
    rw [List.mem_reverse, (h.consistent_detach hr).mem_subtree_iff (h.free_detach hr),
      h.above_detach_eq hr, reaches_aboveBut_iff, get?_detach, and_comm]

theorem Linked.mem_removedIds_iff (h : Linked g) (id x : String) :
    x ∈ (g.remove id).2.map (·.id) ↔ x ∈ g.nodes ∧ ReflTransGen g.Above id x := by
  rw [List.mem_map]
  constructor
  · rintro ⟨s, hs, rfl⟩
    obtain ⟨hget, hreach⟩ := (h.mem_remove_iff id s).1 hs
    exact ⟨(mem_nodes_iff g _).2 ⟨s, hget⟩, hreach⟩
  · rintro ⟨hx, hreach⟩
    obtain ⟨s, hs⟩ := (mem_nodes_iff g x).1 hx
    have hid := h.id_eq hs
    subst hid
    exact ⟨s, (h.mem_remove_iff id s).2 ⟨hs, hreach⟩, rfl⟩

/-- Removing a resource cuts out what is reached from it. -/
theorem Linked.cutOut_remove (h : Linked g) (id : String) :
    CutOut g (ReflTransGen g.Above id) (g.remove id).1 := by
  have hids := h.mem_removedIds_iff id
  unfold remove at hids ⊢
  split
  · rename_i hnone
    rw [get?_eq_none_iff] at hnone
    have hgone : ∀ x, ReflTransGen g.Above id x → x = id := by
      intro x hx
      rcases ReflTransGen.cases_head hx with heq | ⟨c, hc, -⟩
      · exact heq.symm
      · exact absurd (h.above_stored hc).1 hnone
    have hkept : ∀ x, x ∈ g.nodes → ¬ ReflTransGen g.Above id x := fun x hx hreach =>
      hnone (hgone x hreach ▸ hx)
    refine ⟨fun hx => ?_, fun _ => rfl, fun {p c} => ?_, fun {x} => ?_⟩
    · rw [get?_eq_none_iff, hgone _ hx]
      exact hnone
    · exact iff_self_and.2 fun hpc =>
        ⟨hkept p (h.above_stored hpc).1, hkept c (h.above_stored hpc).2⟩
    · exact iff_self_and.2 fun hx => hkept x (h.root_stored hx)
  · rename_i r hr
    simp only [hr] at hids
    have stored : ∀ x, ReflTransGen g.Above id x → x ∈ g.nodes := by
      intro x hx
      rcases ReflTransGen.cases_tail hx with rfl | ⟨p, -, hpx⟩
      · exact (mem_nodes_iff g x).2 ⟨r, hr⟩
      · exact (h.above_stored hpx).2
    refine ⟨fun {x} hx => ?_, fun {x} hx => ?_, fun {p c} => ?_, fun {x} => ?_⟩
    · rw [get?_eraseNodes, if_pos ((hids x).2 ⟨stored x hx, hx⟩)]
    · rw [get?_eraseNodes, if_neg fun hmem => hx ((hids x).1 hmem).2, get?_detach]
    · rw [above_eraseNodes, hids, h.above_detach_eq hr, AboveBut]
      constructor
      · rintro ⟨hp, hpc, hc⟩
        have hp : ¬ ReflTransGen g.Above id p := fun hreach => hp ⟨stored p hreach, hreach⟩
        exact ⟨hpc, hp, fun hreach => hp (h.reaches_parent hpc hreach (Ne.symm hc))⟩
      · rintro ⟨hpc, hp, hc⟩
        exact ⟨fun hreach => hp hreach.2, hpc, fun heq => hc (heq ▸ .refl)⟩
    · have roots : x ∈ (g.detach r).roots ↔ x ∈ g.roots ∧ x ≠ id := by
        rw [mem_roots_detach, h.id_eq hr]
      refine roots.trans (and_congr_right fun hx => not_congr ⟨fun heq => heq ▸ .refl, ?_⟩)
      intro hreach
      rcases ReflTransGen.cases_tail hreach with heq | ⟨p, -, hpx⟩
      · exact heq
      · exact absurd hpx (h.root_free hx)

theorem Linked.linked_remove (h : Linked g) (id : String) : Linked (g.remove id).1 :=
  (h.cutOut_remove id).linked h fun hp hpc => hp.tail hpc

/-- Below a node that is not below itself a way down never comes back to it. -/
theorem reaches_aboveBut {id x y : String} (hloop : ¬ TransGen g.Above id id)
    (hx : ReflTransGen g.Above id x) (hxy : ReflTransGen g.Above x y) :
    ReflTransGen (g.AboveBut id) x y := by
  induction hxy with
  | refl => exact .refl
  | @tail y z hxy step ih =>
      refine ih.tail ⟨step, ?_⟩
      rintro rfl
      exact hloop (.tail' (hx.trans hxy) step)

/-- Nothing is removed before what is reached from it without coming back to the beginning. -/
theorem Linked.pairwise_remove_aboveBut (h : Linked g) (id : String) :
    (g.remove id).2.Pairwise fun r s => ¬ ReflTransGen (g.AboveBut id) r.id s.id := by
  unfold remove
  split
  · exact List.Pairwise.nil
  · rename_i r hr
    have walk := (h.consistent_detach hr).pairwise_subtree (g.detach r).size
      (not_loop_of_free (h.free_detach hr))
    rw [h.above_detach_eq hr] at walk
    exact List.pairwise_reverse.2 walk

/-- No resource is removed twice. -/
theorem Linked.nodup_remove (h : Linked g) (id : String) :
    ((g.remove id).2.map (·.id)).Nodup := by
  refine List.pairwise_map.2 ((h.pairwise_remove_aboveBut id).imp fun {r s} hrs heq => hrs ?_)
  rw [heq]

/-- Nothing is removed before what hangs below it. -/
theorem Linked.pairwise_remove (h : Linked g) {id : String} (hloop : ¬ TransGen g.Above id id) :
    (g.remove id).2.Pairwise fun r s => ¬ ReflTransGen g.Above r.id s.id := by
  refine (h.pairwise_remove_aboveBut id).imp_of_mem fun {r s} hr _ hrs hreach => hrs ?_
  exact reaches_aboveBut hloop ((h.mem_remove_iff id r).1 hr).2 hreach

end Remove

section RemoveAll

/-- Remove one more resource, and collect what is removed. -/
def alsoRemove (acc : ResourceGraph L × List (Resource L)) (id : String) :
    ResourceGraph L × List (Resource L) :=
  ((acc.1.remove id).1, acc.2 ++ (acc.1.remove id).2)

theorem removeAll_eq_foldl (g : ResourceGraph L) (ids : List String) :
    g.removeAll ids = ids.foldl alsoRemove (g, []) := rfl

/-- What was collected before stands in front of what is removed. -/
theorem foldl_alsoRemove (ids : List String) (g : ResourceGraph L)
    (removed : List (Resource L)) : ids.foldl alsoRemove (g, removed) =
      ((g.removeAll ids).1, removed ++ (g.removeAll ids).2) := by
  induction ids generalizing g removed with
  | nil => simp [removeAll]
  | cons id ids ih =>
      have step : ∀ removed : List (Resource L), (id :: ids).foldl alsoRemove (g, removed) =
          (((g.remove id).1.removeAll ids).1,
            removed ++ (g.remove id).2 ++ ((g.remove id).1.removeAll ids).2) := fun removed =>
        ih (g.remove id).1 (removed ++ (g.remove id).2)
      rw [removeAll_eq_foldl, step, step, List.nil_append, List.append_assoc]

theorem removeAll_cons (g : ResourceGraph L) (id : String) (ids : List String) :
    g.removeAll (id :: ids) = (((g.remove id).1.removeAll ids).1,
      (g.remove id).2 ++ ((g.remove id).1.removeAll ids).2) :=
  foldl_alsoRemove ids (g.remove id).1 (g.remove id).2

/-- Whether an identifier is reached from one of some others. -/
def ReachedFrom (g : ResourceGraph L) (ids : List String) (x : String) : Prop :=
  ∃ id ∈ ids, ReflTransGen g.Above id x

theorem ReachedFrom.closed {ids : List String} {p c : String} (hp : g.ReachedFrom ids p)
    (hpc : g.Above p c) : g.ReachedFrom ids c := by
  obtain ⟨id, hid, hreach⟩ := hp
  exact ⟨id, hid, hreach.tail hpc⟩

/-- What is reached from the rest is the same after the first was removed. -/
theorem Linked.reachedFrom_cons_iff (h : Linked g) {id x : String} {ids : List String} :
    g.ReachedFrom (id :: ids) x ↔
      ReflTransGen g.Above id x ∨ (g.remove id).1.ReachedFrom ids x := by
  have cut := h.cutOut_remove id
  constructor
  · rintro ⟨i, hi, hx⟩
    rcases List.mem_cons.1 hi with rfl | hi
    · exact Or.inl hx
    · by_cases hgone : ReflTransGen g.Above id x
      · exact Or.inl hgone
      · exact Or.inr ⟨i, hi, cut.reaches_kept (fun hp hpc => hp.tail hpc) hgone hx⟩
  · rintro (hx | ⟨i, hi, hx⟩)
    · exact ⟨id, List.mem_cons_self, hx⟩
    · exact ⟨i, List.mem_cons_of_mem _ hi, cut.reaches_mono hx⟩

/-- Several removals cut out what is reached from one of the removed. -/
theorem Linked.cutOut_removeAll (h : Linked g) (ids : List String) :
    CutOut g (g.ReachedFrom ids) (g.removeAll ids).1 := by
  induction ids generalizing g with
  | nil =>
      have none_gone : ∀ x, ¬ g.ReachedFrom [] x := by
        rintro x ⟨i, hi, -⟩
        simp at hi
      exact ⟨fun {x} hx => absurd hx (none_gone x), fun _ => rfl,
        iff_self_and.2 fun _ => ⟨none_gone _, none_gone _⟩, iff_self_and.2 fun _ => none_gone _⟩
  | cons id ids ih =>
      rw [removeAll_cons]
      exact ((h.cutOut_remove id).trans (ih (h.linked_remove id))).congr fun x =>
        h.reachedFrom_cons_iff.symm

theorem Linked.linked_removeAll (h : Linked g) (ids : List String) :
    Linked (g.removeAll ids).1 :=
  (h.cutOut_removeAll ids).linked h ReachedFrom.closed

/-- Several removals remove what is reached from one of the removed. -/
theorem Linked.mem_removeAll_iff (h : Linked g) (ids : List String) (s : Resource L) :
    s ∈ (g.removeAll ids).2 ↔ g.get? s.id = some s ∧ g.ReachedFrom ids s.id := by
  induction ids generalizing g with
  | nil => simp [removeAll, ReachedFrom]
  | cons id ids ih =>
      have cut := h.cutOut_remove id
      rw [removeAll_cons, List.mem_append, h.mem_remove_iff, ih (h.linked_remove id),
        h.reachedFrom_cons_iff, and_or_left]
      refine or_congr_right' fun hgone => and_congr_left fun hrest => ?_
      by_cases hs : ReflTransGen g.Above id s.id
      · rw [cut.get?_gone hs]
        exact ⟨fun heq => absurd heq (by simp), fun heq => absurd ⟨heq, hs⟩ hgone⟩
      · rw [cut.get?_kept hs]

/-- No resource is removed twice, in several removals as well. -/
theorem Linked.nodup_removeAll (h : Linked g) (ids : List String) :
    ((g.removeAll ids).2.map (·.id)).Nodup := by
  induction ids generalizing g with
  | nil => exact List.nodup_nil
  | cons id ids ih =>
      have linked := h.linked_remove id
      rw [removeAll_cons, List.map_append]
      refine List.nodup_append.2 ⟨h.nodup_remove id, ih linked, ?_⟩
      rintro _ hfirst _ hrest heq
      obtain ⟨r, hr, rfl⟩ := List.mem_map.1 hfirst
      obtain ⟨s, hs, rfl⟩ := List.mem_map.1 hrest
      have hkept := ((linked.mem_removeAll_iff ids s).1 hs).1
      have hgone := ((h.mem_remove_iff id r).1 hr).2
      exact ((h.cutOut_remove id).get?_of_get? hkept).2 (heq ▸ hgone)

/-- Nothing is removed before what hangs below it, in several removals as well. -/
theorem Linked.pairwise_removeAll (h : Linked g) (hloop : ∀ x, ¬ TransGen g.Above x x)
    (ids : List String) :
    (g.removeAll ids).2.Pairwise fun r s => ¬ ReflTransGen g.Above r.id s.id := by
  induction ids generalizing g with
  | nil => exact List.Pairwise.nil
  | cons id ids ih =>
      have cut := h.cutOut_remove id
      have kept : ∀ {s}, s ∈ ((g.remove id).1.removeAll ids).2 →
          ¬ ReflTransGen g.Above id s.id := fun {s} hs =>
        (cut.get?_of_get? (((h.linked_remove id).mem_removeAll_iff ids s).1 hs).1).2
      have hloop' : ∀ x, ¬ TransGen (g.remove id).1.Above x x := fun x loop =>
        hloop x (TransGen.mono (fun _ _ hpc => (cut.above_iff.1 hpc).1) _ _ loop)
      rw [removeAll_cons]
      refine List.pairwise_append.2 ⟨h.pairwise_remove (hloop id), ?_, ?_⟩
      · refine (ih (h.linked_remove id) hloop').imp_of_mem fun {r s} _ hs hrs hreach => hrs ?_
        exact cut.reaches_kept (fun hp hpc => hp.tail hpc) (kept hs) hreach
      · intro r hr s hs hreach
        exact kept hs (((h.mem_remove_iff id r).1 hr).2.trans hreach)

end RemoveAll

section Cover

theorem Linked.linked_removeCovered [Location L] (h : Linked g) (query : L) :
    Linked (g.removeCovered query).1 :=
  h.linked_removeAll _

/-- A query removes what it addresses, and everything below that. -/
theorem Linked.mem_removeCovered_iff [Location L] (h : Linked g) (query : L) (s : Resource L) :
    s ∈ (g.removeCovered query).2 ↔ g.get? s.id = some s ∧
      ∃ r ∈ g.find query, ReflTransGen g.Above r.id s.id := by
  simp [removeCovered, h.mem_removeAll_iff, ReachedFrom]

theorem Linked.linked_clear (h : Linked g) : Linked g.clear.1 :=
  h.linked_removeAll _

end Cover

end EndpointMonitor.ResourceGraph
