import EndpointMonitor.Proofs.Resource.Loops

/-!
# Forests of resources

In a forest every node is reached from the top, and the top holds exactly the resources without
a parent. Removing keeps a forest. So does adding resources, as long as each comes after its
parent: the way from the top to what was added before is never given up, and it is all that a
new place depends on.
-/

namespace EndpointMonitor.ResourceGraph

open Relation

variable {L : Type} {g g' : ResourceGraph L}

/-- Every node is reached from the top, where only resources without a parent are. -/
structure Forest (g : ResourceGraph L) : Prop extends Linked g where
  parent_eq_none : ∀ {id r}, id ∈ g.roots → g.get? id = some r → r.parent = none
  rooted : ∀ {id}, id ∈ g.nodes → ∃ root ∈ g.roots, ReflTransGen g.Above root id

theorem forest_empty : Forest ({} : ResourceGraph L) where
  toLinked := linked_empty
  parent_eq_none h := by simp at h
  rooted h := by simp at h

namespace Forest

theorem mem_roots_iff (h : Forest g) {id : String} :
    id ∈ g.roots ↔ ∃ r, g.get? id = some r ∧ r.parent = none := by
  constructor
  · intro hroot
    obtain ⟨r, hr⟩ := (mem_nodes_iff g id).1 (h.root_stored hroot)
    exact ⟨r, hr, h.parent_eq_none hroot hr⟩
  · rintro ⟨r, hr, hnone⟩
    refine (h.placed ((mem_nodes_iff g id).2 ⟨r, hr⟩)).resolve_right ?_
    rintro ⟨p, hp⟩
    have hparent := h.parent_of_above hp hr
    simp [hnone] at hparent

theorem above_iff (h : Forest g) {p c : String} :
    g.Above p c ↔ ∃ r, g.get? c = some r ∧ r.parent = some p := by
  refine ⟨h.parent_eq, ?_⟩
  rintro ⟨r, hr, hparent⟩
  rcases h.placed ((mem_nodes_iff g c).2 ⟨r, hr⟩) with hroot | ⟨q, hq⟩
  · simp [h.parent_eq_none hroot hr] at hparent
  · have hrq := h.parent_of_above hq hr
    rw [hparent] at hrq
    cases hrq
    exact hq

/-- No node of a forest is below itself. -/
theorem not_loop (h : Forest g) (x : String) : ¬ TransGen g.Above x x :=
  h.toLinked.loopless_iff.2 (fun _ => h.rooted) x

theorem mem_depthFirst_iff (h : Forest g) (r : Resource L) :
    r ∈ g.depthFirst ↔ g.get? r.id = some r := by
  rw [h.toLinked.mem_depthFirst_iff]
  exact and_iff_left_of_imp fun hr => h.rooted ((mem_nodes_iff g r.id).2 ⟨r, hr⟩)

end Forest

theorem CutOut.forest {gone : String → Prop} (h : CutOut g gone g') (hg : Forest g)
    (closed : ∀ {p c}, gone p → g.Above p c → gone c) : Forest g' where
  toLinked := h.linked hg.toLinked closed
  parent_eq_none {id r} hroot hr :=
    hg.parent_eq_none (h.mem_roots_iff.1 hroot).1 (h.get?_of_get? hr).1
  rooted {id} hid := by
    obtain ⟨hstored, hkept⟩ := h.mem_nodes_iff.1 hid
    obtain ⟨root, hroot, hreach⟩ := hg.rooted hstored
    have hreach' := h.reaches_kept closed hkept hreach
    refine ⟨root, h.mem_roots_iff.2 ⟨hroot, fun hgone => hkept ?_⟩, hreach'⟩
    exact hreach.rec hgone fun _ step ih => closed ih step

theorem Forest.removeAll (h : Forest g) (ids : List String) : Forest (g.removeAll ids).1 :=
  (h.cutOut_removeAll ids).forest h ReachedFrom.closed

section Anchors

/-- Each of some nodes is reached from the top through these nodes only. -/
def Anchored (g : ResourceGraph L) (done : List String) : Prop :=
  ∀ d ∈ done, ∃ root ∈ g.roots, root ∈ done ∧
    ReflTransGen (fun p c => g.Above p c ∧ c ∈ done) root d

variable {r : Resource L} {done : List String}

/-- A place of a node once the nodes above it have their places. -/
theorem anchored_cons (h : Anchored g done)
    (hplace : r.id ∈ g.roots ∨ ∃ p ∈ done, g.Above p r.id) : Anchored g (r.id :: done) := by
  have wider : ∀ {x y}, ReflTransGen (fun p c => g.Above p c ∧ c ∈ done) x y →
      ReflTransGen (fun p c => g.Above p c ∧ c ∈ r.id :: done) x y := fun hxy =>
    ReflTransGen.mono (fun _ _ hpc => ⟨hpc.1, List.mem_cons_of_mem _ hpc.2⟩) _ _ hxy
  intro d hd
  rcases List.mem_cons.1 hd with rfl | hd
  · rcases hplace with hroot | ⟨p, hp, habove⟩
    · exact ⟨r.id, hroot, List.mem_cons_self, .refl⟩
    · obtain ⟨root, hroot, hdone, hreach⟩ := h p hp
      exact ⟨root, hroot, List.mem_cons_of_mem _ hdone,
        (wider hreach).tail ⟨habove, List.mem_cons_self⟩⟩
  · obtain ⟨root, hroot, hdone, hreach⟩ := h d hd
    exact ⟨root, hroot, List.mem_cons_of_mem _ hdone, wider hreach⟩

/-- What is anchored stays so while another resource is put into its place. -/
theorem PutIn.anchored (h : PutIn g r g') (hanchored : Anchored g done) (hnew : r.id ∉ done) :
    Anchored g' done := by
  intro d hd
  obtain ⟨root, hroot, hdone, hreach⟩ := hanchored d hd
  have kept : ∀ {c}, c ∈ done → c ≠ r.id := fun hc heq => hnew (heq ▸ hc)
  refine ⟨root, h.mem_roots_iff.2 (Or.inl ⟨hroot, kept hdone⟩), hdone, ?_⟩
  exact ReflTransGen.mono
    (fun _ _ hpc => ⟨h.above_iff.2 (Or.inl ⟨hpc.1, kept hpc.2⟩), hpc.2⟩) _ _ hreach

/-- A forest stays one if a resource is put below an anchored node, or at the top if it has no
parent. -/
theorem PutIn.forest (h : PutIn g r g') (hg : Forest g) (hanchored : Anchored g done)
    (hstored : ∀ d ∈ done, d ∈ g.nodes) (hnew : r.id ∉ done)
    (hparent : ∀ p, r.parent = some p → p ∈ done) :
    Forest g' ∧ Anchored g' (r.id :: done) := by
  have others := h.anchored hanchored hnew
  have hplace : r.id ∈ g'.roots ∨ ∃ p ∈ done, g'.Above p r.id := by
    cases hp : r.parent with
    | none => exact Or.inl (h.mem_roots_iff.2 (Or.inr ⟨rfl, fun p hp' => by simp [hp] at hp'⟩))
    | some p =>
        have hdone := hparent p hp
        refine Or.inr ⟨p, hdone, h.above_iff.2 (Or.inr ⟨rfl, hp, hstored p hdone, ?_⟩)⟩
        exact fun heq => hnew (heq ▸ hdone)
  have all := anchored_cons others hplace
  refine ⟨⟨h.linked hg.toLinked, ?_, ?_⟩, all⟩
  · intro id s hroot hs
    rcases h.mem_roots_iff.1 hroot with ⟨hroot, hne⟩ | ⟨rfl, htop⟩
    · exact hg.parent_eq_none hroot ((h.get?_of_ne hne).symm.trans hs)
    · rw [h.get?_self] at hs
      cases hs
      cases hp : r.parent with
      | none => rfl
      | some p =>
          have hdone := hparent p hp
          exact absurd hdone (htop p hp (hstored p hdone) ▸ hnew)
  · obtain ⟨top, htop, -, hself⟩ := all r.id List.mem_cons_self
    have hself : ∃ root ∈ g'.roots, ReflTransGen g'.Above root r.id :=
      ⟨top, htop, ReflTransGen.mono (fun _ _ hpc => hpc.1) _ _ hself⟩
    -- Each link of an old way is kept, or leads to the new place.
    have reached : ∀ {root x}, root ∈ g.roots → ReflTransGen g.Above root x →
        ∃ top ∈ g'.roots, ReflTransGen g'.Above top x := by
      intro root x hroot hx
      induction hx with
      | refl =>
          by_cases heq : root = r.id
          · rwa [heq]
          · exact ⟨root, h.mem_roots_iff.2 (Or.inl ⟨hroot, heq⟩), .refl⟩
      | @tail y z _ step ih =>
          by_cases heq : z = r.id
          · rwa [heq]
          · obtain ⟨top, htop, hy⟩ := ih
            exact ⟨top, htop, hy.tail (h.above_iff.2 (Or.inl ⟨step, heq⟩))⟩
    intro x hx
    rcases h.mem_nodes_iff.1 hx with rfl | hx
    · exact hself
    · obtain ⟨root, hroot, hreach⟩ := hg.rooted hx
      exact reached hroot hreach

end Anchors

end EndpointMonitor.ResourceGraph
