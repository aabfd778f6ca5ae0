import EndpointMonitor.Proofs.Resource.Links

/-!
# Adding to the resource graph

Adding a resource either finds one like it, and then nothing happens, or gives the resource
its place. What hung below a replaced resource goes on to hang below it; the resource itself
leaves its old place and hangs below its parent, if that is another stored node.
-/

namespace EndpointMonitor.ResourceGraph

variable {L : Type} {g g' : ResourceGraph L} {r : Resource L}

/-- The second graph is the first with a resource put into its place. -/
structure PutIn (g : ResourceGraph L) (r : Resource L) (g' : ResourceGraph L) : Prop where
  get?_eq : ∀ x, g'.get? x = if x = r.id then some r else g.get? x
  above_iff : ∀ {p c}, g'.Above p c ↔ g.Above p c ∧ c ≠ r.id ∨
    c = r.id ∧ r.parent = some p ∧ p ∈ g.nodes ∧ p ≠ r.id
  mem_roots_iff : ∀ {x}, x ∈ g'.roots ↔ x ∈ g.roots ∧ x ≠ r.id ∨
    x = r.id ∧ ∀ p, r.parent = some p → p ∈ g.nodes → p = r.id

namespace PutIn

theorem mem_nodes_iff (h : PutIn g r g') {x : String} :
    x ∈ g'.nodes ↔ x = r.id ∨ x ∈ g.nodes := by
  rw [ResourceGraph.mem_nodes_iff, ResourceGraph.mem_nodes_iff, h.get?_eq]
  split <;> simp [*]

theorem get?_self (h : PutIn g r g') : g'.get? r.id = some r := by
  rw [h.get?_eq, if_pos rfl]

theorem get?_of_ne (h : PutIn g r g') {x : String} (hx : x ≠ r.id) : g'.get? x = g.get? x := by
  rw [h.get?_eq, if_neg hx]

/-- Putting a resource into its place keeps the links in order. -/
theorem linked (h : PutIn g r g') (hg : Linked g) : Linked g' where
  id_eq {x s} hs := by
    rw [h.get?_eq] at hs
    split at hs
    · rename_i hx
      rw [← Option.some.inj hs, hx]
    · exact hg.id_eq hs
  parent_eq {p c} hpc := by
    rcases h.above_iff.1 hpc with ⟨hpc, hc⟩ | ⟨rfl, hp, -, -⟩
    · rw [h.get?_of_ne hc]
      exact hg.parent_eq hpc
    · exact ⟨r, h.get?_self, hp⟩
  irrefl {p} hpp := by
    rcases h.above_iff.1 hpp with ⟨hpp, -⟩ | ⟨hp, -, -, hne⟩
    · exact hg.irrefl hpp
    · exact hne hp
  root_stored {x} hx := by
    rw [h.mem_nodes_iff]
    rcases h.mem_roots_iff.1 hx with ⟨hx, -⟩ | ⟨hx, -⟩
    · exact Or.inr (hg.root_stored hx)
    · exact Or.inl hx
  root_free {x p} hx hpx := by
    rcases h.mem_roots_iff.1 hx with ⟨hroot, hne⟩ | ⟨heq, hparent⟩
    · rcases h.above_iff.1 hpx with ⟨hpx, -⟩ | ⟨heq, -⟩
      · exact hg.root_free hroot hpx
      · exact hne heq
    · rcases h.above_iff.1 hpx with ⟨-, hne⟩ | ⟨-, hp, hstored, hne⟩
      · exact hne heq
      · exact hne (hparent p hp hstored)
  placed {x} hx := by
    by_cases heq : x = r.id
    · by_cases hp : ∃ p, r.parent = some p ∧ p ∈ g.nodes ∧ p ≠ r.id
      · obtain ⟨p, hp⟩ := hp
        exact Or.inr ⟨p, h.above_iff.2 (Or.inr ⟨heq, hp⟩)⟩
      · refine Or.inl (h.mem_roots_iff.2 (Or.inr ⟨heq, fun p hpar hstored => ?_⟩))
        by_contra hne
        exact hp ⟨p, hpar, hstored, hne⟩
    · rcases hg.placed ((h.mem_nodes_iff.1 hx).resolve_left heq) with hroot | ⟨p, hp⟩
      · exact Or.inl (h.mem_roots_iff.2 (Or.inl ⟨hroot, heq⟩))
      · exact Or.inr ⟨p, h.above_iff.2 (Or.inl ⟨hp, heq⟩)⟩

end PutIn

section Place

variable (g : ResourceGraph L) (r : Resource L) (children : Std.TreeSet String)

theorem get?_place (x : String) :
    (g.place r children).get? x = if x = r.id then some r else g.get? x := by
  simp only [get?, place, Std.TreeMap.getElem?_insert, Std.LawfulEqOrd.compare_eq_iff_eq,
    eq_comm (a := r.id)]
  split
  · rfl
  · exact get?_attach g r x

theorem above_place (p c : String) :
    (g.place r children).Above p c ↔
      if p = r.id then c ∈ children else (g.attach r).Above p c := by
  simp only [Above, place, Std.TreeMap.getElem?_insert, Std.LawfulEqOrd.compare_eq_iff_eq,
    eq_comm (a := r.id)]
  split
  · simp
  · rfl

theorem mem_nodes_erase (id x : String) :
    x ∈ ({ g with nodes := g.nodes.erase id } : ResourceGraph L).nodes ↔
      x ∈ g.nodes ∧ x ≠ id := by
  rw [Std.TreeMap.mem_erase, ne_eq, Std.LawfulEqOrd.compare_eq_iff_eq, eq_comm, and_comm]

theorem get?_eraseNode (id x : String) :
    ({ g with nodes := g.nodes.erase id } : ResourceGraph L).get? x =
      if x = id then none else g.get? x := by
  simp only [get?, Std.TreeMap.getElem?_erase, Std.LawfulEqOrd.compare_eq_iff_eq,
    eq_comm (a := id)]
  split <;> rfl

theorem above_eraseNode (id p c : String) :
    ({ g with nodes := g.nodes.erase id } : ResourceGraph L).Above p c ↔
      p ≠ id ∧ g.Above p c := by
  simp only [Above, Std.TreeMap.getElem?_erase, Std.LawfulEqOrd.compare_eq_iff_eq,
    eq_comm (a := id)]
  split <;> simp [*]

end Place

theorem putIn_place_new (h : Linked g) (hnew : r.id ∉ g.nodes) : PutIn g r (g.place r ∅) where
  get?_eq x := get?_place g r ∅ x
  above_iff {p c} := by
    have fresh : g.Above p c → c ≠ r.id := by
      rintro hpc rfl
      exact hnew (h.above_stored hpc).2
    rw [above_place]
    split
    · rename_i hp
      subst hp
      simp only [Std.TreeSet.not_mem_emptyc, ne_eq, not_true, and_false, or_false, false_iff]
      rintro ⟨hpc, -⟩
      exact hnew (h.above_stored hpc).1
    · rename_i hp
      rw [above_attach]
      constructor
      · rintro (hpc | ⟨hpar, hstored, hc⟩)
        · exact Or.inl ⟨hpc, fresh hpc⟩
        · exact Or.inr ⟨hc, hpar, hstored, hp⟩
      · rintro (⟨hpc, -⟩ | ⟨hc, hpar, hstored, -⟩)
        · exact Or.inl hpc
        · exact Or.inr ⟨hpar, hstored, hc⟩
  mem_roots_iff {x} := by
    have roots : (g.place r ∅).roots = (g.attach r).roots := rfl
    rw [roots, mem_roots_attach]
    refine or_congr (iff_self_and.2 ?_) (and_congr_right fun _ => forall₂_congr fun p _ => ?_)
    · rintro hx rfl
      exact hnew (h.root_stored hx)
    · refine ⟨fun hp hstored => absurd hstored hp, fun hp hstored => ?_⟩
      exact hnew (hp hstored ▸ hstored)

theorem putIn_place_changed (h : Linked g) {n : GraphNode L} (hn : g.nodes[r.id]? = some n) :
    PutIn g r ((({ g with nodes := g.nodes.erase r.id } : ResourceGraph L).detach
      n.resource).place r n.children) := by
  have hold : g.get? r.id = some n.resource := by simp [get?, hn]
  have hid : n.resource.id = r.id := h.id_eq hold
  have stored : ∀ p, p ∈ (({ g with nodes := g.nodes.erase r.id } : ResourceGraph L).detach
      n.resource).nodes ↔ p ∈ g.nodes ∧ p ≠ r.id := by
    intro p
    rw [ResourceGraph.mem_nodes_iff, get?_detach, ← ResourceGraph.mem_nodes_iff, mem_nodes_erase]
  refine ⟨fun x => ?_, fun {p c} => ?_, fun {x} => ?_⟩
  · rw [get?_place, get?_detach, get?_eraseNode]
    split <;> rfl
  · rw [above_place]
    split
    · rename_i hp
      subst hp
      have hchild : c ∈ n.children ↔ g.Above r.id c := by
        rw [Above, hn]
        simp
      simp only [hchild, ne_eq, not_true, and_false, or_false]
      refine iff_self_and.2 ?_
      rintro hpc rfl
      exact h.irrefl hpc
    · rename_i hp
      rw [above_attach, above_detach, above_eraseNode, stored, hid]
      constructor
      · rintro (⟨⟨-, hpc⟩, hne⟩ | ⟨hpar, hstored, hc⟩)
        · refine Or.inl ⟨hpc, ?_⟩
          rintro rfl
          exact hne ⟨h.parent_of_above hpc hold, rfl⟩
        · exact Or.inr ⟨hc, hpar, hstored⟩
      · rintro (⟨hpc, hc⟩ | ⟨hc, hpar, hstored⟩)
        · exact Or.inl ⟨⟨hp, hpc⟩, fun heq => hc heq.2⟩
        · exact Or.inr ⟨hpar, hstored, hc⟩
  · have roots : ∀ g : ResourceGraph L, (g.place r n.children).roots = (g.attach r).roots :=
      fun _ => rfl
    rw [roots, mem_roots_attach, mem_roots_detach, hid]
    refine or_congr Iff.rfl (and_congr_right fun _ => forall₂_congr fun p _ => ?_)
    rw [stored, not_and_not_right]

section Add

variable [Location L]

/-- What adding a resource does: nothing if the stored one is like it, and otherwise the
resource gets its place and the event says whether it was stored before. -/
theorem add_cases (h : Linked g) (r : Resource L) :
    (∃ old, g.get? r.id = some old ∧ old.isLike r = true ∧ g.add r = ⟨g, .unchanged, []⟩) ∨
    (∃ old g', g.get? r.id = some old ∧ old.isLike r = false ∧ PutIn g r g' ∧
      g.add r = ⟨g', .modified, [.modified r]⟩) ∨
    (∃ g', g.get? r.id = none ∧ PutIn g r g' ∧ g.add r = ⟨g', .added, [.added r]⟩) := by
  unfold add
  split
  · rename_i hn
    have hnone : g.get? r.id = none := by simp [get?, hn]
    exact Or.inr (Or.inr ⟨_, hnone,
      putIn_place_new h ((get?_eq_none_iff g r.id).1 hnone), rfl⟩)
  · rename_i n hn
    have hsome : g.get? r.id = some n.resource := by simp [get?, hn]
    split
    · rename_i hlike
      exact Or.inl ⟨n.resource, hsome, hlike, rfl⟩
    · rename_i hlike
      exact Or.inr (Or.inl ⟨n.resource, _, hsome, Bool.eq_false_iff.2 hlike,
        putIn_place_changed h hn, rfl⟩)

/-- The graph afterwards is the one before, with one like the resource, or has it put in. -/
theorem eq_or_putIn_add (h : Linked g) (r : Resource L) :
    (∃ old, g.get? r.id = some old ∧ old.isLike r = true ∧ (g.add r).graph = g) ∨
      PutIn g r (g.add r).graph := by
  rcases add_cases h r with ⟨old, hold, hlike, heq⟩ | ⟨old, g', -, -, hput, heq⟩ |
    ⟨g', -, hput, heq⟩
  · exact Or.inl ⟨old, hold, hlike, congrArg Addition.graph heq⟩
  · exact Or.inr (heq ▸ hput)
  · exact Or.inr (heq ▸ hput)

theorem linked_add (h : Linked g) (r : Resource L) : Linked (g.add r).graph := by
  rcases eq_or_putIn_add h r with ⟨old, -, -, heq⟩ | hput
  · rwa [heq]
  · exact hput.linked h

/-- An added resource is stored, or one like it. -/
theorem stored_add (h : Linked g) (r : Resource L) :
    ∃ s, (g.add r).graph.get? r.id = some s ∧ s.isLike r = true := by
  rcases eq_or_putIn_add h r with ⟨old, hold, hlike, heq⟩ | hput
  · rw [heq]
    exact ⟨old, hold, hlike⟩
  · exact ⟨r, hput.get?_self, r.isLike_self⟩

theorem get?_add_of_ne (h : Linked g) {x : String} (hx : x ≠ r.id) :
    (g.add r).graph.get? x = g.get? x := by
  rcases eq_or_putIn_add h r with ⟨old, -, -, heq⟩ | hput
  · rw [heq]
  · exact hput.get?_of_ne hx

end Add

end EndpointMonitor.ResourceGraph
