import EndpointMonitor.Proofs.Resource.Calls
import EndpointMonitor.Proofs.Resource.Replay

/-!
# What a removal takes

A removal takes a resource and all that is reached from it through the links, and nothing else. It
lists each once and before the resource that it hangs below, also where parents are in a circle:
the first step takes the resource from its place, so no way down comes back to it. A query takes
what it addresses together with all that is below.
-/

namespace EndpointMonitor.ResourceGraph

open Relation

variable {L : Type} {g : ResourceGraph L}

/-- Two different members of a list stand in it one after the other. -/
theorem pair_sublist_or {α : Type} {l : List α} {a b : α} (ha : a ∈ l) (hb : b ∈ l)
    (hne : a ≠ b) : [a, b].Sublist l ∨ [b, a].Sublist l := by
  obtain ⟨s, t, rfl⟩ := List.append_of_mem ha
  rcases List.mem_append.1 hb with hb | hb
  · right
    exact (List.singleton_sublist.2 hb).append (List.singleton_sublist.2 List.mem_cons_self)
  · have hb := (List.mem_cons.1 hb).resolve_left hne.symm
    left
    exact ((List.singleton_sublist.2 hb).cons_cons a).trans (List.sublist_append_right s _)

section Order

theorem head?_subtree_succ (g : ResourceGraph L) (n : Nat) (id : String) :
    (g.subtree (n + 1) id).head? = g.get? id := by
  rw [subtree, get?]
  split <;> simp [*]

theorem size_pos_of_get? {id : String} {r : Resource L} (hr : g.get? id = some r) :
    0 < g.size := by
  have hid := Std.TreeMap.mem_keys.2 ((mem_nodes_iff g id).2 ⟨r, hr⟩)
  rw [size, ← Std.TreeMap.length_keys]
  exact List.length_pos_of_mem hid

/-- The resource itself is removed last. -/
theorem getLast?_remove (g : ResourceGraph L) (id : String) :
    (g.remove id).2.getLast? = g.get? id := by
  unfold remove
  split
  · rename_i hnone
    exact hnone.symm
  · rename_i r hr
    have hsize : 0 < (g.detach r).size := size_pos_of_get? ((get?_detach g r id).trans hr)
    obtain ⟨n, hn⟩ := Nat.exists_eq_add_of_lt hsize
    rw [List.getLast?_reverse, hn, Nat.zero_add, head?_subtree_succ, get?_detach]

/-- What is removed with a resource hangs below another that is removed after it. -/
theorem Linked.above_removed (h : Linked g) {id : String} {s : Resource L}
    (hs : s ∈ (g.remove id).2) (hne : s.id ≠ id) :
    ∃ r, g.Above r.id s.id ∧ [s, r].Sublist (g.remove id).2 := by
  obtain ⟨-, hreach⟩ := (h.mem_remove_iff id s).1 hs
  rcases ReflTransGen.cases_tail hreach with heq | ⟨p, hp, hps⟩
  · exact absurd heq hne
  obtain ⟨r, hr⟩ := (mem_nodes_iff g p).1 (h.above_stored hps).1
  have hid := h.id_eq hr
  subst hid
  have hmem : r ∈ (g.remove id).2 := (h.mem_remove_iff id r).2 ⟨hr, hp⟩
  have hsr : s ≠ r := fun heq => h.irrefl (heq ▸ hps)
  -- Were the parent removed first, something would be left below what is gone.
  refine ⟨r, hps, (pair_sublist_or hs hmem hsr).resolve_right fun hrs => ?_⟩
  have apart := List.pairwise_iff_forall_sublist.1 (h.pairwise_remove_aboveBut id) hrs
  exact apart (.single ⟨hps, hne⟩)

end Order

section Rest

/-- A node that is left has lost none of those directly below it but the removed resource. -/
theorem Linked.above_remove_iff (h : Linked g) {id p c : String}
    (hp : p ∉ (g.remove id).2.map (·.id)) :
    (g.remove id).1.Above p c ↔ g.Above p c ∧ c ≠ id := by
  rw [(h.cutOut_remove id).above_iff]
  refine and_congr_right fun hpc => ?_
  have hp : ¬ ReflTransGen g.Above id p := fun hreach =>
    hp ((h.mem_removedIds_iff id p).2 ⟨(h.above_stored hpc).1, hreach⟩)
  refine (and_iff_right hp).trans (not_congr ⟨fun hc => ?_, ?_⟩)
  · by_contra hne
    exact hp (h.reaches_parent hpc hc (Ne.symm hne))
  · rintro rfl
    exact .refl

theorem Linked.mem_roots_remove_iff (h : Linked g) {id x : String} :
    x ∈ (g.remove id).1.roots ↔ x ∈ g.roots ∧ x ≠ id := by
  rw [(h.cutOut_remove id).mem_roots_iff]
  refine and_congr_right fun hx => not_congr ⟨fun hreach => ?_, ?_⟩
  · exact (h.eq_of_reaches_root hx hreach).symm
  rintro rfl
  exact .refl

end Rest

/-- Removing a resource takes what is reached from it, and leaves the rest as it is. -/
structure RemovesSubtree (g : ResourceGraph L) (id : String) : Prop where
  mem_iff : ∀ s, s ∈ (g.remove id).2 ↔ g.get? s.id = some s ∧ ReflTransGen g.Above id s.id
  nodup : ((g.remove id).2.map (·.id)).Nodup
  /-- The resource itself is the last, and nothing is removed if there is none. -/
  getLast?_eq : (g.remove id).2.getLast? = g.get? id
  /-- Every other one stands before the only resource that it hung below. -/
  before_parent : ∀ s ∈ (g.remove id).2, s.id ≠ id →
    ∃ r, (∀ p, g.Above p s.id ↔ p = r.id) ∧ [s, r].Sublist (g.remove id).2
  get?_eq : ∀ x, (g.remove id).1.get? x =
    if x ∈ (g.remove id).2.map (·.id) then none else g.get? x
  above_iff : ∀ p, p ∉ (g.remove id).2.map (·.id) →
    ∀ c, (g.remove id).1.Above p c ↔ g.Above p c ∧ c ≠ id
  mem_roots_iff : ∀ x, x ∈ (g.remove id).1.roots ↔ x ∈ g.roots ∧ x ≠ id

theorem Linked.removesSubtree (h : Linked g) (id : String) : RemovesSubtree g id where
  mem_iff := h.mem_remove_iff id
  nodup := h.nodup_remove id
  getLast?_eq := g.getLast?_remove id
  before_parent s hs hne := by
    obtain ⟨r, hrs, hsub⟩ := h.above_removed hs hne
    refine ⟨r, fun p => ⟨fun hp => h.above_unique hp hrs, ?_⟩, hsub⟩
    rintro rfl
    exact hrs
  get?_eq := h.get?_remove id
  above_iff _ hp _ := h.above_remove_iff hp
  mem_roots_iff _ := h.mem_roots_remove_iff

section Query

variable [Location L]

theorem Linked.mem_find_iff (h : Linked g) (query : L) (r : Resource L) :
    r ∈ g.find query ↔ (g.get? r.id = some r ∧ ∃ root ∈ g.roots, ReflTransGen g.Above root r.id) ∧
      Location.covers query r.location = true := by
  rw [find, List.mem_filter, h.mem_depthFirst_iff]

/-- What a query addresses is gone once it was removed. -/
theorem Linked.find_removeCovered (h : Linked g) (query : L) :
    (g.removeCovered query).1.find query = [] := by
  have cut := h.cutOut_removeAll ((g.find query).map (·.id))
  refine List.eq_nil_iff_forall_not_mem.2 fun r hr => ?_
  obtain ⟨⟨hget, root, hroot, hreach⟩, hcovers⟩ :=
    ((h.linked_removeCovered query).mem_find_iff query r).1 hr
  obtain ⟨hstored, hkept⟩ := cut.get?_of_get? hget
  have hfound : r ∈ g.find query := (h.mem_find_iff query r).2
    ⟨⟨hstored, root, (cut.mem_roots_iff.1 hroot).1, cut.reaches_mono hreach⟩, hcovers⟩
  exact hkept ⟨r.id, List.mem_map_of_mem hfound, .refl⟩

/-- A query removes what it addresses and everything below that, until it addresses nothing. -/
structure RemovesMatches (g : ResourceGraph L) (query : L) : Prop where
  mem_iff : ∀ s, s ∈ (g.removeCovered query).2 ↔ g.get? s.id = some s ∧
    ∃ r ∈ g.find query, ReflTransGen g.Above r.id s.id
  nodup : ((g.removeCovered query).2.map (·.id)).Nodup
  find_eq_nil : (g.removeCovered query).1.find query = []

theorem Linked.removesMatches (h : Linked g) (query : L) : RemovesMatches g query where
  mem_iff := h.mem_removeCovered_iff query
  nodup := h.nodup_removeAll _
  find_eq_nil := h.find_removeCovered query

end Query

/-- The graph that calls on a new one lead to, each with its rules for locations. -/
def afterCalls (calls : List (Location L × GraphCall L)) : ResourceGraph L :=
  calls.foldl (fun g (rules, c) => @call L rules g c) {}

theorem linked_afterCalls (calls : List (Location L × GraphCall L)) :
    Linked (afterCalls calls) := by
  refine List.foldlRecOn calls _ linked_empty fun g h (rules, c) _ => ?_
  exact h.call c

/-- Whatever calls led to a graph, removing a resource takes exactly what is reached from it, and a
query exactly what it addresses with everything below. -/
theorem removals_exact (calls : List (Location L × GraphCall L)) :
    (∀ id, RemovesSubtree (afterCalls calls) id) ∧
      ∀ (_ : Location L) (query : L), RemovesMatches (afterCalls calls) query :=
  have linked := linked_afterCalls calls
  ⟨linked.removesSubtree, fun _ => linked.removesMatches⟩

end EndpointMonitor.ResourceGraph
