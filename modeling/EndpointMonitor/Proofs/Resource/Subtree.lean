import EndpointMonitor.Proofs.Resource.Links
import Mathlib.Data.List.Perm.Subperm

/-!
# Walking down the resource graph

A walk down from a node that hangs below no other finds exactly what can be reached from it
through the links, each resource once and never below one that comes later. That its greatest
depth suffices follows from the path back up: a node has one parent at most, so the path is
the only one and repeats no node.
-/

namespace EndpointMonitor.ResourceGraph

open Relation

variable {L : Type} {g : ResourceGraph L}

theorem mem_subtree_succ (g : ResourceGraph L) (n : Nat) (x : String) (r : Resource L) :
    r ∈ g.subtree (n + 1) x ↔
      g.get? x = some r ∨ ∃ c, g.Above x c ∧ r ∈ g.subtree n c := by
  rw [subtree]
  split
  · rename_i hn
    simp [get?, Above, hn]
  · rename_i node hn
    simp [get?, Above, hn, eq_comm]

namespace Consistent

/-- What a walk finds is stored, and reached from where the walk began. -/
theorem reaches_of_mem_subtree (h : Consistent g) {n : Nat} {x : String} {r : Resource L}
    (hr : r ∈ g.subtree n x) : ReflTransGen g.Above x r.id ∧ g.get? r.id = some r := by
  induction n generalizing x with
  | zero => simp [subtree] at hr
  | succ n ih =>
      rcases (mem_subtree_succ g n x r).1 hr with hx | ⟨c, hxc, hc⟩
      · rw [h.id_eq hx]
        exact ⟨.refl, hx⟩
      · obtain ⟨hreach, hget⟩ := ih hc
        exact ⟨.head hxc hreach, hget⟩

/-- One level deeper a walk finds what hangs directly below what it found. -/
theorem mem_subtree_of_above (h : Consistent g) {n : Nat} {x : String} {r s : Resource L}
    (hr : r ∈ g.subtree n x) (hrs : g.Above r.id s.id) (hs : g.get? s.id = some s) :
    s ∈ g.subtree (n + 1) x := by
  induction n generalizing x with
  | zero => simp [subtree] at hr
  | succ n ih =>
      rw [mem_subtree_succ]
      rcases (mem_subtree_succ g n x r).1 hr with hx | ⟨c, hxc, hc⟩
      · rw [h.id_eq hx] at hrs
        exact Or.inr ⟨s.id, hrs, (mem_subtree_succ g n s.id s).2 (Or.inl hs)⟩
      · exact Or.inr ⟨c, hxc, ih hc⟩

end Consistent

theorem subtree_mono (g : ResourceGraph L) {n m : Nat} (hnm : n ≤ m) {x : String}
    {r : Resource L} (hr : r ∈ g.subtree n x) : r ∈ g.subtree m x := by
  induction n generalizing x m with
  | zero => simp [subtree] at hr
  | succ n ih =>
      obtain ⟨m, rfl⟩ : ∃ k, m = k + 1 := ⟨m - 1, by omega⟩
      rw [mem_subtree_succ] at hr ⊢
      rcases hr with hx | ⟨c, hxc, hc⟩
      · exact Or.inl hx
      · exact Or.inr ⟨c, hxc, ih (by omega) hc⟩

/-- The nodes passed on the way from a node down to another, the nearest first. -/
inductive Trail (g : ResourceGraph L) (x : String) : List String → String → Prop
  | start : Trail g x [] x
  | down {l y z} (trail : Trail g x l y) (step : g.Above y z) : Trail g x (y :: l) z

theorem Trail.of_reaches {x y : String} (h : ReflTransGen g.Above x y) :
    ∃ l, Trail g x l y := by
  induction h with
  | refl => exact ⟨[], .start⟩
  | tail _ step ih =>
      obtain ⟨l, trail⟩ := ih
      exact ⟨_, trail.down step⟩

theorem Trail.mem_cases {x y z : String} {l : List String} (t : Trail g x l y) (hz : z ∈ l) :
    ∃ k, Trail g x k z ∧ k.length < l.length := by
  induction t with
  | start => simp at hz
  | @down l w _ t _ ih =>
      rcases List.mem_cons.1 hz with rfl | hz
      · exact ⟨l, t, by simp⟩
      · obtain ⟨k, tk, hk⟩ := ih hz
        exact ⟨k, tk, by simp only [List.length_cons]; omega⟩

section Free

variable {x : String}

theorem Trail.unique (h : Consistent g) (hx : ∀ p, ¬ g.Above p x) {y : String}
    {l k : List String} (tl : Trail g x l y) (tk : Trail g x k y) : l = k := by
  induction tl generalizing k with
  | start =>
      cases tk with
      | start => rfl
      | down _ step => exact absurd step (hx _)
  | down _ step ih =>
      cases tk with
      | start => exact absurd step (hx _)
      | down tk' step' =>
          cases h.above_unique step step'
          rw [ih tk']

/-- Below a node that hangs below no other no path passes a node twice. -/
theorem Trail.nodup (h : Consistent g) (hx : ∀ p, ¬ g.Above p x) {y : String}
    {l : List String} (t : Trail g x l y) : (y :: l).Nodup := by
  induction t with
  | start => simp
  | @down l y z t step ih =>
      refine List.nodup_cons.2 ⟨fun hz => ?_, ih⟩
      obtain ⟨k, tk, hk⟩ := (t.down step).mem_cases hz
      rw [Trail.unique h hx tk (t.down step)] at hk
      exact absurd hk (by simp)

theorem Trail.stored (h : Consistent g) {y : String} {l : List String} (t : Trail g x l y)
    (hy : y ∈ g.nodes) : ∀ z ∈ y :: l, z ∈ g.nodes := by
  induction t with
  | start => simpa using hy
  | @down l w z t step ih =>
      intro v hv
      rcases List.mem_cons.1 hv with rfl | hv
      · exact hy
      · exact ih (h.above_stored step).1 v hv

theorem Trail.length_lt (h : Consistent g) (hx : ∀ p, ¬ g.Above p x) {y : String}
    {l : List String} (t : Trail g x l y) (hy : y ∈ g.nodes) : l.length < g.size := by
  have sub : (y :: l) ⊆ g.nodes.keys := fun z hz =>
    Std.TreeMap.mem_keys.2 (t.stored h hy z hz)
  have := ((t.nodup h hx).subperm sub).length_le
  rw [Std.TreeMap.length_keys] at this
  exact this

theorem Trail.mem_subtree (h : Consistent g) {y : String} {l : List String}
    (t : Trail g x l y) {r : Resource L} (hr : g.get? y = some r) :
    r ∈ g.subtree (l.length + 1) x := by
  induction t generalizing r with
  | start => exact (mem_subtree_succ g 0 x r).2 (Or.inl hr)
  | @down l y z t step ih =>
      obtain ⟨s, hs⟩ := (mem_nodes_iff g y).1 (h.above_stored step).1
      have hy := h.id_eq hs
      have hz := h.id_eq hr
      subst hy hz
      exact h.mem_subtree_of_above (ih hs) step hr

/-- A walk down from a node that hangs below no other finds exactly what is reached from it. -/
theorem Consistent.mem_subtree_iff (h : Consistent g) (hx : ∀ p, ¬ g.Above p x)
    (r : Resource L) :
    r ∈ g.subtree g.size x ↔ ReflTransGen g.Above x r.id ∧ g.get? r.id = some r := by
  refine ⟨h.reaches_of_mem_subtree, fun ⟨hreach, hr⟩ => ?_⟩
  obtain ⟨l, t⟩ := Trail.of_reaches hreach
  have hlt := t.length_lt h hx ((mem_nodes_iff g r.id).2 ⟨r, hr⟩)
  exact g.subtree_mono hlt (t.mem_subtree h hr)

end Free

section Order

theorem not_loop_of_free {x : String} (hx : ∀ p, ¬ g.Above p x) : ¬ TransGen g.Above x x := by
  intro loop
  obtain ⟨p, -, hp⟩ := TransGen.tail'_iff.1 loop
  exact hx p hp

namespace Consistent

/-- Two nodes above a third are above one another. -/
theorem reaches_total (h : Consistent g) {x y z : String} (hx : ReflTransGen g.Above x z)
    (hy : ReflTransGen g.Above y z) :
    ReflTransGen g.Above x y ∨ ReflTransGen g.Above y x := by
  have unique : Relator.RightUnique (Function.swap g.Above) := fun _ _ _ hp hq =>
    h.above_unique hp hq
  rw [← reflTransGen_swap] at hx hy
  rcases ReflTransGen.total_of_right_unique unique hx hy with hxy | hyx
  · exact Or.inr (reflTransGen_swap.1 hxy)
  · exact Or.inl (reflTransGen_swap.1 hyx)

/-- A node that is reached by a way of its own is reached through its parent. -/
theorem reaches_parent (h : Consistent g) {p x c : String} (hpc : g.Above p c)
    (hxc : ReflTransGen g.Above x c) (hne : x ≠ c) : ReflTransGen g.Above x p := by
  rcases ReflTransGen.cases_tail hxc with heq | ⟨q, hxq, hqc⟩
  · exact absurd heq.symm hne
  · rwa [h.above_unique hpc hqc]

theorem not_loop_of_above (h : Consistent g) {x c : String} (hx : ¬ TransGen g.Above x x)
    (hxc : g.Above x c) : ¬ TransGen g.Above c c := by
  intro loop
  obtain ⟨p, hcp, hpc⟩ := TransGen.tail'_iff.1 loop
  cases h.above_unique hxc hpc
  exact hx (.head' hxc hcp)

/-- What is below one of two siblings is not below the other. -/
theorem siblings_apart (h : Consistent g) {x c d y : String} (hx : ¬ TransGen g.Above x x)
    (hc : g.Above x c) (hd : g.Above x d) (hne : c ≠ d) (hcy : ReflTransGen g.Above c y)
    (hdy : ReflTransGen g.Above d y) : False := by
  rcases h.reaches_total hcy hdy with hcd | hdc
  · exact hx (.head' hc (h.reaches_parent hd hcd hne))
  · exact hx (.head' hd (h.reaches_parent hc hdc hne.symm))

/-- A walk lists nothing twice, and nothing after what hangs below it. -/
theorem pairwise_subtree (h : Consistent g) (n : Nat) {x : String}
    (hx : ¬ TransGen g.Above x x) :
    (g.subtree n x).Pairwise fun r s => ¬ ReflTransGen g.Above s.id r.id := by
  induction n generalizing x with
  | zero => simp [subtree]
  | succ n ih =>
      rw [subtree]
      split
      · exact List.Pairwise.nil
      · rename_i node hn
        have hget : g.get? x = some node.resource := by simp [get?, hn]
        have above : ∀ c ∈ node.children.toList, g.Above x c := fun c hc =>
          ⟨node, hn, Std.TreeSet.mem_toList.1 hc⟩
        refine List.pairwise_cons.2 ⟨fun s hs hsx => ?_, ?_⟩
        · obtain ⟨c, hc, hs⟩ := List.mem_flatMap.1 hs
          rw [h.id_eq hget] at hsx
          have hcs := (h.reaches_of_mem_subtree hs).1
          exact hx (.head' (above c hc) (hcs.trans hsx))
        · refine List.pairwise_flatMap.2 ⟨fun c hc => ih (h.not_loop_of_above hx (above c hc)), ?_⟩
          refine Std.TreeSet.distinct_toList.imp_of_mem fun {c d} hc hd hcd r hr s hs hsr => ?_
          have hne : c ≠ d := fun heq => hcd (Std.LawfulEqOrd.compare_eq_iff_eq.2 heq)
          have hds := (h.reaches_of_mem_subtree hs).1
          exact h.siblings_apart hx (above c hc) (above d hd) hne
            (h.reaches_of_mem_subtree hr).1 (hds.trans hsr)

end Consistent

end Order

section DepthFirst

theorem Linked.mem_depthFirst_iff (h : Linked g) (r : Resource L) :
    r ∈ g.depthFirst ↔
      g.get? r.id = some r ∧ ∃ root ∈ g.roots, ReflTransGen g.Above root r.id := by
  simp only [depthFirst, List.mem_flatMap, Std.TreeSet.mem_toList]
  constructor
  · rintro ⟨root, hroot, hr⟩
    obtain ⟨hreach, hget⟩ := (h.mem_subtree_iff (fun _ => h.root_free hroot) r).1 hr
    exact ⟨hget, root, hroot, hreach⟩
  · rintro ⟨hget, root, hroot, hreach⟩
    exact ⟨root, hroot, (h.mem_subtree_iff (fun _ => h.root_free hroot) r).2 ⟨hreach, hget⟩⟩

theorem Linked.eq_of_reaches_root (h : Linked g) {x root : String} (hroot : root ∈ g.roots)
    (hx : ReflTransGen g.Above x root) : x = root := by
  rcases ReflTransGen.cases_tail hx with heq | ⟨p, -, hp⟩
  · exact heq.symm
  · exact absurd hp (h.root_free hroot)

/-- The listing of all resources names nothing twice, and nothing after what hangs below it. -/
theorem Linked.pairwise_depthFirst (h : Linked g) :
    g.depthFirst.Pairwise fun r s => ¬ ReflTransGen g.Above s.id r.id := by
  refine List.pairwise_flatMap.2 ⟨fun root hroot => ?_, ?_⟩
  · have hroot := Std.TreeSet.mem_toList.1 hroot
    exact h.pairwise_subtree _ (not_loop_of_free fun _ => h.root_free hroot)
  · refine Std.TreeSet.distinct_toList.imp_of_mem fun {x y} hx hy hxy r hr s hs hsr => hxy ?_
    have hxr := (h.reaches_of_mem_subtree hr).1
    have hyr := (h.reaches_of_mem_subtree hs).1.trans hsr
    rw [Std.LawfulEqOrd.compare_eq_iff_eq]
    rcases h.reaches_total hxr hyr with hreach | hreach
    · exact h.eq_of_reaches_root (Std.TreeSet.mem_toList.1 hy) hreach
    · exact (h.eq_of_reaches_root (Std.TreeSet.mem_toList.1 hx) hreach).symm

theorem Linked.nodup_depthFirst (h : Linked g) : (g.depthFirst.map (·.id)).Nodup := by
  refine List.pairwise_map.2 (h.pairwise_depthFirst.imp fun {r s} hrs heq => hrs ?_)
  rw [heq]

end DepthFirst

end EndpointMonitor.ResourceGraph
