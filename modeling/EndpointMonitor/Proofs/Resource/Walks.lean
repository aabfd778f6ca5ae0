import EndpointMonitor.Location.ManagementAddress
import EndpointMonitor.Proofs.Resource.Calls
import EndpointMonitor.Proofs.Resource.Replay

/-!
# Walks with a stack

The resources below a node are found with a stack of identifiers: take the one on top, visit its
node if it is stored, and put the identifiers below it on the stack. Nothing keeps such a walk
from visiting a node twice, or from never ending, but the links themselves: from a node that
hangs below no other, every way down repeats no node.
-/

namespace EndpointMonitor.ResourceGraph

variable {L : Type} {g : ResourceGraph L}

/-- A walk with a stack of identifiers and their levels, until the stack is empty, and what it
visits on the way. -/
inductive Walk (g : ResourceGraph L) : List (String × Nat) → List (Resource L × Nat) → Prop
  | done : Walk g [] []
  | absent {id level stack visited} (unstored : g.nodes[id]? = none)
      (rest : Walk g stack visited) : Walk g ((id, level) :: stack) visited
  | visit {id level node stack visited} (stored : g.nodes[id]? = some node)
      (rest : Walk g (node.children.toList.map (·, level + 1) ++ stack) visited) :
      Walk g ((id, level) :: stack) ((node.resource, level) :: visited)

namespace Walk

/-- A walk visits the same whenever it ends. -/
theorem deterministic {stack : List (String × Nat)} {visited : List (Resource L × Nat)}
    (w : Walk g stack visited) : ∀ {visited'}, Walk g stack visited' → visited = visited' := by
  induction w with
  | done =>
      intro visited' w'
      cases w'
      rfl
  | absent unstored _ ih =>
      intro visited' w'
      cases w' with
      | absent _ rest' => exact ih rest'
      | visit stored' _ => simp [unstored] at stored'
  | visit stored _ ih =>
      intro visited' w'
      cases w' with
      | absent unstored' _ => simp [stored] at unstored'
      | visit stored' rest' =>
          have hnode := Option.some.inj (stored.symm.trans stored')
          subst hnode
          rw [ih rest']

/-- What lies deeper in the stack is walked after what lies on top. -/
theorem append {stack stack' : List (String × Nat)} {visited visited' : List (Resource L × Nat)}
    (w : Walk g stack visited) (w' : Walk g stack' visited') :
    Walk g (stack ++ stack') (visited ++ visited') := by
  induction w with
  | done => exact w'
  | absent unstored _ ih => exact .absent unstored ih
  | visit stored _ ih => exact .visit stored (by rwa [List.append_assoc] at ih)

theorem flatMap {ids : List String} {level : Nat} {visits : String → List (Resource L × Nat)}
    (w : ∀ id ∈ ids, Walk g [(id, level)] (visits id)) :
    Walk g (ids.map (·, level)) (ids.flatMap visits) := by
  induction ids with
  | nil => exact .done
  | cons id ids ih =>
      obtain ⟨hid, hids⟩ := List.forall_mem_cons.1 w
      exact hid.append (ih hids)

end Walk

/-- The resources from an identifier down as `subtree` lists them, with their levels. -/
def leveled (g : ResourceGraph L) : Nat → Nat → String → List (Resource L × Nat)
  | 0, _, _ => []
  | depth + 1, level, id =>
    match g.nodes[id]? with
    | none => []
    | some node =>
      (node.resource, level) :: node.children.toList.flatMap (leveled g depth (level + 1))

/-- A walk ends, and visits nothing but what is listed. -/
def Ends (g : ResourceGraph L) (stack : List (String × Nat))
    (visited : List (Resource L × Nat)) : Prop :=
  ∀ v, Walk g stack v ↔ v = visited

theorem Walk.ends {stack : List (String × Nat)} {visited : List (Resource L × Nat)}
    (w : Walk g stack visited) : Ends g stack visited := fun _ =>
  ⟨fun w' => (w.deterministic w').symm, fun heq => heq ▸ w⟩

/-- The further down a path from a node below no other has come, the fewer levels are left for
a walk. -/
theorem Trail.walk (h : Consistent g) {x : String} (hx : ∀ p, ¬ g.Above p x) {depth : Nat}
    {l : List String} {y : String} (t : Trail g x l y) (hdepth : l.length + depth = g.size)
    (level : Nat) : Walk g [(y, level)] (g.leveled depth level y) := by
  induction depth generalizing l y level with
  | zero =>
      have unstored : g.nodes[y]? = none := by
        rw [← Option.not_isSome_iff_eq_none, ← Std.TreeMap.mem_iff_isSome_getElem?]
        intro stored
        have hlt := t.length_lt h hx stored
        omega
      exact .absent unstored .done
  | succ depth ih =>
      rw [leveled]
      split
      · rename_i unstored
        exact .absent unstored .done
      · rename_i node stored
        refine .visit stored ?_
        rw [List.append_nil]
        refine Walk.flatMap fun c hc => ?_
        have step : g.Above y c := ⟨node, stored, Std.TreeSet.mem_toList.1 hc⟩
        exact ih (t.down step) (by simp only [List.length_cons]; omega) (level + 1)

/-- A walk from a node that hangs below no other ends. -/
theorem Consistent.ends (h : Consistent g) {x : String} (hx : ∀ p, ¬ g.Above p x) :
    Ends g [(x, 0)] (g.leveled g.size 0 x) :=
  (Trail.start.walk h hx (Nat.zero_add _) 0).ends

/-- Two nodes that name one another as the parent are below nothing at the top. Removing one of
them removes both. -/
example :
    let node (id : String) (parent : Option String) : Resource ManagementAddress :=
      { id, name := id, location := ⟨[]⟩, type := default, parent }
    let g := ({} : ResourceGraph ManagementAddress).callAll
      [.add (node "a" none), .add (node "b" (some "a")), .add (node "a" (some "b"))]
    g.size = 2 ∧ g.depthFirst.length = 0 ∧ g.treeText = "" ∧ (g.remove "a").2.length = 2 := by
  decide +kernel

end EndpointMonitor.ResourceGraph
