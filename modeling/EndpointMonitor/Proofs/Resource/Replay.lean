import EndpointMonitor.Proofs.Resource.Additions
import EndpointMonitor.Proofs.Resource.Removals
import Mathlib.Logic.Function.Basic

/-!
# Following the resource graph by its events

An observer knows what is stored and hears of each change. Following the events of additions
and removals never surprises it: only what is not stored is added, only what is stored is
replaced or removed, and in the end it knows what is stored again.
-/

namespace EndpointMonitor

variable {L : Type}

/-- The identifier of the resource that an event is about. -/
def GraphEvent.about : GraphEvent L → String
  | .added r => r.id
  | .modified r => r.id
  | .removed r => r.id

/-- What an observer knows of the stored resources. -/
abbrev View (L : Type) := String → Option (Resource L)

/-- Events that lead from one view to another, none of which contradicts what is known. -/
inductive Replays : View L → List (GraphEvent L) → View L → Prop
  | done {v} : Replays v [] v
  | added {v r events w} (absent : v r.id = none)
      (rest : Replays (Function.update v r.id (some r)) events w) :
      Replays v (.added r :: events) w
  | modified {v r s events w} (stored : v r.id = some s)
      (rest : Replays (Function.update v r.id (some r)) events w) :
      Replays v (.modified r :: events) w
  | removed {v r events w} (stored : v r.id = some r)
      (rest : Replays (Function.update v r.id none) events w) :
      Replays v (.removed r :: events) w

namespace Replays

theorem append {u v w : View L} {es fs : List (GraphEvent L)} (h : Replays u es v)
    (h' : Replays v fs w) : Replays u (es ++ fs) w := by
  induction h with
  | done => exact h'
  | added absent _ ih => exact .added absent (ih h')
  | modified stored _ ih => exact .modified stored (ih h')
  | removed stored _ ih => exact .removed stored (ih h')

/-- Hearing that different stored resources are removed leaves all others known. -/
theorem removedAll {v : View L} {rs : List (Resource L)} (stored : ∀ r ∈ rs, v r.id = some r)
    (distinct : (rs.map (·.id)).Nodup) :
    Replays v (rs.map .removed) fun x => if x ∈ rs.map (·.id) then none else v x := by
  induction rs generalizing v with
  | nil => simpa using Replays.done
  | cons r rest ih =>
      obtain ⟨hr, hrest⟩ := List.nodup_cons.1 distinct
      obtain ⟨hstored, hothers⟩ := List.forall_mem_cons.1 stored
      have others : ∀ s ∈ rest, Function.update v r.id none s.id = some s := by
        intro s hs
        have hne : s.id ≠ r.id := fun heq => hr (List.mem_map.2 ⟨s, hs, heq⟩)
        rw [Function.update_of_ne hne]
        exact hothers s hs
      refine .removed hstored ?_
      convert ih others hrest using 1
      funext x
      by_cases hx : x = r.id
      · simp [hx]
      · simp [hx]

end Replays

namespace ResourceGraph

variable {g g' : ResourceGraph L} {r : Resource L}

theorem PutIn.get?_eq_update (h : PutIn g r g') :
    g'.get? = Function.update g.get? r.id (some r) := by
  funext x
  rw [h.get?_eq, Function.update_apply]

theorem Linked.replays_add [Location L] (h : Linked g) (r : Resource L) :
    Replays g.get? (g.add r).events (g.add r).graph.get? := by
  rcases add_cases h r with ⟨old, -, -, heq⟩ | ⟨old, g', hold, -, hput, heq⟩ |
    ⟨g', hnone, hput, heq⟩
  · rw [heq]
    exact .done
  · rw [heq]
    exact .modified hold (hput.get?_eq_update ▸ .done)
  · rw [heq]
    exact .added hnone (hput.get?_eq_update ▸ .done)

theorem Linked.get?_remove (h : Linked g) (id x : String) :
    (g.remove id).1.get? x = if x ∈ (g.remove id).2.map (·.id) then none else g.get? x := by
  have cut := h.cutOut_remove id
  have hids := h.mem_removedIds_iff id x
  by_cases hreach : Relation.ReflTransGen g.Above id x
  · rw [cut.get?_gone hreach]
    split
    · rfl
    · rename_i hx
      exact ((get?_eq_none_iff g x).2 fun hstored => hx (hids.2 ⟨hstored, hreach⟩)).symm
  · rw [cut.get?_kept hreach, if_neg fun hx => hreach (hids.1 hx).2]

theorem Linked.replays_remove (h : Linked g) (id : String) :
    Replays g.get? ((g.remove id).2.map .removed) (g.remove id).1.get? := by
  have stored : ∀ r ∈ (g.remove id).2, g.get? r.id = some r := fun r hr =>
    ((h.mem_remove_iff id r).1 hr).1
  have heq : (g.remove id).1.get? = fun x =>
      if x ∈ (g.remove id).2.map (·.id) then none else g.get? x :=
    funext fun x => h.get?_remove id x
  rw [heq]
  exact Replays.removedAll stored (h.nodup_remove id)

theorem Linked.replays_removeAll (h : Linked g) (ids : List String) :
    Replays g.get? ((g.removeAll ids).2.map .removed) (g.removeAll ids).1.get? := by
  induction ids generalizing g with
  | nil => exact .done
  | cons id ids ih =>
      rw [removeAll_cons, List.map_append]
      exact (h.replays_remove id).append (ih (h.linked_remove id))

end ResourceGraph

end EndpointMonitor
