import EndpointMonitor.Proofs.Monitor.SharedMonitor
import EndpointMonitor.Proofs.Monitor.Snapshots

/-!
# What is heard of a patch

The observers of a patch hear of exactly what its change lists. Of a resource that is stored before
and after, they hear only if the patch lists it among the modified ones: it was there already, so
it is not added, and what is removed is not put back.
-/

namespace EndpointMonitor

open ResourceGraph

variable {L : Type}

/-- Whether a change lists a resource as modified. -/
def InventoryChange.modifies (c : InventoryChange L) (x : String) : Prop :=
  x ∈ c.modified.map (·.id)

namespace Patch

/-- The events of a patch are those that its change lists. -/
structure Told (p : Patch L) : Prop where
  added (r : Resource L) : .added r ∈ p.events ↔ r ∈ p.change.added
  modified (r : Resource L) : .modified r ∈ p.events ↔ r ∈ p.change.modified
  removed (r : Resource L) : .removed r ∈ p.events ↔ r ∈ p.change.removed

theorem told_start (g : ResourceGraph L) : Told { graph := g } where
  added _ := by simp
  modified _ := by simp
  removed _ := by simp

variable [Location L] {g : ResourceGraph L} {rs : List (Resource L)} {p : Patch L}

theorem Told.add (h : p.Told) (linked : Linked p.graph) (r : Resource L) : (p.add r).Told := by
  rcases add_cases linked r with ⟨old, -, -, heq⟩ | ⟨old, g', -, -, -, heq⟩ | ⟨g', -, -, heq⟩
  · rwa [heq]
  · rw [heq]
    exact ⟨fun _ => by simp [h.added], fun _ => by simp [h.modified],
      fun _ => by simp [h.removed]⟩
  · rw [heq]
    exact ⟨fun _ => by simp [h.added], fun _ => by simp [h.modified],
      fun _ => by simp [h.removed]⟩

omit [Location L] in
theorem Told.remove (h : p.Told) (ids : List String) : (p.remove ids).Told where
  added _ := by simp [Patch.remove, h.added]
  modified _ := by simp [Patch.remove, h.modified]
  removed _ := by simp [Patch.remove, h.removed]

theorem Told.foldl_add (h : p.Told) (linked : Linked p.graph) (rs : List (Resource L)) :
    (rs.foldl Patch.add p).Told := by
  induction rs generalizing p with
  | nil => exact h
  | cons r rest ih => exact ih (h.add linked r) (linked_add linked r)

theorem told_ofFound (h : Linked g) (found : Found L) : (ofFound g found).Told := by
  have placed := (told_start g).foldl_add h found.resources
  unfold ofFound
  split
  · exact placed.remove _
  · exact placed

/-- What is stored already is not added. -/
theorem notMem_added_foldl_add (h : Linked g) {x : String} (hx : x ∈ g.nodes) :
    ∀ r ∈ (rs.foldl add { graph := g }).change.added, r.id ≠ x := by
  induction rs using List.reverseRecOn with
  | nil => simp
  | append_singleton rs r ih =>
      have stored : x ∈ (rs.foldl add { graph := g }).graph.nodes :=
        mem_nodes_foldl_add (p := { graph := g }) h (.inl hx)
      have linked := linked_foldl_add (p := { graph := g }) h rs
      rw [List.foldl_append, List.foldl_cons, List.foldl_nil]
      rcases add_cases linked r with ⟨old, -, -, heq⟩ | ⟨old, g', -, -, -, heq⟩ |
        ⟨g', hnone, -, heq⟩
      · rwa [heq]
      · rwa [heq]
      · rw [heq]
        intro s hs
        rcases List.mem_append.1 hs with hs | hs
        · exact ih s hs
        · rw [List.mem_singleton.1 hs]
          rintro rfl
          exact (get?_eq_none_iff _ _).1 hnone stored

theorem removed_foldl_add (p : Patch L) (rs : List (Resource L)) :
    (rs.foldl add p).change.removed = p.change.removed := by
  induction rs generalizing p with
  | nil => rfl
  | cons r rest ih =>
      rw [List.foldl_cons, ih, Patch.add]
      cases (p.graph.add r).outcome <;> rfl

/-- What is removed is not put back. -/
theorem notMem_removed_ofFound (h : Linked g) {found : Found L} {x : String}
    (hx : x ∈ (ofFound g found).graph.nodes) :
    ∀ r ∈ (ofFound g found).change.removed, r.id ≠ x := by
  have linked := linked_foldl_add (p := { graph := g }) h found.resources
  have still : (found.resources.foldl add { graph := g }).change.removed = [] :=
    removed_foldl_add { graph := g } found.resources
  unfold ofFound at hx ⊢
  split at hx
  · rename_i herrors
    rw [if_pos herrors]
    rintro r hr rfl
    simp only [Patch.remove, still, List.nil_append] at hr
    obtain ⟨-, hgone⟩ := (linked.mem_removeAll_iff _ r).1 hr
    exact ((linked.cutOut_removeAll _).mem_nodes_iff.1 hx).2 hgone
  · rename_i herrors
    rw [if_neg herrors, still]
    simp

theorem added_ofFound (g : ResourceGraph L) (found : Found L) :
    (ofFound g found).change.added =
      (found.resources.foldl add { graph := g }).change.added := by
  unfold ofFound
  split <;> rfl

/-- Of what is stored before and after, exactly what was modified is heard of. -/
theorem heard_iff_modifies (h : Linked g) {found : Found L} {x : String} (before : x ∈ g.nodes)
    (after : x ∈ (ofFound g found).graph.nodes) :
    (∃ e ∈ (ofFound g found).events, e.about = x) ↔ (ofFound g found).change.modifies x := by
  have told := told_ofFound h found
  rw [InventoryChange.modifies, List.mem_map]
  constructor
  · rintro ⟨e, he, hx⟩
    cases e with
    | added r =>
        have hr := (told.added r).1 he
        rw [added_ofFound] at hr
        exact absurd hx (notMem_added_foldl_add h before r hr)
    | modified r => exact ⟨r, (told.modified r).1 he, hx⟩
    | removed r => exact absurd hx (notMem_removed_ofFound h after r ((told.removed r).1 he))
  · rintro ⟨r, hr, hx⟩
    exact ⟨.modified r, (told.modified r).2 hr, hx⟩

end Patch

end EndpointMonitor
