import EndpointMonitor.Proofs.ResourceType.Support

/-!
# Listing the types level by level

The listing takes types from the front of a queue, and puts the child types of each type that it
lists at the end. A type is listed when its name is taken for the first time, so no name is listed
twice; and as every child type of a listed type was queued, the listing is closed downwards.
-/

namespace EndpointMonitor.TypeGraph

variable {L : Type} {g : TypeGraph L} {unseen : List String} {queue : List (ResourceType L)}

/-- Only names that were not seen before are listed, and none of them twice. -/
theorem nodup_visit (h : unseen.Nodup) :
    ((g.visit unseen queue).map (·.name)).Nodup ∧
      (g.visit unseen queue).map (·.name) ⊆ unseen := by
  fun_induction visit g unseen queue with
  | case1 unseen => simp
  | case2 unseen t rest hmem ih =>
      obtain ⟨hnodup, hsub⟩ := ih (h.erase t.name)
      rw [List.map_cons]
      refine ⟨List.nodup_cons.2 ⟨fun hlisted => ?_, hnodup⟩, ?_⟩
      · exact (h.not_mem_erase) (hsub hlisted)
      · exact List.cons_subset.2 ⟨hmem, fun x hx => List.mem_of_mem_erase (hsub hx)⟩
  | case3 unseen t rest hmem ih => exact ih h

/-- Only types of the graph are listed, as long as only such are queued. -/
theorem mem_types_of_mem_visit (hqueue : ∀ t ∈ queue, t ∈ g.types) {t : ResourceType L}
    (ht : t ∈ g.visit unseen queue) : t ∈ g.types := by
  fun_induction visit g unseen queue with
  | case1 unseen => simp at ht
  | case2 unseen u rest hmem ih =>
      rcases List.mem_cons.1 ht with rfl | ht
      · exact hqueue t List.mem_cons_self
      · refine ih (fun v hv => ?_) ht
        rcases List.mem_append.1 hv with hv | hv
        · exact hqueue v (List.mem_cons_of_mem _ hv)
        · exact ((g.mem_childTypes_iff u.name v).1 hv).2.1
  | case3 unseen u rest hmem ih =>
      exact ih (fun v hv => hqueue v (List.mem_cons_of_mem _ hv)) ht

/-- A name that was not seen before is listed if a type of that name is queued, or is a child type
of something listed. -/
theorem mem_visit_of_unseen {c : ResourceType L} (hc : c.name ∈ unseen)
    (hfound : c ∈ queue ∨ ∃ t ∈ g.visit unseen queue, c ∈ g.childTypes t.name) :
    c.name ∈ (g.visit unseen queue).map (·.name) := by
  fun_induction visit g unseen queue with
  | case1 unseen => simp at hfound
  | case2 unseen t rest hmem ih =>
      rw [List.map_cons, List.mem_cons]
      by_cases hname : c.name = t.name
      · exact Or.inl hname
      · refine Or.inr (ih ((List.mem_erase_of_ne hname).2 hc) ?_)
        rcases hfound with hqueued | ⟨u, hu, hchild⟩
        · rcases List.mem_cons.1 hqueued with rfl | hrest
          · exact absurd rfl hname
          · exact Or.inl (List.mem_append_left _ hrest)
        · rcases List.mem_cons.1 hu with rfl | hu
          · exact Or.inl (List.mem_append_right _ hchild)
          · exact Or.inr ⟨u, hu, hchild⟩
  | case3 unseen t rest hmem ih =>
      refine ih hc (hfound.imp_left fun hqueued => ?_)
      rcases List.mem_cons.1 hqueued with rfl | hrest
      · exact absurd hc hmem
      · exact hrest

end EndpointMonitor.TypeGraph
