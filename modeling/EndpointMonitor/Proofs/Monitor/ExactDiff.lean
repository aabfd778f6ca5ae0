import EndpointMonitor.Proofs.Monitor.Histories
import EndpointMonitor.Proofs.Monitor.Patches
import EndpointMonitor.Proofs.Resource.Forests
import Mathlib.Data.List.Induction

/-!
# The difference a discovery makes

In every run in which no scan finds an identifier twice, the resources are a forest whose links
are what the parents of the resources say. What a scan finds takes its places there, parents
first, and what it does not find is removed from below. The report lists exactly the difference.
-/

namespace EndpointMonitor

open Relation

variable {L : Type}

namespace ResourceGraph

/-- The top and the sets of children are what the parents of the stored resources say. -/
structure Agrees (g : ResourceGraph L) : Prop where
  mem_roots_iff : ∀ id, id ∈ g.roots ↔ ∃ r, g.get? id = some r ∧ r.parent = none
  above_iff : ∀ p c, g.Above p c ↔ ∃ r, g.get? c = some r ∧ r.parent = some p

theorem Forest.agrees {g : ResourceGraph L} (h : Forest g) : Agrees g :=
  ⟨fun _ => h.mem_roots_iff, fun _ _ => h.above_iff⟩

theorem Anchored.congr {g : ResourceGraph L} {done done' : List String} (h : Anchored g done)
    (hmem : ∀ x, x ∈ done ↔ x ∈ done') : Anchored g done' := by
  intro d hd
  obtain ⟨root, hroot, hdone, hreach⟩ := h d ((hmem d).2 hd)
  refine ⟨root, hroot, (hmem root).1 hdone, ?_⟩
  exact ReflTransGen.mono (fun _ c hpc => ⟨hpc.1, (hmem c).1 hpc.2⟩) _ _ hreach

end ResourceGraph

namespace Patch

open ResourceGraph

variable [Location L] {g : ResourceGraph L} {rs : List (Resource L)}

/-- Whether a resource is stored already, but does not look the same. -/
def isChanged (g : ResourceGraph L) (r : Resource L) : Bool :=
  (g.get? r.id).any fun s => !s.isLike r

section Placing

/-- What was found has its places, and the change lists which of it is new and which changed. -/
structure Placed (g : ResourceGraph L) (rs : List (Resource L)) (p : Patch L) : Prop where
  forest : Forest p.graph
  anchored : Anchored p.graph (rs.map (·.id))
  added_eq : p.change.added = rs.filter fun r => (g.get? r.id).isNone
  modified_eq : p.change.modified = rs.filter (isChanged g)
  removed_eq : p.change.removed = []

theorem holds_of_nodup (h : Linked g) (hnodup : (rs.map (·.id)).Nodup) :
    Holds (rs.foldl add { graph := g }).graph rs := by
  refine holds_foldl_add (p := { graph := g }) h fun r hr s hs hid => ?_
  rw [List.inj_on_of_nodup_map hnodup hr hs hid]
  exact s.isLike_self

/-- A resource that comes after its parent takes its place. -/
theorem Placed.add {r : Resource L} {p : Patch L} (h : Placed g rs p)
    (hp : p = rs.foldl add { graph := g }) (hg : Forest g)
    (hnodup : ((rs ++ [r]).map (·.id)).Nodup)
    (hparent : ∀ q, r.parent = some q → q ∈ rs.map (·.id)) : Placed g (rs ++ [r]) (p.add r) := by
  rw [List.map_append, List.nodup_append] at hnodup
  have hnew : r.id ∉ rs.map (·.id) := fun hmem =>
    hnodup.2.2 _ hmem _ (List.mem_singleton_self _) rfl
  have hbefore : p.graph.get? r.id = g.get? r.id := by
    rw [hp]
    exact get?_foldl_add_of_notMem (p := { graph := g }) hg.toLinked hnew
  have hstored : ∀ d ∈ rs.map (·.id), d ∈ p.graph.nodes := by
    intro d hd
    obtain ⟨s, hs, rfl⟩ := List.mem_map.1 hd
    obtain ⟨t, ht, -⟩ := holds_of_nodup hg.toLinked hnodup.1 s hs
    rw [hp]
    exact (mem_nodes_iff _ _).2 ⟨t, ht⟩
  have order : ∀ x, x ∈ r.id :: rs.map (·.id) ↔ x ∈ (rs ++ [r]).map (·.id) := by
    intro x
    simp [or_comm]
  rcases add_cases h.forest.toLinked r with ⟨old, hold, hlike, heq⟩ |
    ⟨old, g', hold, hunlike, hput, heq⟩ | ⟨g', hnone, hput, heq⟩
  · have hplace : r.id ∈ p.graph.roots ∨ ∃ q ∈ rs.map (·.id), p.graph.Above q r.id := by
      have hsame := parent_eq_of_isLike hlike
      cases hq : r.parent with
      | none => exact Or.inl (h.forest.mem_roots_iff.2 ⟨old, hold, hsame.trans hq⟩)
      | some q =>
          exact Or.inr ⟨q, hparent q hq, h.forest.above_iff.2 ⟨old, hold, hsame.trans hq⟩⟩
    rw [heq]
    refine ⟨h.forest, (anchored_cons h.anchored hplace).congr order, ?_, ?_, h.removed_eq⟩
    · simp [h.added_eq, List.filter_append, ← hbefore, hold]
    · simp [h.modified_eq, List.filter_append, isChanged, ← hbefore, hold, hlike]
  · obtain ⟨forest, anchored⟩ := hput.forest h.forest h.anchored hstored hnew hparent
    rw [heq]
    refine ⟨forest, anchored.congr order, ?_, ?_, h.removed_eq⟩
    · simp [h.added_eq, List.filter_append, ← hbefore, hold]
    · simp [h.modified_eq, List.filter_append, isChanged, ← hbefore, hold, hunlike]
  · obtain ⟨forest, anchored⟩ := hput.forest h.forest h.anchored hstored hnew hparent
    rw [heq]
    refine ⟨forest, anchored.congr order, ?_, ?_, h.removed_eq⟩
    · simp [h.added_eq, List.filter_append, ← hbefore, hnone]
    · simp [h.modified_eq, List.filter_append, isChanged, ← hbefore, hnone]

theorem placed_foldl_add (hg : Forest g) (hnodup : (rs.map (·.id)).Nodup)
    (hparents : ParentsFirst [] rs) : Placed g rs (rs.foldl Patch.add { graph := g }) := by
  induction rs using List.reverseRecOn with
  | nil => exact ⟨hg, fun d hd => by simp at hd, rfl, rfl, rfl⟩
  | append_singleton rs r ih =>
      obtain ⟨hrest, hlast⟩ := ParentsFirst.concat_iff.1 hparents
      have hnodup' := hnodup
      rw [List.map_append, List.nodup_append] at hnodup'
      rw [List.foldl_append]
      exact (ih hnodup'.1 hrest).add rfl hg hnodup fun q hq =>
        (hlast q hq).resolve_left (by simp)

end Placing

section Pruning

variable {found : Found L} {c : InventoryChange L} {placed g' : ResourceGraph L}

/-- The graph in which what was found has taken its places, with the changes this took. -/
structure Grown (g : ResourceGraph L) (rs : List (Resource L)) (c : InventoryChange L)
    (placed : ResourceGraph L) : Prop where
  agrees : Agrees placed
  rooted : ∀ id ∈ placed.nodes, ∃ root ∈ placed.roots, ReflTransGen placed.Above root id
  mem_nodes_iff : ∀ id, id ∈ placed.nodes ↔ id ∈ g.nodes ∨ id ∈ rs.map (·.id)
  get?_of_notMem : ∀ id, id ∉ rs.map (·.id) → placed.get? id = g.get? id
  holds : Holds placed rs
  added_eq : c.added = rs.filter fun r => (g.get? r.id).isNone
  modified_eq : c.modified = rs.filter (isChanged g)

/-- The graph without what was not found, with the removals this took. -/
structure Pruned (g : ResourceGraph L) (rs : List (Resource L)) (c : InventoryChange L)
    (placed g' : ResourceGraph L) : Prop where
  agrees : Agrees g'
  rooted : ∀ id ∈ g'.nodes, ∃ root ∈ g'.roots, ReflTransGen g'.Above root id
  mem_nodes_iff : ∀ id, id ∈ g'.nodes ↔ id ∈ rs.map (·.id)
  holds : Holds g' rs
  mem_removed_iff : ∀ r, r ∈ c.removed ↔ g.get? r.id = some r ∧ r.id ∉ rs.map (·.id)
  nodup_removed : (c.removed.map (·.id)).Nodup
  children_first : c.removed.Pairwise fun r s => ¬ ReflTransGen placed.Above r.id s.id

theorem Placed.grown {p : Patch L} (h : Placed g rs p) (hp : p = rs.foldl Patch.add { graph := g })
    (hg : Forest g) (hnodup : (rs.map (·.id)).Nodup) : Grown g rs p.change p.graph := by
  have holds : Holds p.graph rs := hp ▸ holds_of_nodup hg.toLinked hnodup
  have others : ∀ id, id ∉ rs.map (·.id) → p.graph.get? id = g.get? id := fun id hid =>
    hp ▸ get?_foldl_add_of_notMem (p := { graph := g }) hg.toLinked hid
  refine ⟨h.forest.agrees, fun _ => h.forest.rooted, fun id => ?_, others, holds, h.added_eq,
    h.modified_eq⟩
  by_cases hid : id ∈ rs.map (·.id)
  · obtain ⟨r, hr, rfl⟩ := List.mem_map.1 hid
    obtain ⟨s, hs, -⟩ := holds r hr
    exact iff_of_true ((ResourceGraph.mem_nodes_iff _ _).2 ⟨s, hs⟩) (Or.inr hid)
  · rw [ResourceGraph.mem_nodes_iff, ResourceGraph.mem_nodes_iff, others id hid]
    exact (or_iff_left hid).symm

/-- Removing what is stale in a forest leaves what was found, and takes the rest from below. -/
theorem Placed.pruned {p : Patch L} (h : Placed g rs p) (hgrown : Grown g rs p.change p.graph)
    (hparents : ParentsFirst [] rs) :
    Pruned g rs (p.remove (stale p.graph rs)).change p.graph
      (p.remove (stale p.graph rs)).graph := by
  have linked := h.forest.toLinked
  have cut := linked.cutOut_removeAll (stale p.graph rs)
  have forest := h.forest.removeAll (stale p.graph rs)
  have kept : ∀ r ∈ rs, ¬ p.graph.ReachedFrom (stale p.graph rs) r.id := fun r hr =>
    not_reachedFrom_stale linked hgrown.holds hparents hr
  -- Below what is stale there is only what is stale itself.
  have gone_iff : ∀ {x}, x ∈ p.graph.nodes →
      (p.graph.ReachedFrom (stale p.graph rs) x ↔ x ∉ rs.map (·.id)) := by
    intro x hx
    constructor
    · intro hgone hfound
      obtain ⟨r, hr, rfl⟩ := List.mem_map.1 hfound
      exact kept r hr hgone
    · intro hnot
      obtain ⟨r, hr⟩ := (ResourceGraph.mem_nodes_iff _ x).1 hx
      have hid := h.forest.id_eq hr
      subst hid
      exact ⟨r.id, (mem_stale_iff _ rs r.id).2
        ⟨hnot, r, (h.forest.mem_depthFirst_iff r).2 hr, rfl⟩, .refl⟩
  have removed : (p.remove (stale p.graph rs)).change.removed =
      (p.graph.removeAll (stale p.graph rs)).2 := by
    simp [Patch.remove, h.removed_eq]
  refine ⟨forest.agrees, fun _ => forest.rooted, fun id => ?_, fun r hr => ?_, fun r => ?_, ?_, ?_⟩
  · refine cut.mem_nodes_iff.trans ⟨fun ⟨hstored, hkept⟩ => ?_, fun hid => ?_⟩
    · rwa [gone_iff hstored, not_not] at hkept
    · have hstored := (hgrown.mem_nodes_iff id).2 (Or.inr hid)
      exact ⟨hstored, fun hgone => (gone_iff hstored).1 hgone hid⟩
  · obtain ⟨s, hs, hlike⟩ := hgrown.holds r hr
    exact ⟨s, (cut.get?_kept (kept r hr)).trans hs, hlike⟩
  · rw [removed, linked.mem_removeAll_iff]
    constructor
    · rintro ⟨hr, hgone⟩
      have hnot := (gone_iff ((ResourceGraph.mem_nodes_iff _ _).2 ⟨r, hr⟩)).1 hgone
      exact ⟨(hgrown.get?_of_notMem r.id hnot).symm.trans hr, hnot⟩
    · rintro ⟨hr, hnot⟩
      have hr := (hgrown.get?_of_notMem r.id hnot).trans hr
      exact ⟨hr, (gone_iff ((ResourceGraph.mem_nodes_iff _ _).2 ⟨r, hr⟩)).2 hnot⟩
  · rw [removed]
    exact linked.nodup_removeAll _
  · rw [removed]
    exact linked.pairwise_removeAll h.forest.not_loop _

theorem forest_ofFound {found : Found L} (hg : Forest g)
    (hnodup : (found.resources.map (·.id)).Nodup) (hparents : ParentsFirst [] found.resources) :
    Forest (ofFound g found).graph := by
  have placed := placed_foldl_add hg hnodup hparents
  exact ofFound_keeps placed.forest placed.forest.removeAll

end Pruning

end Patch

namespace Monitor

open ResourceGraph Patch

variable {σ τ : Type} [Location L]

/-- The monitors that runs lead to in which no scan finds an identifier twice. -/
def Reached : Monitor L σ → Prop :=
  ReachedBy fun found => (found.resources.map (·.id)).Nodup

theorem Reached.forest {m : Monitor L σ} (h : Reached m) : Forest m.graph :=
  h.preserves forest_empty (fun ids hg => hg.removeAll ids) forest_ofFound

/-- In every run, a discovery with a report has put what it found into its places. If the scan
had no errors, exactly what was found is left when the listener is told, and the report lists
what was added, modified and removed for it; otherwise nothing was removed. -/
theorem discover_exact_diff {p : Profile L σ} {depth : Nat} {now : UInt64}
    {listen : Listener L σ τ} {m m' : Monitor L σ} {t t' : τ} {report : ScanReport L}
    (hm : Reached m)
    (hdistinct : ∀ found, p.Finds depth m.exchange found → (found.resources.map (·.id)).Nodup)
    (hrun : discover p depth now listen (m, t) = (.ok report, m', t')) :
    ∃ found told placed, p.Finds depth m.exchange found ∧ report.errors = found.errors ∧
      m' = { (announce listen report.change (told, t)).1 with scanning := false } ∧
      t' = (announce listen report.change (told, t)).2 ∧
      Grown m.graph found.resources report.change placed ∧
      (report.errors = 0 → Pruned m.graph found.resources report.change placed told.graph) ∧
      (report.errors ≠ 0 → report.change.removed = [] ∧ told.graph = placed) := by
  obtain ⟨-, found, hfinds, rfl, hm', ht'⟩ := discover_ok_cases hrun
  have hg := hm.forest
  have hnodup := hdistinct found hfinds
  have hparents := p.scanReady_parentsFirst depth hfinds
  have placed := placed_foldl_add hg hnodup hparents
  have grown := placed.grown rfl hg hnodup
  have pruned := placed.pruned grown hparents
  refine ⟨found, scanned p depth now m found, (found.resources.foldl Patch.add
    { graph := m.graph }).graph, hfinds, rfl, hm', ht', ?_⟩
  rw [graph_scanned, Patch.ofFound]
  by_cases herrors : found.errors = 0
  · rw [if_pos herrors]
    refine ⟨?_, fun _ => pruned, fun hne => absurd herrors hne⟩
    exact { grown with }
  · rw [if_neg herrors]
    exact ⟨grown, fun h => absurd h herrors, fun _ => ⟨placed.removed_eq, rfl⟩⟩

/-- The only node of an endpoint vanishes between two discoveries. -/
theorem discover_exact_diff_vanished :
    let p := heldInMemory [typeAtX "A"]
    let first := discoverUnheard [typeAtX "A"] (start oneNode)
    let m := { first.2.1 with exchange := { peer := {} } }
    Reached m ∧ (∀ found, p.Finds 1 m.exchange found → (found.resources.map (·.id)).Nodup) ∧
      ∃ report placed, (discoverUnheard [typeAtX "A"] m).1 = .ok report ∧
        Pruned m.graph [] report.change placed (discoverUnheard [typeAtX "A"] m).2.1.graph := by
  intro p first m
  have one : p.Finds 1 { peer := oneNode }
      ⟨[p.outline none (typeAtX "A") ⟨[⟨"x", "1"⟩]⟩], 0⟩ := rfl
  have nothing : p.Finds 1 m.exchange ⟨[], 0⟩ := rfl
  have hfirst : Reached (discoverUnheard [typeAtX "A"] (start oneNode)).2.1 := by
    unfold discoverUnheard
    refine ReachedBy.discover (.start oneNode) _ 1 0 Unit _ () (fun _ _ _ => .refl _)
      fun found hfound => ?_
    rw [hfound.unique one]
    exact List.nodup_singleton _
  have hm : Reached m := ReachedBy.use hfirst (.converse (.refl _) _)
  have hdistinct : ∀ found, p.Finds 1 m.exchange found →
      (found.resources.map (·.id)).Nodup := by
    intro found hfound
    rw [hfound.unique nothing]
    exact List.nodup_nil
  have hok : (discoverUnheard [typeAtX "A"] m).1.toOption.isSome = true := by decide +kernel
  refine ⟨hm, hdistinct, ?_⟩
  rcases hrun : discoverUnheard [typeAtX "A"] m with ⟨f | report, m', t'⟩
  · rw [hrun] at hok
    cases hok
  · obtain ⟨found, told, placed, hfinds, herrors, hm', -, -, hpruned, -⟩ :=
      discover_exact_diff hm hdistinct hrun
    cases hfinds.unique nothing
    refine ⟨report, placed, rfl, ?_⟩
    have untold : m'.graph = told.graph := by
      rw [hm', announce_unheard]
    rw [untold]
    exact hpruned herrors

end Monitor

end EndpointMonitor
