import EndpointMonitor.Location.ObjectName
import EndpointMonitor.Proofs.Monitor.ExactDiff
import EndpointMonitor.Proofs.Resource.Loops
import EndpointMonitor.Proofs.ResourceType.Support

/-!
# Whether all resources are listed

A scan may find an identifier several times, below different parents, and the last find decides
about the parent. Each resource is found after the one it names, but not always after the last
find of that one: so the last finds can put a resource below itself. Then it hangs below nothing
that is at the top, and neither a listing nor a removal of all resources gets to it. As long as
no scan does this, all resources are listed at all times.
-/

namespace EndpointMonitor

open Relation

variable {L : Type}

/-- The first identifier is the parent that the last find of the second one names. -/
def Patch.LastAbove (rs : List (Resource L)) (p c : String) : Prop :=
  ∃ r, LastOf rs r ∧ r.id = c ∧ r.parent = some p ∧ p ≠ c

/-- The last finds of a scan put no resource below itself. -/
def Found.Loopless (found : Found L) : Prop :=
  ∀ x, ¬ TransGen (Patch.LastAbove found.resources) x x

namespace Patch

open ResourceGraph

variable {g : ResourceGraph L} {rs : List (Resource L)} {found : Found L}

theorem LastAbove.mem_ids (hparents : ParentsFirst [] rs) {p c : String} (h : LastAbove rs p c) :
    p ∈ rs.map (·.id) ∧ c ∈ rs.map (·.id) := by
  obtain ⟨r, hr, rfl, hp, -⟩ := h
  exact ⟨(hparents.parent_mem hr.mem hp).resolve_left (by simp), List.mem_map_of_mem hr.mem⟩

variable [Location L]

theorem mem_nodes_foldl_add {p : Patch L} (h : Linked p.graph) {id : String}
    (hid : id ∈ p.graph.nodes ∨ id ∈ rs.map (·.id)) : id ∈ (rs.foldl add p).graph.nodes := by
  by_cases hfound : id ∈ rs.map (·.id)
  · obtain ⟨r, hr, rfl⟩ := List.mem_map.1 hfound
    obtain ⟨last, hlast, hlid⟩ := exists_lastOf hr
    obtain ⟨s, hs, -⟩ := hlast.stored h
    exact (mem_nodes_iff _ _).2 ⟨s, hlid ▸ hs⟩
  · rw [mem_nodes_iff, get?_foldl_add_of_notMem h hfound, ← mem_nodes_iff]
    exact hid.resolve_right hfound

/-- Resources that come after their parents take their places below them. -/
theorem faithful_foldl_add (hg : Faithful g) (hparents : ParentsFirst [] rs) :
    Faithful (rs.foldl add { graph := g }).graph := by
  induction rs using List.reverseRecOn with
  | nil => exact hg
  | append_singleton rs r ih =>
      obtain ⟨hrest, hlast⟩ := ParentsFirst.concat_iff.1 hparents
      rw [List.foldl_append]
      refine (ih hrest).add fun p hp => ?_
      have hfound := (hlast p hp).resolve_left (by simp)
      exact mem_nodes_foldl_add (p := { graph := g }) hg.toLinked (Or.inr hfound)

section Placed

variable (hg : Faithful g) (hparents : ParentsFirst [] rs)
include hg hparents

theorem above_of_lastAbove {p c : String} (h : LastAbove rs p c) :
    (rs.foldl add { graph := g }).graph.Above p c := by
  obtain ⟨r, hr, rfl, hp, hne⟩ := h
  obtain ⟨s, hs, hlike⟩ := hr.stored (p := { graph := g }) hg.toLinked
  refine (faithful_foldl_add hg hparents).above_of_parent hs ?_ hne
  exact (parent_eq_of_isLike hlike).trans hp

/-- What was found hangs below what its last find names. -/
theorem lastAbove_of_above {p c : String}
    (h : (rs.foldl add { graph := g }).graph.Above p c) (hc : c ∈ rs.map (·.id)) :
    LastAbove rs p c := by
  obtain ⟨r', hr', rfl⟩ := List.mem_map.1 hc
  obtain ⟨r, hr, hid⟩ := exists_lastOf hr'
  obtain ⟨s, hs, hlike⟩ := hr.stored (p := { graph := g }) hg.toLinked
  rw [hid] at hs
  obtain ⟨t, ht, hp, hne⟩ := (faithful_foldl_add hg hparents).above_iff.1 h
  rw [hs] at ht
  cases ht
  exact ⟨r, hr, hid, (parent_eq_of_isLike hlike).symm.trans hp, hne⟩

/-- What was not found hangs where it hung before. -/
theorem above_of_notMem {p c : String}
    (h : (rs.foldl add { graph := g }).graph.Above p c) (hc : c ∉ rs.map (·.id)) :
    g.Above p c := by
  obtain ⟨s, hs, hp, hne⟩ := (faithful_foldl_add hg hparents).above_iff.1 h
  rw [get?_foldl_add_of_notMem (p := { graph := g }) hg.toLinked hc] at hs
  exact hg.above_of_parent hs hp hne

/-- Above what was found there is only what was found. -/
theorem transGen_lastAbove {x y : String}
    (h : TransGen (rs.foldl add { graph := g }).graph.Above x y) (hy : y ∈ rs.map (·.id)) :
    TransGen (LastAbove rs) x y := by
  induction h with
  | single step => exact .single (lastAbove_of_above hg hparents step hy)
  | tail _ step ih =>
      have hstep := lastAbove_of_above hg hparents step hy
      exact .tail (ih (hstep.mem_ids hparents).1) hstep

theorem transGen_above_of_notMem {x y : String}
    (h : TransGen (rs.foldl add { graph := g }).graph.Above x y) (hx : x ∉ rs.map (·.id))
    (hy : y ∉ rs.map (·.id)) : TransGen g.Above x y := by
  induction h with
  | single step => exact .single (above_of_notMem hg hparents step hy)
  | @tail y z before step ih =>
      have hunfound : y ∉ rs.map (·.id) := by
        intro hfound
        obtain ⟨w, hw, -⟩ := TransGen.head'_iff.1 (transGen_lastAbove hg hparents before hfound)
        exact hx (hw.mem_ids hparents).1
      exact .tail (ih hunfound) (above_of_notMem hg hparents step hy)

end Placed

theorem faithful_ofFound (hg : Faithful g) (hparents : ParentsFirst [] found.resources) :
    Faithful (ofFound g found).graph := by
  have placed := faithful_foldl_add hg hparents
  exact ofFound_keeps placed fun ids =>
    (placed.toLinked.cutOut_removeAll ids).faithful placed ReachedFrom.closed

/-- A scan puts a resource below itself exactly if its last finds do. -/
theorem loopless_ofFound_iff (hg : Faithful g) (hloop : g.Loopless)
    (hparents : ParentsFirst [] found.resources) :
    (ofFound g found).graph.Loopless ↔ found.Loopless := by
  have placed := faithful_foldl_add hg hparents
  have cut := placed.toLinked.cutOut_removeAll
    (stale (found.resources.foldl add { graph := g }).graph found.resources)
  constructor
  · intro hafter x loop
    refine hafter x (TransGen.mono (fun p c hpc => ?_) _ _ loop)
    have habove := above_of_lastAbove hg hparents hpc
    -- Nothing that was found is removed, and neither are the links between its members.
    have kept : ∀ {id}, id ∈ found.resources.map (·.id) → ¬ ReachedFrom
        (found.resources.foldl add { graph := g }).graph
        (stale (found.resources.foldl add { graph := g }).graph found.resources) id :=
      not_reachedFrom_stale_of_closed fun habove hc =>
        ((lastAbove_of_above hg hparents habove hc).mem_ids hparents).1
    unfold ofFound
    split
    · exact cut.above_iff.2 ⟨habove, kept (hpc.mem_ids hparents).1, kept (hpc.mem_ids hparents).2⟩
    · exact habove
  · intro hfound
    have hadded : (found.resources.foldl add { graph := g }).graph.Loopless := by
      intro x loop
      by_cases hx : x ∈ found.resources.map (·.id)
      · exact hfound x (transGen_lastAbove hg hparents loop hx)
      · exact hloop x (transGen_above_of_notMem hg hparents loop hx hx)
    exact ofFound_keeps hadded fun ids =>
      (placed.toLinked.cutOut_removeAll ids).loopless hadded

/-- The last finds put nothing below itself where no identifier is found twice. -/
theorem loopless_of_nodup (hnodup : (found.resources.map (·.id)).Nodup)
    (hparents : ParentsFirst [] found.resources) : found.Loopless :=
  (loopless_ofFound_iff faithful_empty loopless_empty hparents).1
    (forest_ofFound forest_empty hnodup hparents).not_loop

end Patch

namespace Monitor

open ResourceGraph Patch

variable {σ τ : Type}

/-- A listing of the resources of a monitor has all of them, and so has their removal. -/
structure ListsAll (m : Monitor L σ) : Prop where
  listed : m.graph.Listed
  clear_perm : ∀ now, (m.clear now).2.Perm m.graph.depthFirst
  size_clear : ∀ now, (m.clear now).1.graph.size = 0

theorem listsAll_iff {m : Monitor L σ} (h : Faithful m.graph) : ListsAll m ↔ m.graph.Loopless := by
  refine ⟨fun hm => h.listed_iff.1 hm.listed, fun hloop => ?_⟩
  exact ⟨h.listed_iff.2 hloop, fun _ => h.clear_perm hloop, fun _ => h.size_clear hloop⟩

variable [Location L]

theorem ReachedBy.loopless {m : Monitor L σ} (h : ReachedBy Found.Loopless m) :
    Faithful m.graph ∧ m.graph.Loopless := by
  refine h.preserves (I := fun g => Faithful g ∧ g.Loopless) ⟨faithful_empty, loopless_empty⟩ ?_ ?_
  · rintro g ids ⟨hg, hloop⟩
    have cut := hg.toLinked.cutOut_removeAll ids
    exact ⟨cut.faithful hg ReachedFrom.closed, cut.loopless hloop⟩
  · rintro g found ⟨hg, hloop⟩ hfound hparents
    exact ⟨faithful_ofFound hg hparents, (loopless_ofFound_iff hg hloop hparents).2 hfound⟩

/-- In every run in which no scan has put a resource below itself, a listing has all resources.
After the next scan it still has them, when the listener is told, exactly if that scan does not
do so either. -/
theorem discover_listsAll_iff {p : Profile L σ} {depth : Nat} {now : UInt64}
    {listen : Listener L σ τ} {m m' : Monitor L σ} {t t' : τ} {report : ScanReport L}
    (hm : ReachedBy Found.Loopless m)
    (hrun : discover p depth now listen (m, t) = (.ok report, m', t')) :
    ListsAll m ∧ ∃ found, p.Finds depth m.exchange found ∧
      m' = { (announce listen report.change (scanned p depth now m found, t)).1 with
        scanning := false } ∧
      (ListsAll (scanned p depth now m found) ↔ found.Loopless) := by
  obtain ⟨hg, hloop⟩ := hm.loopless
  obtain ⟨-, found, hfinds, rfl, hm', -⟩ := discover_ok_cases hrun
  have hparents := p.scanReady_parentsFirst depth hfinds
  have hafter : Faithful (scanned p depth now m found).graph := by
    rw [graph_scanned]
    exact faithful_ofFound hg hparents
  refine ⟨(listsAll_iff hg).2 hloop, found, hfinds, hm', ?_⟩
  rw [listsAll_iff hafter, graph_scanned]
  exact loopless_ofFound_iff hg hloop hparents

section Overlap

/-- An object name with one key property. -/
def beanName (value : String) : ObjectName :=
  ⟨"d", [⟨"type", value⟩], false, List.pairwise_singleton _ _⟩

/-- A type whose only resource is at one object name. -/
def typeAtBean (name value : String) (parents : List String) : ResourceType ObjectName :=
  { name, location := beanName value, parents, nameTemplate := name }

/-- An endpoint with two object names. -/
def twoBeans : InMemory ObjectName :=
  (({} : InMemory ObjectName).addNode (beanName "a")).addNode (beanName "b")

/-- An endpoint in memory that is addressed by object names. -/
def beansInMemory (types : List (ResourceType ObjectName)) :
    Profile ObjectName (InMemory ObjectName) :=
  { feed := "feed", name := "local", types := ⟨types⟩, endpoint := InMemory.endpoint "JMX" true }

/-- A discovery of two object names that nobody listens to. -/
def discoverBeans (types : List (ResourceType ObjectName)) :
    Except Failure (ScanReport ObjectName) × Monitor ObjectName (InMemory ObjectName) × Unit :=
  discover (beansInMemory types) 3 0 (fun _ s => s) (start twoBeans, ())

/-- Two types, the second below the first. -/
def chainedTypes : List (ResourceType ObjectName) :=
  [typeAtBean "A" "a" [], typeAtBean "B" "b" ["A"]]

/-- One object name is found below another. -/
theorem discover_listsAll_iff_chain :
    (discoverBeans chainedTypes).2.1.graph.size = 2 ∧
      ∃ found, (beansInMemory chainedTypes).Finds 3 { peer := twoBeans } found ∧
        ListsAll (scanned (beansInMemory chainedTypes) 3 0 (start twoBeans) found) := by
  have herrors : ((discoverBeans chainedTypes).1.map (·.errors)).toOption = some 0 := by
    decide +kernel
  have distinct : ∀ found, (beansInMemory chainedTypes).Finds 3 { peer := twoBeans } found →
      (found.resources.map (·.id)).Nodup := by
    intro found hfinds
    have checked : ((((beansInMemory chainedTypes).scanReady 3).run
        { peer := twoBeans }).1.toOption.bind (·.toOption)).map
          (fun found => decide (found.resources.map (·.id)).Nodup) = some true := by
      decide +kernel
    rw [hfinds] at checked
    exact of_decide_eq_true (Option.some.inj checked)
  refine ⟨by decide +kernel, ?_⟩
  rcases hafter : discoverBeans chainedTypes with ⟨f | report, m', t'⟩
  · rw [hafter] at herrors
    cases herrors
  · obtain ⟨-, found, hfinds, -, hlists⟩ := discover_listsAll_iff (.start twoBeans) hafter
    have hparents := (beansInMemory chainedTypes).scanReady_parentsFirst 3 hfinds
    exact ⟨found, hfinds, hlists.2 (loopless_of_nodup (distinct found hfinds) hparents)⟩

/-- Three types of which the first and the last are at the same object name: the last find of the
one puts it below the other, which is below the one. -/
def overlappingTypes : List (ResourceType ObjectName) :=
  [typeAtBean "A" "a" [], typeAtBean "B" "b" ["A"], typeAtBean "C" "a" ["B"]]

/-- The types are accepted and have no cycle, and the discovery has no errors. Two resources are
stored after it, of which none is listed and none is cleared. -/
theorem not_listsAll_discover_overlap :
    let after := discoverBeans overlappingTypes
    TypeGraph.build [⟨"c", true, overlappingTypes⟩] none 0 = .ok ⟨overlappingTypes⟩ ∧
      (⟨overlappingTypes⟩ : TypeGraph ObjectName).Acyclic ∧
      (after.1.map (·.errors)).toOption = some 0 ∧ after.2.1.graph.size = 2 ∧
      after.2.1.graph.depthFirst.length = 0 ∧ (after.2.1.clear 0).2.length = 0 ∧
      (after.2.1.clear 0).1.graph.size = 2 ∧ ¬ ListsAll after.2.1 := by
  intro after
  have hsize : after.2.1.graph.size = 2 := by decide +kernel
  have hlength : after.2.1.graph.depthFirst.length = 0 := by decide +kernel
  refine ⟨?_, ?_, by decide +kernel, hsize, hlength, by decide +kernel, by decide +kernel,
    fun hall => ?_⟩
  · have sorted : TypeGraph.candidates 0 (Declaration.ofSets [⟨"c", true, overlappingTypes⟩] none) =
        overlappingTypes := List.mergeSort_of_pairwise (by decide +kernel)
    rw [TypeGraph.build, sorted]
    rfl
  · exact TypeGraph.acyclic_of_parents_lt (by decide +kernel)
  · rw [hall.listed.length_eq, hsize] at hlength
    cases hlength

end Overlap

end Monitor

end EndpointMonitor
