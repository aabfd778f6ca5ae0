import EndpointMonitor.Proofs.Endpoint.Steadiness
import EndpointMonitor.Proofs.Monitor.Discoveries
import EndpointMonitor.Proofs.Monitor.Patches

/-!
# Scanning an unchanged endpoint again

After a scan without errors the stored resources are those found, and a second scan that finds
the same changes nothing. This holds exactly when no identifier was found with two different
looks: otherwise one look replaces the other in every scan.
-/

namespace EndpointMonitor

variable {L : Type}

namespace ResourceGraph

/-- The graphs that additions and removals lead to, in any order. -/
inductive Built [Location L] : ResourceGraph L → Prop
  | empty : Built {}
  | add {g} (h : Built g) (r : Resource L) : Built (g.add r).graph
  | remove {g} (h : Built g) (id : String) : Built (g.remove id).1

theorem Built.linked [Location L] {g : ResourceGraph L} (h : Built g) : Linked g := by
  induction h with
  | empty => exact linked_empty
  | add _ r ih => exact linked_add ih r
  | remove _ id ih => exact ih.linked_remove id

end ResourceGraph

/-- Resources found under one identifier look the same. -/
def Found.Coherent [Location L] (found : Found L) : Prop :=
  ∀ r ∈ found.resources, ∀ s ∈ found.resources, r.id = s.id → r.isLike s = true

namespace Patch

open ResourceGraph

variable [Location L] {g : ResourceGraph L} {rs : List (Resource L)} {found : Found L}

section Adding

/-- Adding what is stored already does nothing. -/
theorem foldl_add_of_holds {p : Patch L} (h : Linked p.graph) (hrs : Holds p.graph rs) :
    rs.foldl add p = p := by
  induction rs with
  | nil => rfl
  | cons r rest ih =>
      obtain ⟨⟨s, hs, hlike⟩, hrest⟩ := List.forall_mem_cons.1 hrs
      have heq : p.add r = p := by
        rcases add_cases h r with ⟨old, -, -, heq⟩ | ⟨old, g', hold, hunlike, -⟩ |
          ⟨g', hnone, -⟩
        · exact heq
        · rw [hs] at hold
          cases hold
          rw [hlike] at hunlike
          cases hunlike
        · rw [hs] at hnone
          cases hnone
      rw [List.foldl_cons, heq]
      exact ih hrest

/-- Only what is stored already is added without a trace. -/
theorem holds_of_foldl_add_quiet {p : Patch L} (h : Linked p.graph)
    (hadded : (rs.foldl add p).change.added = [])
    (hmodified : (rs.foldl add p).change.modified = []) : Holds p.graph rs := by
  induction rs generalizing p with
  | nil => exact fun r hr => by simp at hr
  | cons r rest ih =>
      have hrest := ih (linked_add h r) hadded hmodified
      rw [List.foldl_cons, foldl_add_of_holds (linked_add h r) hrest] at hadded hmodified
      rcases add_cases h r with ⟨old, hold, hlike, heq⟩ | ⟨old, g', -, -, -, heq⟩ |
        ⟨g', -, -, heq⟩
      · rw [heq] at hrest
        exact List.forall_mem_cons.2 ⟨⟨old, hold, hlike⟩, hrest⟩
      · simp [heq] at hmodified
      · simp [heq] at hadded

end Adding

section Again

/-- After a patch without errors nothing that was not found is left, and if what was found is
coherent, all of it is stored. -/
theorem ofFound_settled (h : Linked g) (hparents : ParentsFirst [] found.resources)
    (herrors : found.errors = 0) (hcoherent : found.Coherent) :
    Holds (ofFound g found).graph found.resources ∧
      stale (ofFound g found).graph found.resources = [] := by
  have hlinked := linked_foldl_add (p := { graph := g }) h found.resources
  have hstored := holds_foldl_add (p := { graph := g }) h hcoherent
  have cut := hlinked.cutOut_removeAll
    (stale (found.resources.foldl add { graph := g }).graph found.resources)
  unfold ofFound
  rw [if_pos herrors]
  refine ⟨fun r hr => ?_, stale_removeAll_stale hlinked⟩
  obtain ⟨s, hs, hlike⟩ := hstored r hr
  refine ⟨s, ?_, hlike⟩
  rw [← hs]
  exact cut.get?_kept (not_reachedFrom_stale hlinked hstored hparents hr)

/-- What is stored already and leaves nothing stale is a patch that moves nothing. -/
theorem ofFound_still (h : Linked g) (hstored : Holds g found.resources)
    (hstale : stale g found.resources = []) : ofFound g found = { graph := g } := by
  have hadd := foldl_add_of_holds (p := { graph := g }) h hstored
  unfold ofFound
  simp only [hadd, hstale, Patch.remove, removeAll, List.foldl_nil, List.append_nil,
    List.map_nil, ite_self]

/-- Only what is stored already makes a patch without changes. -/
theorem holds_of_ofFound_isEmpty (h : Linked g)
    (hempty : (ofFound g found).change.isEmpty = true) : Holds g found.resources := by
  have hchange : (found.resources.foldl add { graph := g }).change.added = [] ∧
      (found.resources.foldl add { graph := g }).change.modified = [] := by
    unfold ofFound at hempty
    split at hempty
    · simp only [InventoryChange.isEmpty, Patch.remove, Bool.and_eq_true,
        List.isEmpty_iff] at hempty
      exact hempty.1
    · simp only [InventoryChange.isEmpty, Bool.and_eq_true, List.isEmpty_iff] at hempty
      exact hempty.1
  exact holds_of_foldl_add_quiet (p := { graph := g }) h hchange.1 hchange.2

theorem coherent_of_holds (h : Holds g found.resources) : found.Coherent := by
  intro r hr s hs hid
  obtain ⟨r', hr', hlike⟩ := h r hr
  obtain ⟨s', hs', hlike'⟩ := h s hs
  rw [hid, hs'] at hr'
  cases hr'
  rw [Resource.isLike_iff] at hlike hlike' ⊢
  exact hlike.symm.trans hlike'

end Again

end Patch

namespace Monitor

open ResourceGraph Patch

variable {σ τ τ' : Type}

/-- A listener who leaves the resources alone, and with them the answers of the endpoint. -/
def LeavesAlone (between : σ → Prop) (listen : Listener L σ τ) : Prop :=
  ∀ change m t, (listen change (m, t)).1.graph = m.graph ∧
    (between m.exchange.peer → between (listen change (m, t)).1.exchange.peer)

/-- An operation that reports no difference, leaves the resources and all that follows them as
they were, and tells nobody. -/
structure Silent (m : Monitor L σ) (t : τ)
    (outcome : Except Failure (ScanReport L) × Monitor L σ × τ) : Prop where
  report : outcome.1 = .ok ⟨{}, 0⟩
  monitor : ∃ x, outcome.2.1 = { m with exchange := x }
  untold : outcome.2.2 = t

variable {between within : σ → Prop} {listen : Listener L σ τ}

theorem announce_leavesAlone (hcalm : LeavesAlone between listen) (change : InventoryChange L)
    (m : Monitor L σ) (t : τ) :
    (announce listen change (m, t)).1.graph = m.graph ∧
      (between m.exchange.peer → between (announce listen change (m, t)).1.exchange.peer) := by
  unfold announce
  split
  · exact ⟨rfl, fun h => h⟩
  · exact hcalm change m t

variable [Location L] {p : Profile L σ}

/-- A discovery whose patch moves nothing is silent. -/
theorem silent_of_still {depth : Nat} {now : UInt64} {m : Monitor L σ} {t : τ} {found : Found L}
    (hidle : m.scanning = false) (hfinds : p.Finds depth m.exchange found)
    (herrors : found.errors = 0) (hstill : Patch.ofFound m.graph found = { graph := m.graph }) :
    Silent m t (discover p depth now listen (m, t)) := by
  obtain ⟨x, hx⟩ := scanned_of_still p depth now m found hstill
  rw [discover_of_finds hidle hfinds, hstill, hx, herrors]
  refine ⟨rfl, ⟨x, ?_⟩, rfl⟩
  rw [← hidle]
  rfl

/-- After a discovery without errors on an endpoint whose answers do not change, the next
discovery always has a report without errors. It is silent if and only if the scan found nothing
under one identifier with two different looks. -/
theorem discover_again_silent_iff {depth : Nat} {now : UInt64} {m m₁ : Monitor L σ}
    {t t₁ : τ} {report : ScanReport L} (hsteady : p.endpoint.Steady between within)
    (hgraph : m.graph.Built) (hpeer : between m.exchange.peer) (hcalm : LeavesAlone between listen)
    (hfirst : discover p depth now listen (m, t) = (.ok report, m₁, t₁))
    (herrors : report.errors = 0) (now' : UInt64) (listen' : Listener L σ τ') (t' : τ') :
    ∃ found, p.Finds depth m.exchange found ∧
      (∃ change, (discover p depth now' listen' (m₁, t')).1 = .ok ⟨change, 0⟩) ∧
      (Silent m₁ t' (discover p depth now' listen' (m₁, t')) ↔ found.Coherent) ∧
      (found.Coherent → (Patch.ofFound m₁.graph found).events = []) := by
  obtain ⟨-, found, hfinds, hreport, hm₁, -⟩ := discover_ok_cases hfirst
  have hcount : found.errors = 0 := by rwa [hreport] at herrors
  have hlinked := hgraph.linked
  obtain ⟨hkept, hpeer'⟩ := announce_leavesAlone hcalm report.change
    (scanned p depth now m found) t
  have hscan := p.settled_scanReady hsteady depth
  have hidle₁ : m₁.scanning = false := by rw [hm₁]
  have hgraph₁ : m₁.graph = (Patch.ofFound m.graph found).graph := by
    rw [hm₁]
    exact hkept.trans (graph_scanned p depth now m found)
  have hpeer₁ : between m₁.exchange.peer := by
    rw [hm₁]
    exact hpeer' (peer_scanned p depth now m found ▸ hscan.keeps hpeer)
  have hfinds₁ : p.Finds depth m₁.exchange found :=
    (hscan.outcome_eq hpeer₁ hpeer).trans hfinds
  have hlinked₁ : Linked m₁.graph := hgraph₁ ▸ linked_ofFound hlinked found
  have hparents := p.scanReady_parentsFirst depth hfinds
  have still : found.Coherent → Patch.ofFound m₁.graph found = { graph := m₁.graph } := by
    intro hcoherent
    obtain ⟨hholds, hstale⟩ := ofFound_settled hlinked hparents hcount hcoherent
    rw [← hgraph₁] at hholds hstale
    exact ofFound_still hlinked₁ hholds hstale
  refine ⟨found, hfinds, ?_, ⟨fun hsilent => ?_, fun hcoherent => ?_⟩, fun hcoherent => ?_⟩
  · rw [discover_of_finds hidle₁ hfinds₁, hcount]
    exact ⟨_, rfl⟩
  · have hreport := hsilent.report
    rw [discover_of_finds hidle₁ hfinds₁] at hreport
    have hchange : (Patch.ofFound m₁.graph found).change = {} :=
      congrArg ScanReport.change (Except.ok.inj hreport)
    exact coherent_of_holds (holds_of_ofFound_isEmpty hlinked₁ (by rw [hchange]; rfl))
  · exact silent_of_still hidle₁ hfinds₁ hcount (still hcoherent)
  · rw [still hcoherent]

section Twins

/-- One type at the top. -/
theorem discover_again_silent_iff_oneNode :
    let first := discoverUnheard [typeAtX "A"] (start oneNode)
    (first.1.map (·.errors)).toOption = some 0 ∧
      Silent first.2.1 () (discoverUnheard [typeAtX "A"] first.2.1) := by
  intro first
  have herrors : (first.1.map (·.errors)).toOption = some 0 := by decide +kernel
  refine ⟨herrors, ?_⟩
  rcases hfirst : first with ⟨f | report, m₁, t₁⟩
  · rw [hfirst] at herrors
    cases herrors
  rw [hfirst] at herrors
  let unheard : Listener ManagementAddress (InMemory ManagementAddress) Unit := fun _ s => s
  have calm : LeavesAlone (InMemory.Unchanged oneNode) unheard := fun _ _ _ =>
    ⟨rfl, fun h => h⟩
  obtain ⟨found, hfinds, -, hsilent, -⟩ := discover_again_silent_iff
    (InMemory.steady rfl rfl "DMR" false) .empty ⟨rfl, rfl, rfl⟩ calm hfirst
    (Option.some.inj herrors) 0 unheard ()
  refine hsilent.2 ?_
  have hone : (heldInMemory [typeAtX "A"]).Finds 1 { peer := oneNode }
      ⟨[(heldInMemory [typeAtX "A"]).outline none (typeAtX "A") ⟨[⟨"x", "1"⟩]⟩], 0⟩ := rfl
  rw [hfinds.unique hone]
  intro r hr s hs _
  rw [List.mem_singleton.1 hr, List.mem_singleton.1 hs]
  exact Resource.isLike_self _

/-- Two types at the top that address the same node: each discovery finds it with the looks of
the one and then of the other, and reports both as modified. -/
theorem not_silent_discover_twins :
    let twins := [typeAtX "A", typeAtX "B"]
    let first := discoverUnheard twins (start oneNode)
    TypeGraph.build [⟨"s", true, twins⟩] none 0 = .ok ⟨twins⟩ ∧
      (heldInMemory twins).endpoint.Steady (InMemory.Unchanged oneNode)
        (InMemory.Opened false oneNode) ∧
      (first.1.map (·.errors)).toOption = some 0 ∧
      ¬ Silent first.2.1 () (discoverUnheard twins first.2.1) := by
  intro twins first
  refine ⟨?_, InMemory.steady rfl rfl "DMR" false, by decide +kernel, fun hsilent => ?_⟩
  · have sorted : TypeGraph.candidates 0 (Declaration.ofSets [⟨"s", true, twins⟩] none) = twins :=
      List.mergeSort_of_pairwise (by decide +kernel)
    rw [TypeGraph.build, sorted]
    rfl
  · have hmodified : ((discoverUnheard twins first.2.1).1.map
        (·.change.modified.length)).toOption = some 2 := by decide +kernel
    rw [hsilent.report] at hmodified
    cases hmodified

end Twins

end Monitor

end EndpointMonitor
