import EndpointMonitor.Endpoint.InMemory
import EndpointMonitor.Location.ManagementAddress
import EndpointMonitor.Monitor.Operations

/-!
# What a discovery consists of

A discovery that yields a report ran a scan to its end, put what was found into the resources,
and then told the listener. Each of these steps is taken apart here once.
-/

namespace EndpointMonitor

namespace Profile

variable {L σ : Type} [Location L]

/-- The resources and errors a scan of an endpoint finds. -/
def Finds (p : Profile L σ) (depth : Nat) (x : Exchange σ) (found : Found L) : Prop :=
  ((p.scanReady depth).run x).1 = .ok (.ok found)

theorem Finds.unique {p : Profile L σ} {depth : Nat} {x : Exchange σ} {found found' : Found L}
    (h : p.Finds depth x found) (h' : p.Finds depth x found') : found = found' := by
  rw [Finds, h] at h'
  cases h'
  rfl

end Profile

namespace Monitor

variable {L σ τ : Type} [Location L]

/-- The monitor after a scan, before anybody is told. -/
def scanned (p : Profile L σ) (depth : Nat) (now : UInt64) (m : Monitor L σ) (found : Found L) :
    Monitor L σ :=
  (adopt p now { m with
    scanning := true, exchange := ((p.scanReady depth).run m.exchange).2 } found).1

section Scanned

variable (p : Profile L σ) (depth : Nat) (now : UInt64) (m : Monitor L σ) (found : Found L)

@[simp] theorem graph_adopt :
    (adopt p now m found).1.graph = (Patch.ofFound m.graph found).graph := by
  unfold adopt
  split <;> rfl

@[simp] theorem peer_adopt : (adopt p now m found).1.exchange.peer = m.exchange.peer := by
  unfold adopt
  split <;> rfl

@[simp] theorem graph_scanned :
    (scanned p depth now m found).graph = (Patch.ofFound m.graph found).graph :=
  graph_adopt p now _ found

@[simp] theorem peer_scanned :
    (scanned p depth now m found).exchange.peer =
      ((p.scanReady depth).run m.exchange).2.peer :=
  peer_adopt p now _ found

/-- A patch that moves nothing leaves all but the exchange as it was. -/
theorem scanned_of_still (h : Patch.ofFound m.graph found = { graph := m.graph }) :
    ∃ x, scanned p depth now m found = { m with scanning := true, exchange := x } := by
  unfold scanned adopt
  simp only [h]
  split <;> exact ⟨_, rfl⟩

end Scanned

section Discover

variable {p : Profile L σ} {depth : Nat} {now : UInt64} {listen : Listener L σ τ}
  {m : Monitor L σ} {t : τ} {found : Found L}

theorem search_of_finds (h : p.Finds depth m.exchange found) :
    search p depth m =
      (.ok found, { m with exchange := ((p.scanReady depth).run m.exchange).2 }) := by
  unfold Profile.Finds at h
  unfold search
  rcases hrun : (p.scanReady depth).run m.exchange with ⟨outcome, y⟩
  rw [hrun] at h
  cases h
  rfl

theorem finds_of_search {m' : Monitor L σ} (h : search p depth m = (.ok found, m')) :
    p.Finds depth m.exchange found := by
  unfold search at h
  unfold Profile.Finds
  rcases hrun : (p.scanReady depth).run m.exchange with ⟨b | e | found, y⟩
  · simp [hrun] at h
  · simp [hrun] at h
  · simp only [hrun] at h
    cases h
    rfl

omit [Location L] in
/-- A listener who does nothing. -/
theorem announce_unheard (change : InventoryChange L) (s : Monitor L σ × τ) :
    announce (fun _ s => s) change s = s := by
  unfold announce
  split <;> rfl

/-- A monitor that is not scanning adopts what the scan finds, and tells the listener. -/
theorem discover_of_finds (hidle : m.scanning = false) (h : p.Finds depth m.exchange found) :
    discover p depth now listen (m, t) =
      let change := (Patch.ofFound m.graph found).change
      let told := announce listen change (scanned p depth now m found, t)
      (.ok ⟨change, found.errors⟩, { told.1 with scanning := false }, told.2) := by
  have hsearch : search p depth { m with scanning := true } = _ := search_of_finds h
  unfold discover
  simp only [hidle, Bool.false_eq_true, if_false, hsearch]
  rfl

/-- A discovery with a report was not refused, and its scan came to an end. -/
theorem discover_ok_cases {report : ScanReport L} {m' : Monitor L σ} {t' : τ}
    (h : discover p depth now listen (m, t) = (.ok report, m', t')) :
    m.scanning = false ∧ ∃ found, p.Finds depth m.exchange found ∧
      report = ⟨(Patch.ofFound m.graph found).change, found.errors⟩ ∧
      m' = { (announce listen report.change (scanned p depth now m found, t)).1 with
        scanning := false } ∧
      t' = (announce listen report.change (scanned p depth now m found, t)).2 := by
  cases hidle : m.scanning with
  | true => simp [discover, hidle] at h
  | false =>
      refine ⟨rfl, ?_⟩
      cases hsearch : search p depth { m with scanning := true } with
      | mk outcome m₁ =>
          cases outcome with
          | error f => simp [discover, hidle, hsearch] at h
          | ok found =>
              have hfinds := finds_of_search hsearch
              rw [discover_of_finds hidle hfinds] at h
              cases h
              exact ⟨found, hfinds, rfl, rfl, rfl⟩

theorem graph_search (p : Profile L σ) (depth : Nat) (m : Monitor L σ) :
    (search p depth m).2.graph = m.graph := by
  unfold search
  rcases (p.scanReady depth).run m.exchange with ⟨b | e | found, y⟩
  · rfl
  · rfl
  · rfl

/-- A discovery without a report leaves the resources as they were. -/
theorem graph_discover_of_error {f : Failure} {m' : Monitor L σ} {t' : τ}
    (h : discover p depth now listen (m, t) = (.error f, m', t')) : m'.graph = m.graph := by
  cases hidle : m.scanning with
  | true =>
      simp only [discover, hidle, if_true] at h
      cases h
      rfl
  | false =>
      have hgraph := graph_search p depth { m with scanning := true }
      cases hsearch : search p depth { m with scanning := true } with
      | mk outcome m₁ =>
          rw [hsearch] at hgraph
          simp only [discover, hidle, hsearch, Bool.false_eq_true, if_false] at h
          cases outcome with
          | ok found => cases h
          | error e =>
              cases h
              exact hgraph

end Discover

section InMemory

/-- A type of resources at the nodes below `/x`. -/
def typeAtX (name : String) : ResourceType ManagementAddress :=
  { name, location := ⟨[⟨"x", "*"⟩]⟩, nameTemplate := name }

/-- An endpoint with one node. -/
def oneNode : InMemory ManagementAddress :=
  ({} : InMemory ManagementAddress).addNode ⟨[⟨"x", "1"⟩]⟩

/-- An endpoint in memory with types of resources. -/
def heldInMemory (types : List (ResourceType ManagementAddress)) :
    Profile ManagementAddress (InMemory ManagementAddress) :=
  { feed := "f", name := "e", types := ⟨types⟩, endpoint := InMemory.endpoint "DMR" false }

/-- A discovery that nobody listens to. -/
def discoverUnheard (types : List (ResourceType ManagementAddress))
    (m : Monitor ManagementAddress (InMemory ManagementAddress)) :
    Except Failure (ScanReport ManagementAddress) ×
      Monitor ManagementAddress (InMemory ManagementAddress) × Unit :=
  discover (heldInMemory types) 1 0 (fun _ s => s) (m, ())

end InMemory

end Monitor

end EndpointMonitor
