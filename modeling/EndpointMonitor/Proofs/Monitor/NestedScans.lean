import EndpointMonitor.Proofs.Location.Nesting
import EndpointMonitor.Proofs.Monitor.Derivation
import EndpointMonitor.Proofs.Monitor.Discoveries

/-!
# Scans go down

If an endpoint answers a query with nodes that the query addresses, every resource is at a node
that the query for its type below its parent addresses. Where locations are paths it is then
strictly below its parent, unless its type has the empty location.
-/

namespace EndpointMonitor

variable {L σ : Type}

variable [Location L]

/-- The endpoint answers a query with nodes that the query addresses, if it answers it. -/
def Endpoint.AnswersCovered (e : Endpoint L σ) : Prop :=
  ∀ query s found, (e.nodes query s).1 = .answer found →
    ∀ node ∈ found, Location.covers query node = true

namespace Profile

open Conversation

/-- The types whose resources are found below a resource, or at the top. -/
def typesUnder (p : Profile L σ) : Option (Resource L) → List (ResourceType L)
  | none => p.types.rootTypes
  | some r => p.types.childTypes r.type.name

/-- A resource was found below another, or at the top: it names that one as its parent, its type
may come there, and its node is addressed by the query for this type. -/
structure FoundUnder (p : Profile L σ) (parent : Option (Resource L)) (r : Resource L) : Prop where
  parent_eq : r.parent = parent.map (·.id)
  type_mem : r.type ∈ p.typesUnder parent
  covered : Location.covers (queryFor parent r.type) r.location = true

variable {p : Profile L σ}

theorem meets_nodes_covered (h : p.endpoint.AnswersCovered) (query : L) :
    Meets (fun _ => True) (nodes p.endpoint query)
      (fun reply => ∀ found, reply = .ok found →
        ∀ node ∈ found, Location.covers query node = true) (fun _ => True) := by
  refine meets_ask fun s _ => ⟨trivial, ?_, fun _ _ => trivial⟩
  rintro reply hreply found rfl
  cases hcase : (p.endpoint.nodes query s).1 with
  | answer nodes =>
      rw [hcase] at hreply
      cases hreply
      exact h query s found hcase
  | failed e => simp [hcase, Reply.outcome] at hreply
  | broken => simp [hcase, Reply.outcome] at hreply

/-- If queries are answered with nodes that they address, a scan goes down to such nodes. -/
theorem descends_covered (h : p.endpoint.AnswersCovered) :
    Descends p (fun _ => True) (fun _ => True) (fun parent t => t ∈ p.typesUnder parent)
      (fun query node => Location.covers query node = true) p.FoundUnder where
  tooDeep := trivial
  roots _ ht := ht
  nodes := meets_nodes_covered h
  made {parent t node} ht hnode := by
    refine (meets_resourceAt p (attended_any trivial) parent t node).imp ?_
    rintro r ⟨config, metrics, avails, rfl⟩
    exact ⟨⟨rfl, ht, hnode⟩, fun _ hu => hu⟩

/-- What a scan has found is listed in the order of a walk. -/
theorem Finds.walked {depth : Nat} {x : Exchange σ} {found : Found L}
    (h : p.endpoint.AnswersCovered) (finds : p.Finds depth x found) :
    Walked p.FoundUnder none found.resources := by
  have whole := meets_scanReady p (consulted_any trivial) ((descends_covered h).meets_scan depth)
  exact ((whole x trivial).2.1 _ finds).2 found rfl

end Profile

/-- The laws of locations by which what is found below a location lies below it. -/
structure Location.Nests (L : Type) [Location L] : Prop where
  absolutize_assoc (a b c : L) : absolutize (absolutize a b) c = absolutize a (absolutize b c)
  root_absolutize (a : L) : absolutize root a = a
  absolutize_root (a : L) : absolutize a root = a
  covers_self (a : L) : covers a a = true
  covers_trans {a b c : L} : covers a b = true → covers b c = true → covers a c = true
  covers_antisymm {a b : L} : covers a b = true → covers b a = true → a = b
  covers_absolutize_iff {a b c : L} : covers (absolutize a b) c = true ↔
    ∃ d e, c = absolutize d e ∧ covers a d = true ∧ covers b e = true
  isAbove_iff {a c : L} : isAbove a c = true ↔
    ∃ d e, c = absolutize d e ∧ e ≠ root ∧ covers a d = true
  isAbove_trans {a b c : L} : isAbove a b = true → isAbove b c = true → isAbove a c = true
  isAbove_self (a : L) : isAbove a a = false
  /-- A scan finds each resource strictly below the one that it hangs below, unless its type has
  the empty location. -/
  finds_below {σ : Type} {p : Profile L σ} {depth : Nat} {x : Exchange σ} {found : Found L} :
    p.endpoint.AnswersCovered → p.Finds depth x found →
    Walked (fun parent r => p.FoundUnder parent r ∧ ∀ q, parent = some q →
      r.type.location ≠ root → isAbove q.location r.location = true) none found.resources

theorem Location.PathView.nests (v : PathView L) : Nests L where
  absolutize_assoc := v.absolutize_assoc
  root_absolutize := v.root_absolutize
  absolutize_root := v.absolutize_root
  covers_self := v.covers_self
  covers_trans := v.covers_trans
  covers_antisymm := v.covers_antisymm
  covers_absolutize_iff := v.covers_absolutize_iff
  isAbove_iff := v.isAbove_iff
  isAbove_trans := v.isAbove_trans
  isAbove_self := v.isAbove_self
  finds_below h finds := by
    refine (finds.walked h).mono fun {parent r} hr => ⟨hr, ?_⟩
    rintro q rfl hroot
    exact v.isAbove_of_covers hr.covered hroot

/-- Management addresses and platform paths nest, and what a scan finds below a resource lies
below it. -/
theorem Location.paths_nest : Nests ManagementAddress ∧ Nests PlatformPath :=
  ⟨ManagementAddress.pathView.nests, PlatformPath.pathView.nests⟩

section InMemory

theorem InMemory.answersCovered (protocol : String) (makesNodes : Bool) :
    (InMemory.endpoint (L := L) protocol makesNodes).AnswersCovered := by
  intro query s found h node hnode
  have answer : s.nodesAnswer query = .ok found := by
    change (s.reach (s.nodesAnswer query)).1 = _ at h
    unfold reach at h
    grind
  unfold nodesAnswer at answer
  split at answer
  · cases answer
  · cases answer
    exact (List.mem_filter.1 hnode).2

/-- Of two nodes the scan finds one below the other. -/
theorem Location.paths_nest_twoNodes :
    let p := Monitor.heldInMemory Profile.typesWithFault
    ∃ found, p.Finds 2 { peer := Profile.nodesWithFault } found ∧
      found.resources.map (·.location) = [⟨[⟨"x", "1"⟩]⟩, ⟨[⟨"x", "1"⟩, ⟨"y", "2"⟩]⟩] ∧
      Walked (fun parent r => p.FoundUnder parent r ∧ ∀ q, parent = some q →
        r.type.location ≠ root → isAbove q.location r.location = true) none found.resources := by
  intro p
  have located : ((p.scanReady 2).run { peer := Profile.nodesWithFault }).1.toOption.bind
      (fun r => r.toOption.map fun f => f.resources.map (·.location)) =
      some [⟨[⟨"x", "1"⟩]⟩, ⟨[⟨"x", "1"⟩, ⟨"y", "2"⟩]⟩] := by decide +kernel
  rcases hrun : ((p.scanReady 2).run { peer := Profile.nodesWithFault }).1 with b | e | found
  · simp [hrun, Except.toOption] at located
  · simp [hrun, Except.toOption] at located
  · rw [hrun] at located
    exact ⟨found, hrun, Option.some.inj located,
      paths_nest.1.finds_below (InMemory.answersCovered _ _) hrun⟩

end InMemory

end EndpointMonitor
