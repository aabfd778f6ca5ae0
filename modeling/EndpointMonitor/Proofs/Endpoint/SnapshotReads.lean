import EndpointMonitor.Endpoint.Snapshot
import EndpointMonitor.Proofs.Location.Nesting
import EndpointMonitor.Proofs.Monitor.Findings

/-!
# Reads of a snapshot

The nodes that a query addresses, whether one of them has an attribute, and the values of that
attribute are found independently of one another. They agree: a pattern has the values of the nodes
that it addresses, as each of them is read alone, in the order of the locations. So the
measurements that a scan finds on a snapshot can be read from it.
-/

namespace EndpointMonitor

namespace Segment

instance : Std.TransOrd Segment :=
  inferInstanceAs (Std.TransCmp (compareLex (compareOn Segment.key) (compareOn Segment.value)))

instance : Std.LawfulEqOrd Segment where
  eq_of_compare {a b} h := by
    obtain ⟨hkey, hvalue⟩ := compareLex_eq_eq.1 (show compareLex _ _ a b = .eq from h)
    cases a
    cases b
    simp_all [compareOn]

/-- A segment that is no wildcard allows itself only. -/
theorem covers_iff_eq {p s : Segment} (h : p.value ≠ wildcard) : p.covers s = true ↔ p = s := by
  rw [covers_iff, or_iff_right h]
  cases p
  cases s
  simp

end Segment

/-- A path without wildcards addresses itself only. -/
theorem Path.covers_iff_eq {ps ss : List Segment} (h : isPattern ps = false) :
    covers ps ss = true ↔ ps = ss := by
  induction ps generalizing ss with
  | nil => cases ss <;> simp [covers]
  | cons p ps ih =>
      obtain ⟨hp, hps⟩ : p.value ≠ Segment.wildcard ∧ isPattern ps = false := by
        simpa [isPattern, Segment.isWild] using h
      cases ss with
      | nil => simp [covers]
      | cons s ss =>
          rw [covers, Bool.and_eq_true, Segment.covers_iff_eq hp, ih hps, List.cons.injEq]

namespace PlatformPath

instance : Std.TransOrd PlatformPath :=
  inferInstanceAs (Std.TransCmp (compareOn PlatformPath.segments))

instance : Std.LawfulEqOrd PlatformPath where
  eq_of_compare {a b} h := by
    have hsegments : a.segments = b.segments := Std.LawfulEqOrd.eq_of_compare h
    cases a
    cases b
    cases hsegments
    rfl

theorem covers_iff_eq {q node : PlatformPath} (h : Location.isPattern q = false) :
    Location.covers q node = true ↔ q = node := by
  refine (Path.covers_iff_eq h).trans ⟨fun heq => ?_, congrArg segments⟩
  cases q
  cases node
  cases heq
  rfl

end PlatformPath

namespace Snapshot

section Questions

variable {L : Type} [Location L]

/-- Reading the attribute yields at least one value. -/
def Answers (s : Snapshot L) (a : AttributeLocation L) : Prop :=
  ∃ reading, s.read a = .ok reading ∧ reading.values ≠ []

/-- The value that a node has for an attribute. -/
def valueAt? (s : Snapshot L) (node : L) (name : String) : Option Json :=
  s.nodes[node]?.bind fun attributes => attributes[name]?

variable {s : Snapshot L} {a : AttributeLocation L}

theorem hasAttribute_iff_valuesAt : s.hasAttribute a = true ↔ s.valuesAt a ≠ [] := by
  simp only [hasAttribute, List.any_eq_true, valuesAt, ne_eq, List.filterMap_eq_nil_iff,
    Std.TreeMap.contains_eq_isSome_getElem?, Option.map_eq_none_iff, not_forall,
    ← Option.isSome_iff_ne_none, exists_prop]

/-- An attribute is there exactly if reading it yields a value. -/
theorem hasAttribute_iff : s.hasAttribute a = true ↔ s.Answers a := by
  rw [hasAttribute_iff_valuesAt, Answers, read]
  split
  · simp [Reading.values]
  · cases hlast : (s.valuesAt a).getLast? with
    | none => simpa using List.getLast?_eq_none_iff.1 hlast
    | some value =>
        have hvalues : s.valuesAt a ≠ [] := fun hnil => by simp [hnil] at hlast
        simpa [Reading.values] using hvalues

section Order

variable [Std.TransOrd L] [Std.LawfulEqOrd L] {q node : L}

theorem mem_covered_iff {attributes : Attributes} : (node, attributes) ∈ s.covered q ↔
    s.nodes[node]? = some attributes ∧ Location.covers q node = true := by
  rw [covered, List.mem_filter, Std.TreeMap.mem_toList_iff_getElem?_eq_some]

theorem mem_nodesAt_iff :
    node ∈ s.nodesAt q ↔ node ∈ s.nodes ∧ Location.covers q node = true := by
  simp only [nodesAt, List.mem_map, Prod.exists, exists_and_right, exists_eq_right,
    mem_covered_iff, Std.TreeMap.mem_iff_isSome_getElem?, Option.isSome_iff_exists]

omit [Std.LawfulEqOrd L] in
theorem pairwise_nodesAt (s : Snapshot L) (q : L) :
    (s.nodesAt q).Pairwise fun x y => compare x y = .lt :=
  List.pairwise_map.2 (Std.TreeMap.ordered_keys_toList.filter _)

/-- The values of an attribute are those of the nodes that are addressed, one after the other. -/
theorem valuesAt_eq : s.valuesAt a = (s.nodesAt a.node).filterMap fun node =>
    (s.valueAt? node a.name).map (narrow a.field) := by
  rw [valuesAt, nodesAt, List.filterMap_map]
  refine List.filterMap_congr fun (node, attributes) hmem => ?_
  simp [valueAt?, (mem_covered_iff.1 hmem).1]

/-- A location that addresses itself only addresses one node, if that is there. -/
theorem nodesAt_eq (alone : ∀ node, Location.covers q node = true ↔ q = node) :
    s.nodesAt q = if q ∈ s.nodes then [q] else [] := by
  have mem_iff : ∀ node, node ∈ s.nodesAt q ↔ node ∈ s.nodes ∧ q = node := fun node =>
    mem_nodesAt_iff.trans (and_congr_right' (alone node))
  have ordered := s.pairwise_nodesAt q
  cases hl : s.nodesAt q with
  | nil =>
      have hq : q ∉ s.nodes := fun hq => by simpa [hl] using (mem_iff q).2 ⟨hq, rfl⟩
      rw [if_neg hq]
  | cons x rest =>
      rw [hl] at mem_iff ordered
      obtain ⟨hq, rfl⟩ := (mem_iff x).1 List.mem_cons_self
      have hrest : rest = [] := List.eq_nil_iff_forall_not_mem.2 fun y hy => by
        obtain ⟨-, rfl⟩ := (mem_iff y).1 (List.mem_cons_of_mem _ hy)
        simpa using List.rel_of_pairwise_cons ordered hy
      rw [if_pos hq, hrest]

theorem valuesAt_of_alone (alone : ∀ node, Location.covers a.node node = true ↔ a.node = node) :
    s.valuesAt a = ((s.valueAt? a.node a.name).map (narrow a.field)).toList := by
  rw [valuesAt_eq, nodesAt_eq alone]
  split
  · cases h : s.valueAt? a.node a.name <;> simp [h]
  · rename_i hnode
    have hnone : s.nodes[a.node]? = none := Std.TreeMap.getElem?_eq_none hnode
    simp [valueAt?, hnone]

/-- What a location that addresses itself only is read as: the value of its node. -/
theorem read_of_alone (alone : ∀ node, Location.covers a.node node = true ↔ a.node = node)
    (hsingle : Location.isPattern a.node = false) : s.read a =
      match s.valueAt? a.node a.name with
      | some value => .ok (.single (narrow a.field value))
      | none => .error (.refused ("attribute [" ++ a.text ++ "] not found")) := by
  rw [read, hsingle, if_neg Bool.false_ne_true, valuesAt_of_alone alone]
  cases s.valueAt? a.node a.name <;> rfl

end Order

end Questions

section Discovery

open Conversation Profile

variable {L : Type} [Location L] {s : Snapshot L} {p : Profile L (Snapshot L)} {protocol : String}

/-- Reading each measurement of the resource yields at least one value. -/
structure AnswersAll (s : Snapshot L) (r : Resource L) : Prop where
  metrics : ∀ m ∈ r.metrics, s.Answers m.location
  avails : ∀ m ∈ r.avails, s.Answers m.location

theorem consulted_endpoint (hp : p.endpoint = endpoint protocol) :
    Consulted p.endpoint (· = s) fun _ => True := by
  rw [hp]
  refine ⟨meets_contact fun t ht => ?_, fun query => meets_ask fun t ht => ?_⟩
  · exact ⟨ht, fun _ _ => trivial, fun _ _ => trivial⟩
  · exact ⟨ht, fun _ _ => trivial, fun _ _ => trivial⟩

theorem meets_hasAttribute (hp : p.endpoint = endpoint protocol) (a : AttributeLocation L) :
    Meets (· = s) (Conversation.hasAttribute p.endpoint a)
      (fun reply => reply = .ok (s.hasAttribute a)) fun _ => True := by
  rw [hp]
  refine meets_ask fun t ht => ⟨ht, ?_, fun _ _ => trivial⟩
  rintro reply ⟨⟩
  rw [ht]

theorem attended_endpoint (hp : p.endpoint = endpoint protocol) :
    Attended p.endpoint (· = s) fun _ => True where
  hasAttribute a := (meets_hasAttribute hp a).imp fun _ _ => trivial
  read a := by
    rw [hp]
    refine meets_ask fun t ht => ?_
    subst ht
    refine ⟨?_, fun _ _ => trivial, fun _ _ => trivial⟩
    simp only [endpoint]
    split <;> rfl

/-- A measurement is made only of an attribute that can be read. -/
theorem meets_instances_answers {D : Type} (hp : p.endpoint = endpoint protocol) (r : Resource L)
    (id : String → String → String) (ts : List (MeasurementType L D)) :
    Meets (· = s) (instances p r id ts) (fun ms => ∀ m ∈ ms, s.Answers m.location)
      fun _ => True := by
  refine meets_instances p r id fun t _ => ?_
  refine (meets_instance? p r id t (meets_hasAttribute hp _)).imp fun found h m hm => ?_
  obtain ⟨rfl, hreply⟩ := h m hm
  exact hasAttribute_iff.1 (Except.ok.inj hreply).symm

theorem meets_resourceAt_answers (hp : p.endpoint = endpoint protocol)
    (parent : Option (Resource L)) (t : ResourceType L) (node : L) :
    Meets (· = s) (resourceAt p parent t node) s.AnswersAll fun _ => True :=
  meets_resourceAt_of p (attended_endpoint hp) (meets_instances_answers hp _ _ _)
    (meets_instances_answers hp _ _ _) fun _ _ _ hmetrics havails => ⟨hmetrics, havails⟩

/-- Whatever a scan of a snapshot finds to measure can be read from it. -/
theorem answersAll_of_finds (hp : p.endpoint = endpoint protocol) {depth : Nat}
    {x : Exchange (Snapshot L)} {found : Found L} (finds : p.Finds depth x found) :
    ∀ r ∈ found.resources, x.peer.AnswersAll r :=
  finds.forall_mem (consulted_endpoint hp)
    (fun t _ parent node => meets_resourceAt_answers hp parent t node) rfl

end Discovery

section Platform

/-- What is told of the nodes and attributes of the host agrees. -/
structure ReadsAgree (s : Snapshot PlatformPath) : Prop where
  mem_nodesAt_iff : ∀ query node,
    node ∈ s.nodesAt query ↔ node ∈ s.nodes ∧ Location.covers query node = true
  pairwise_nodesAt : ∀ query, (s.nodesAt query).Pairwise fun x y => compare x y = .lt
  hasAttribute_iff : ∀ a, s.hasAttribute a = true ↔ s.Answers a
  /-- A pattern has the values that are read at each node it addresses that has the attribute. -/
  read_pattern : ∀ a, Location.isPattern a.node = true →
    ∃ values, s.read a = .ok (.multiple values) ∧
      List.Forall₂ (fun node value => s.read { a with node } = .ok (.single value))
        ((s.nodesAt a.node).filter fun node => (s.valueAt? node a.name).isSome) values
  /-- Any other location has the value of its node, if that is there and has the attribute. -/
  read_single : ∀ a, Location.isPattern a.node = false → s.read a =
    match s.valueAt? a.node a.name with
    | some value => .ok (.single (narrow a.field value))
    | none => .error (.refused ("attribute [" ++ a.text ++ "] not found"))
  /-- What a scan finds to measure can be read. -/
  answersAll : ∀ (p : Profile PlatformPath (Snapshot PlatformPath)) protocol depth x found,
    p.endpoint = endpoint protocol → x.peer = s → p.Finds depth x found →
      ∀ r ∈ found.resources, s.AnswersAll r

theorem forall₂_filter_filterMap {α β : Type} {R : α → β → Prop} {f : α → Option β} {l : List α}
    (h : ∀ x ∈ l, ∀ y, f x = some y → R x y) :
    List.Forall₂ R (l.filter fun x => (f x).isSome) (l.filterMap f) := by
  induction l with
  | nil => exact .nil
  | cons x rest ih =>
      obtain ⟨hx, hrest⟩ := List.forall_mem_cons.1 h
      cases hfx : f x with
      | none => simpa [hfx] using ih hrest
      | some y => simpa [hfx] using List.Forall₂.cons (hx y hfx) (ih hrest)

variable {s : Snapshot PlatformPath}

theorem read_platform {a : AttributeLocation PlatformPath}
    (hsingle : Location.isPattern a.node = false) : s.read a =
      match s.valueAt? a.node a.name with
      | some value => .ok (.single (narrow a.field value))
      | none => .error (.refused ("attribute [" ++ a.text ++ "] not found")) :=
  read_of_alone (fun _ => PlatformPath.covers_iff_eq hsingle) hsingle

theorem read_platformPattern (plain : ∀ node ∈ s.nodes, Location.isPattern node = false)
    {a : AttributeLocation PlatformPath} (hpattern : Location.isPattern a.node = true) :
    ∃ values, s.read a = .ok (.multiple values) ∧
      List.Forall₂ (fun node value => s.read { a with node } = .ok (.single value))
        ((s.nodesAt a.node).filter fun node => (s.valueAt? node a.name).isSome) values := by
  refine ⟨s.valuesAt a, by rw [read, if_pos hpattern], ?_⟩
  have isSome_eq : ∀ node, (s.valueAt? node a.name).isSome =
      ((s.valueAt? node a.name).map (narrow a.field)).isSome := fun node => by simp
  simp only [valuesAt_eq, isSome_eq]
  refine forall₂_filter_filterMap fun node hnode value hvalue => ?_
  obtain ⟨read, hread, rfl⟩ := Option.map_eq_some_iff.1 hvalue
  -- The node is no pattern, so reading it alone does not look at any other.
  rw [read_platform (plain node (Snapshot.mem_nodesAt_iff.1 hnode).1), hread]

/-- Where no node of the host is named like a wildcard, all that is read of it agrees. -/
theorem reads_agree (s : Snapshot PlatformPath)
    (plain : ∀ node ∈ s.nodes, ∀ segment ∈ node.segments, segment.value ≠ Segment.wildcard) :
    s.ReadsAgree where
  mem_nodesAt_iff _ _ := Snapshot.mem_nodesAt_iff
  pairwise_nodesAt := s.pairwise_nodesAt
  hasAttribute_iff _ := Snapshot.hasAttribute_iff
  read_pattern _ hpattern := by
    refine read_platformPattern (fun node hnode => ?_) hpattern
    have hvalues := plain node hnode
    simpa [Location.isPattern, Path.isPattern, Segment.isWild] using hvalues
  read_single _ hsingle := read_platform hsingle
  answersAll _ _ _ _ _ hp hx finds := by
    subst hx
    exact answersAll_of_finds hp finds

/-- A processor of a host. -/
def processor (name : String) : PlatformPath :=
  ⟨[⟨"Operating System", "host"⟩, ⟨"Processor", name⟩]⟩

/-- A host with three processors, the first of which has no temperature. -/
def threeProcessors : Snapshot PlatformPath :=
  (({} : Snapshot PlatformPath).setAttribute (processor "0") "Usage" (.str "0.25")).setAttribute
    (processor "1") "Temperature" (.str "40") |>.setAttribute
    (processor "2") "Temperature" (.str "50")

/-- The temperatures of all processors, at the processors that have one. -/
def temperatures : Profile PlatformPath (Snapshot PlatformPath) where
  feed := "feed"
  name := "local"
  types := ⟨[{
    name := "Processor"
    location := processor "*"
    nameTemplate := "%s"
    metrics := [{
      name := "Temperature", location := ⟨⟨[]⟩, "Temperature", none⟩, interval := ⟨30, .seconds⟩
      detail := ⟨.gauge, "none"⟩ }] }]⟩
  endpoint := endpoint "platform"

/-- A scan finds the measurements of two of the three processors. -/
theorem reads_agree_threeProcessors :
    (∀ node ∈ threeProcessors.nodes, ∀ segment ∈ node.segments,
      segment.value ≠ Segment.wildcard) ∧ threeProcessors.ReadsAgree ∧
    ∃ found, temperatures.Finds 1 { peer := threeProcessors } found ∧
      (found.resources.flatMap (·.metrics)).map (·.location.node) =
        [processor "1", processor "2"] := by
  have plain : ∀ node ∈ threeProcessors.nodes, ∀ segment ∈ node.segments,
      segment.value ≠ Segment.wildcard := by
    intro node hnode
    simp only [threeProcessors, setAttribute, Std.TreeMap.mem_insert, Std.TreeMap.not_mem_emptyc,
      Std.LawfulEqCmp.compare_eq_iff_eq, or_false] at hnode
    rcases hnode with rfl | rfl | rfl <;> decide
  refine ⟨plain, reads_agree _ plain, ?_⟩
  have located : ((temperatures.scanReady 1).run { peer := threeProcessors }).1.toOption.bind
      (fun r => r.toOption.map fun f => (f.resources.flatMap (·.metrics)).map (·.location.node)) =
      some [processor "1", processor "2"] := by decide +kernel
  rcases hrun : ((temperatures.scanReady 1).run { peer := threeProcessors }).1 with b | e | found
  · simp [hrun, Except.toOption] at located
  · simp [hrun, Except.toOption] at located
  · rw [hrun] at located
    exact ⟨found, hrun, Option.some.inj located⟩

end Platform

end Snapshot

end EndpointMonitor
