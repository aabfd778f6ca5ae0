import EndpointMonitor.Proofs.Monitor.FailedQueries
import EndpointMonitor.Proofs.Monitor.ScanDepth
import EndpointMonitor.Proofs.Endpoint.Steadiness
import Mathlib.Data.List.Infix

/-!
# What a scan derives

From the types and the answers of an endpoint chains are derived: a root type with one of its
nodes, then a child type with one of its nodes below that, and so on. A scan finds one resource
for each chain, after those of the chains it goes on from. Branches of the scan are apart: they
differ in the type or in the node that comes next.
-/

namespace EndpointMonitor

variable {L σ : Type}

/-- A link of a chain: a type, its place among the types that may come there, and a node. -/
structure Link (L : Type) where
  position : Nat
  type : ResourceType L
  node : L

/-- The nodes in an answer, of which a failure has none. -/
def answered (Q : L → Except AccessError (List L)) (query : L) : List L :=
  match Q query with
  | .ok found => found
  | .error _ => []

/-- The types that may come next in a chain, whose newest link stands first. -/
def TypeGraph.typesBelow (g : TypeGraph L) : List (Link L) → List (ResourceType L)
  | [] => g.rootTypes
  | l :: _ => g.childTypes l.type.name

/-- The query for the nodes of a type that comes next in a chain. -/
def queryBelow [Location L] : List (Link L) → ResourceType L → L
  | [], t => t.location
  | l :: _, t => Location.absolutize l.node t.location

/-- A chain of types, each with a node that is among the answers to the query for it. -/
def Derived [Location L] (g : TypeGraph L) (Q : L → Except AccessError (List L)) :
    List (Link L) → Prop
  | [] => True
  | l :: above => Derived g Q above ∧ (g.typesBelow above)[l.position]? = some l.type ∧
      l.node ∈ answered Q (queryBelow above l.type)

section Suffixes

variable {α : Type} {x y : α} {s e : List α}

theorem eq_of_cons_suffix (hx : x :: s <:+ e) (hy : y :: s <:+ e) : x = y := by
  have hxy := (List.suffix_of_suffix_length_le hx hy (by simp)).eq_of_length (by simp)
  exact (List.cons.inj hxy).1

theorem cons_suffix_of_ne (h : s <:+ e) (hne : e ≠ s) : ∃ x, x :: s <:+ e := by
  obtain ⟨before, rfl⟩ := h
  rcases List.eq_nil_or_concat before with rfl | ⟨rest, x, rfl⟩
  · exact absurd rfl hne
  · exact ⟨x, rest, by simp⟩

theorem not_cons_suffix_self : ¬ x :: s <:+ s := by
  intro h
  have hle := h.length_le
  rw [List.length_cons] at hle
  omega

end Suffixes

theorem Derived.of_suffix [Location L] {g : TypeGraph L} {Q : L → Except AccessError (List L)}
    {c d : List (Link L)} (hd : Derived g Q d) (h : c <:+ d) : Derived g Q c := by
  induction d with
  | nil =>
      rw [List.suffix_nil.1 h]
      trivial
  | cons l above ih =>
      rcases List.suffix_cons_iff.1 h with rfl | h
      · exact hd
      · exact ih hd.1 h

/-- The derived chains that go on from a chain. -/
def DerivedFrom [Location L] (g : TypeGraph L) (Q : L → Except AccessError (List L))
    (s c : List (Link L)) : Prop :=
  Derived g Q c ∧ s <:+ c

section Branches

variable [Location L] {g : TypeGraph L} {Q : L → Except AccessError (List L)}
  {s c : List (Link L)}

/-- Chains that go on from a chain do so with a type that may come next. -/
theorem derivedFrom_ne_iff :
    DerivedFrom g Q s c ∧ c ≠ s ↔
      ∃ ti ∈ (g.typesBelow s).zipIdx, ∃ n, DerivedFrom g Q (⟨ti.2, ti.1, n⟩ :: s) c := by
  constructor
  · rintro ⟨⟨hc, hs⟩, hne⟩
    obtain ⟨l, hl⟩ := cons_suffix_of_ne hs hne
    obtain ⟨-, htype, -⟩ := hc.of_suffix hl
    exact ⟨(l.type, l.position), List.mem_zipIdx_iff_getElem?.2 htype, l.node, hc, hl⟩
  · rintro ⟨ti, -, n, hc, hs⟩
    refine ⟨⟨hc, (List.suffix_cons _ s).trans hs⟩, ?_⟩
    rintro rfl
    exact not_cons_suffix_self hs

/-- Chains that go on with a type do so with one of its nodes. -/
theorem derivedFrom_cons_iff {i : Nat} {t : ResourceType L} :
    (∃ n, DerivedFrom g Q (⟨i, t, n⟩ :: s) c) ↔
      ∃ n ∈ answered Q (queryBelow s t), DerivedFrom g Q (⟨i, t, n⟩ :: s) c := by
  constructor
  · rintro ⟨n, hc, hs⟩
    exact ⟨n, (hc.of_suffix hs).2.2, hc, hs⟩
  · rintro ⟨n, -, hc⟩
    exact ⟨n, hc⟩

/-- Chains that go on from a chain in two different ways do not go on from one another. -/
theorem DerivedFrom.apart {x y : Link L} {d : List (Link L)} (hc : DerivedFrom g Q (x :: s) c)
    (hd : DerivedFrom g Q (y :: s) d) (hne : x ≠ y) : ¬ d <:+ c := fun h =>
  hne (eq_of_cons_suffix hc.2 (hd.2.trans h))

end Branches

/-- Within an invariant, each query has one answer, in which no node occurs twice, and questions
about attributes have an answer of any kind. -/
structure Endpoint.AnswersBy (e : Endpoint L σ) (within : σ → Prop)
    (Q : L → Except AccessError (List L)) : Prop where
  nodes : ∀ query s, within s → (e.nodes query s).1.outcome = .ok (Q query) ∧
    within (e.nodes query s).2
  distinct : ∀ {query found}, Q query = .ok found → found.Nodup
  hasAttribute : ∀ a s, within s → (e.hasAttribute a s).1 ≠ .broken ∧
    within (e.hasAttribute a s).2
  read : ∀ a s, within s → (e.read a s).1 ≠ .broken ∧ within (e.read a s).2

namespace Profile

open Conversation

variable [Location L] (p : Profile L σ)

/-- The identifier of the resource at a node. -/
def idAt (node : L) : String :=
  ResourceIdParts.join ⟨p.feed, p.name, Location.text node⟩

/-- The resource of a chain is at the node of its newest link, below the one before. -/
def StandsFor : List (Link L) → Resource L → Prop
  | [], _ => False
  | l :: above, r => r.id = p.idAt l.node ∧ r.location = l.node ∧ r.type = l.type ∧
      r.name = Location.nameFrom l.type.nameTemplate l.node p.name ∧
      r.parent = above.head?.map fun q => p.idAt q.node

/-- Some resources stand for the chains with a property, each for one of them, and none comes
before that of a chain which its own goes on from. -/
def Covers (B : List (Link L) → Prop) (rs : List (Resource L)) : Prop :=
  ∃ chains, List.Forall₂ p.StandsFor chains rs ∧ chains.Pairwise (fun c d => ¬ d <:+ c) ∧
    ∀ c, c ∈ chains ↔ B c

section Covers

variable {p} {B B' : List (Link L) → Prop} {rs rs' : List (Resource L)}

theorem Covers.congr (h : p.Covers B rs) (hB : ∀ c, B c ↔ B' c) : p.Covers B' rs := by
  obtain ⟨chains, hstand, hfirst, hmem⟩ := h
  exact ⟨chains, hstand, hfirst, fun c => (hmem c).trans (hB c)⟩

theorem covers_nil (h : ∀ c, ¬ B c) : p.Covers B [] :=
  ⟨[], .nil, .nil, fun c => iff_of_false List.not_mem_nil (h c)⟩

theorem covers_single {c : List (Link L)} {r : Resource L} (h : p.StandsFor c r) :
    p.Covers (· = c) [r] :=
  ⟨[c], .cons h .nil, List.pairwise_singleton _ _, fun _ => List.mem_singleton⟩

theorem Covers.append (h : p.Covers B rs) (h' : p.Covers B' rs')
    (apart : ∀ c d, B c → B' d → ¬ d <:+ c) :
    p.Covers (fun c => B c ∨ B' c) (rs ++ rs') := by
  obtain ⟨chains, hstand, hfirst, hmem⟩ := h
  obtain ⟨chains', hstand', hfirst', hmem'⟩ := h'
  refine ⟨chains ++ chains', List.rel_append hstand hstand', ?_, fun c => ?_⟩
  · refine List.pairwise_append.2 ⟨hfirst, hfirst', fun c hc d hd => ?_⟩
    exact apart c d ((hmem c).1 hc) ((hmem' d).1 hd)
  · rw [List.mem_append, hmem, hmem']

/-- Parts that cover branches apart from one another cover all of them together. -/
theorem covers_join {ι : Type} {l : List ι} {B : ι → List (Link L) → Prop}
    {parts : List (Found L)}
    (h : List.Forall₂ (fun i f => p.Covers (B i) f.resources) l parts)
    (apart : l.Pairwise fun i j => ∀ c d, B i c → B j d → ¬ d <:+ c) :
    p.Covers (fun c => ∃ i ∈ l, B i c) (Found.join parts).resources := by
  induction h with
  | nil => exact covers_nil (by simp)
  | @cons i f l parts hf _ ih =>
      obtain ⟨hhead, htail⟩ := List.pairwise_cons.1 apart
      refine (hf.append (ih htail) ?_).congr (by simp)
      rintro c d hc ⟨j, hj, hd⟩
      exact hhead j hj c d hc hd

end Covers

section Answers

variable {p} {within : σ → Prop} {Q : L → Except AccessError (List L)} {E : Breakdown → Prop}

omit [Location L] in
theorem meets_nodes (h : p.endpoint.AnswersBy within Q) (query : L) :
    Meets within (nodes p.endpoint query) (· = Q query) E := by
  refine meets_ask fun s hs => ?_
  obtain ⟨hreply, hwithin⟩ := h.nodes query s hs
  rw [hreply]
  refine ⟨hwithin, ?_, ?_⟩
  · rintro a ⟨⟩
    rfl
  · rintro b ⟨⟩

omit [Location L] in
theorem meets_ask_unbroken {α : Type} {protocol : String} {question : σ → Reply α × σ}
    (h : ∀ s, within s → (question s).1 ≠ .broken ∧ within (question s).2) :
    Meets within (ask protocol question) (fun _ => True) E := by
  refine meets_ask fun s hs => ?_
  obtain ⟨hreply, hwithin⟩ := h s hs
  refine ⟨hwithin, fun _ _ => trivial, fun b hb => ?_⟩
  cases hcase : (question s).1 with
  | answer a => simp [hcase, Reply.outcome] at hb
  | failed f => simp [hcase, Reply.outcome] at hb
  | broken => exact absurd hcase hreply

omit [Location L] in
theorem attended (h : p.endpoint.AnswersBy within Q) : Attended p.endpoint within E :=
  ⟨fun a => meets_ask_unbroken (h.hasAttribute a), fun a => meets_ask_unbroken (h.read a)⟩

/-- The resource that a scan goes on from is that of the newest link of a chain. -/
def Heads (p : Profile L σ) : List (Link L) → Option (Resource L) → Prop
  | [], parent => parent = none
  | l :: _, parent => ∃ r, parent = some r ∧ r.id = p.idAt l.node ∧ r.location = l.node

variable {s : List (Link L)} {parent : Option (Resource L)}

theorem Heads.queryFor_eq (h : Heads p s parent) (t : ResourceType L) :
    queryFor parent t = queryBelow s t := by
  cases s with
  | nil =>
      cases h
      rfl
  | cons l above =>
      obtain ⟨r, rfl, -, hlocation⟩ := h
      rw [queryFor, queryBelow, hlocation]

theorem Heads.id_eq (h : Heads p s parent) :
    parent.map (·.id) = s.head?.map fun q => p.idAt q.node := by
  cases s with
  | nil =>
      cases h
      rfl
  | cons l above =>
      obtain ⟨r, rfl, hid, -⟩ := h
      rw [Option.map_some, hid]
      rfl

/-- The searches for the types that may come next in a chain cover what goes on from it. -/
theorem meets_each_scanType {depth : Nat}
    (h : ∀ i t, (p.types.typesBelow s)[i]? = some t →
      Meets within (scanType p depth parent t)
        (fun f => p.Covers (fun c => ∃ n, DerivedFrom p.types Q (⟨i, t, n⟩ :: s) c) f.resources)
        E) :
    Meets within (each (scanType p depth parent) (p.types.typesBelow s))
      (fun parts => p.Covers (fun c => DerivedFrom p.types Q s c ∧ c ≠ s)
        (Found.join parts).resources) E := by
  have parts := meets_each_map (f := Prod.fst) (l := (p.types.typesBelow s).zipIdx)
    fun ti hti => h ti.2 ti.1 (List.mem_zipIdx_iff_getElem?.1 hti)
  rw [List.zipIdx_map_fst] at parts
  have positions : ((p.types.typesBelow s).zipIdx.map Prod.snd).Nodup := by
    rw [List.zipIdx_map_snd]
    exact List.nodup_range'
  refine parts.imp fun fs hfs => ?_
  refine (covers_join hfs ?_).congr fun c => derivedFrom_ne_iff.symm
  refine (List.pairwise_map.1 positions).imp ?_
  rintro ti uj hne c d ⟨n, hc⟩ ⟨m, hd⟩
  exact hc.apart hd fun heq => hne (congrArg Link.position heq)

/-- Within the depth that it has, a search for a type covers the chains that go on with it. -/
theorem meets_scanType (h : p.endpoint.AnswersBy within Q) (depth : Nat) {i : Nat}
    {t : ResourceType L} (hs : Derived p.types Q s) (hparent : Heads p s parent)
    (ht : (p.types.typesBelow s)[i]? = some t) :
    Meets within (scanType p depth parent t)
      (fun f => p.Covers (fun c => ∃ n, DerivedFrom p.types Q (⟨i, t, n⟩ :: s) c) f.resources)
      (· = .tooDeep) := by
  induction depth generalizing s parent i t with
  | zero => exact meets_throw rfl
  | succ depth ih =>
      rw [scanType, hparent.queryFor_eq]
      refine (meets_nodes h _).bind ?_
      rintro _ rfl
      cases hQ : Q (queryBelow s t) with
      | error f =>
          refine (meets_report _ _).bind fun _ _ => meets_pure (covers_nil ?_)
          intro c hc
          obtain ⟨n, hn, -⟩ := derivedFrom_cons_iff.1 hc
          simp [answered, hQ] at hn
      | ok found =>
          have hfound : answered Q (queryBelow s t) = found := by simp [answered, hQ]
          refine (meets_each_forall₂ (R := fun n f =>
            p.Covers (DerivedFrom p.types Q (⟨i, t, n⟩ :: s)) f.resources)
              fun n hn => ?_).bind fun parts hparts => meets_pure ?_
          · have hl : Derived p.types Q (⟨i, t, n⟩ :: s) := ⟨hs, ht, hfound ▸ hn⟩
            refine (meets_resourceAt p (attended h) parent t n).bind ?_
            rintro _ ⟨config, metrics, avails, rfl⟩
            refine (meets_each_scanType (s := ⟨i, t, n⟩ :: s) fun j u hu =>
              ih hl ⟨_, rfl, rfl, rfl⟩ hu).bind fun below hbelow => meets_pure ?_
            have hself : p.StandsFor (⟨i, t, n⟩ :: s)
                { p.outline parent t n with config, metrics, avails } :=
              ⟨rfl, rfl, rfl, rfl, hparent.id_eq⟩
            refine ((covers_single hself).append hbelow ?_).congr fun c => ?_
            · rintro c d rfl ⟨hd, hne⟩ hdc
              exact hne (hdc.eq_of_length (le_antisymm hdc.length_le hd.2.length_le))
            · constructor
              · rintro (rfl | ⟨hc, -⟩)
                · exact ⟨hl, List.suffix_rfl⟩
                · exact hc
              · intro hc
                by_cases heq : c = ⟨i, t, n⟩ :: s
                · exact Or.inl heq
                · exact Or.inr ⟨hc, heq⟩
          · refine (covers_join hparts ?_).congr fun c => ?_
            · refine (h.distinct hQ).imp fun {n m} hne c d hc hd => ?_
              exact hc.apart hd fun heq => hne (congrArg Link.node heq)
            · rw [derivedFrom_cons_iff, hfound]

theorem meets_scan_covers (h : p.endpoint.AnswersBy within Q) (depth : Nat) :
    Meets within (p.scan depth)
      (fun f => p.Covers (fun c => Derived p.types Q c ∧ c ≠ []) f.resources) (· = .tooDeep) := by
  refine (meets_each_scanType (s := []) fun i t ht =>
    meets_scanType h depth trivial rfl ht).bind fun parts hparts => meets_pure ?_
  exact hparts.congr fun c =>
    and_congr_left' (and_iff_left_of_imp fun _ => List.nil_suffix)

variable (p Q)

/-- Some resources stand for all chains that are derived, one for each, and each comes after
those of the chains that its own goes on from. -/
structure OnePerChain (chains : List (List (Link L))) (rs : List (Resource L)) : Prop where
  standsFor : List.Forall₂ p.StandsFor chains rs
  nodup : chains.Nodup
  mem_iff : ∀ c, c ∈ chains ↔ Derived p.types Q c ∧ c ≠ []
  parents_first : chains.Pairwise fun c d => ¬ d <:+ c

variable {p Q}

theorem Covers.onePerChain {rs : List (Resource L)}
    (h : p.Covers (fun c => Derived p.types Q c ∧ c ≠ []) rs) :
    ∃ chains, p.OnePerChain Q chains rs := by
  obtain ⟨chains, hstand, hfirst, hmem⟩ := h
  have nodup : chains.Nodup := by
    refine hfirst.imp ?_
    rintro c _ hcd rfl
    exact hcd List.suffix_rfl
  exact ⟨chains, hstand, nodup, hmem, hfirst⟩

/-- If no type is below itself and each query has one answer, a scan comes to an end, and from
some depth on it is the same. It finds one resource for each chain that is derived. Its errors
are the queries that failed, and if these had been answered without nodes, it would have found
the same resources. -/
theorem scan_onePerChain (hacyclic : p.types.Acyclic)
    (hanswers : p.endpoint.AnswersBy within Q) :
    ∃ depth, ∀ x : Exchange σ, within x.peer → ∃ found y,
      (∀ d ≥ depth, (p.scan d).run x = (.ok found, y)) ∧
      (∃ chains, p.OnePerChain Q chains found.resources) ∧
      ∀ d ≥ depth, ∀ hide (x' : Exchange (σ × Nat)), x'.peer = (x.peer, 0) → ∃ y',
        ((p.tallied hide).scan d).run x' =
          (.ok ⟨found.resources, if hide then 0 else found.errors⟩, y') ∧
          y'.peer = (y.peer, found.errors) := by
  obtain ⟨depth, hsame, hends⟩ := ends_of_acyclic hacyclic
  refine ⟨depth, fun x hx => ?_⟩
  obtain ⟨-, hcovers, hcut⟩ := meets_scan_covers hanswers depth x hx
  rcases hrun : (p.scan depth).run x with ⟨b | found, y⟩
  · rw [hrun] at hcut
    exact absurd (by rw [hrun, hcut b rfl]) (hends x)
  · rw [hrun] at hcovers
    have hdeeper : ∀ d ≥ depth, (p.scan d).run x = (.ok found, y) := fun d hd => by
      rw [hsame d hd, hrun]
    exact ⟨found, y, hdeeper, (hcovers found rfl).onePerChain, fun d hd hide x' hx' =>
      p.scan_tallied hide (hdeeper d hd) hx'⟩

end Answers

end Profile

section InMemory

theorem Reply.ne_broken {α : Type} {reply : Reply α} {a : Except AccessError α}
    (h : reply.outcome = .ok a) : reply ≠ .broken := by
  rintro rfl
  cases h

/-- An endpoint in memory that can be reached has one answer to each query within a
conversation. -/
theorem InMemory.answersBy [Location L] {e : InMemory L} (hbudget : e.faults.budget = none)
    (hreach : e.faults.unreachable = false) (protocol : String) (makesNodes : Bool)
    (hdistinct : (e.connect makesNodes).2.seenNodes.Nodup) :
    (InMemory.endpoint protocol makesNodes).AnswersBy (Opened makesNodes e)
      { e with seenNodes := (e.connect makesNodes).2.seenNodes }.nodesAnswer := by
  have reached : ∀ {s : InMemory L} {α : Type} (answer : Except AccessError α),
      Opened makesNodes e s → (s.reach answer).1.outcome = .ok answer := by
    intro s α answer hs
    have hfaults : s.faults = e.faults := hs.1.2.2
    exact outcome_reach (hfaults ▸ hbudget) (hfaults ▸ hreach) answer
  refine ⟨fun query s hs => ⟨?_, (hs.reach hbudget _).2⟩, fun {query found} hfound => ?_,
    fun a s hs => ⟨Reply.ne_broken (reached _ hs), (hs.reach hbudget _).2⟩,
    fun a s hs => ⟨Reply.ne_broken (reached _ hs), (hs.reach hbudget _).2⟩⟩
  · rw [← hs.nodesAnswer_eq]
    exact reached _ hs
  · unfold nodesAnswer at hfound
    split at hfound
    · cases hfound
    · cases hfound
      exact hdistinct.filter _

namespace Profile

/-- A type below another, and a type whose query fails. -/
def typesWithFault : List (ResourceType ManagementAddress) :=
  [Monitor.typeAtX "A",
    { name := "B", location := ⟨[⟨"y", "*"⟩]⟩, parents := ["A"], nameTemplate := "B" },
    { name := "C", location := ⟨[⟨"z", "*"⟩]⟩, nameTemplate := "C" }]

/-- An endpoint with a node below another, and with a query that fails. -/
def nodesWithFault : InMemory ManagementAddress :=
  ((({} : InMemory ManagementAddress).addNode ⟨[⟨"x", "1"⟩]⟩).addNode
    ⟨[⟨"x", "1"⟩, ⟨"y", "2"⟩]⟩).withFaults fun f => { f with queries := [⟨[⟨"z", "*"⟩]⟩] }

theorem scan_onePerChain_fault :
    ∃ Q depth found y chains, (∀ d ≥ depth, ((Monitor.heldInMemory typesWithFault).scan d).run
        { peer := (nodesWithFault.connect false).2 } = (.ok found, y)) ∧
      (Monitor.heldInMemory typesWithFault).OnePerChain Q chains found.resources := by
  have hacyclic : (Monitor.heldInMemory typesWithFault).types.Acyclic :=
    TypeGraph.acyclic_of_parents_lt (by decide +kernel)
  have hanswers := InMemory.answersBy (e := nodesWithFault) rfl rfl "DMR" false
    (by decide +kernel)
  obtain ⟨depth, h⟩ := scan_onePerChain hacyclic hanswers
  obtain ⟨found, y, hrun, ⟨chains, hchains⟩, -⟩ := h
    { peer := (nodesWithFault.connect false).2 } ⟨⟨rfl, rfl, rfl⟩, rfl, rfl⟩
  exact ⟨_, depth, found, y, chains, hrun, hchains⟩

end Profile

end InMemory

end EndpointMonitor
