import EndpointMonitor.Proofs.Monitor.Discoveries
import EndpointMonitor.Proofs.Monitor.Scans
import EndpointMonitor.Proofs.ResourceType.Support

/-!
# When a scan comes to an end

A scan goes from a type to its child types. If no type is below itself, some depth is enough for
every endpoint: from there on more depth asks the same questions, and none of them is asked too
deep. A type that is below itself can keep a scan going at one and the same node.
-/

namespace EndpointMonitor

open Relation

namespace Conversation

variable {σ α β : Type}

theorem each_congr {part part' : β → Conversation σ α} {bs : List β}
    (h : ∀ b ∈ bs, part b = part' b) : each part bs = each part' bs := by
  induction bs with
  | nil => rfl
  | cons b rest ih =>
      obtain ⟨hb, hrest⟩ := List.forall_mem_cons.1 h
      rw [each, each, hb, ih hrest]

end Conversation

/-- What holds of each member of a list from some number on holds of all from some number on. -/
theorem exists_forall_ge_of_forall_mem {α : Type} {P : α → Nat → Prop} {as : List α}
    (h : ∀ a ∈ as, ∃ n, ∀ m ≥ n, P a m) : ∃ n, ∀ m ≥ n, ∀ a ∈ as, P a m := by
  induction as with
  | nil => exact ⟨0, by simp⟩
  | cons a rest ih =>
      obtain ⟨ha, hrest⟩ := List.forall_mem_cons.1 h
      obtain ⟨n, hn⟩ := ha
      obtain ⟨k, hk⟩ := ih hrest
      refine ⟨max n k, fun m hm => List.forall_mem_cons.2 ⟨?_, ?_⟩⟩
      · exact hn m (le_of_max_le_left hm)
      · exact hk m (le_of_max_le_right hm)

namespace Profile

open Conversation

variable {L σ : Type} [Location L] {p : Profile L σ}

/-- Some depth is enough: more depth is the same conversation, and it never goes too deep. -/
def Ends (p : Profile L σ) : Prop :=
  ∃ d, (∀ d' ≥ d, p.scan d' = p.scan d) ∧ ∀ x, ((p.scan d).run x).1 ≠ .error .tooDeep

/-- More depth than this makes no difference to the search for a type, which never goes too
deep. -/
def Enough (p : Profile L σ) (t : ResourceType L) (d : Nat) : Prop :=
  ∀ parent, p.scanType (d + 1) parent t = p.scanType d parent t ∧
    Meets (fun _ => True) (p.scanType d parent t) (fun _ => True) (· ≠ .tooDeep)

theorem enough_succ {t : ResourceType L} {d : Nat}
    (h : ∀ c ∈ p.types.childTypes t.name, p.Enough c d) : p.Enough t (d + 1) := by
  intro parent
  constructor
  · have below : ∀ r, each (scanType p (d + 1) (some r)) (p.types.childTypes t.name) =
        each (scanType p d (some r)) (p.types.childTypes t.name) := fun r =>
      each_congr fun c hc => (h c hc (some r)).1
    conv_lhs => rw [scanType]
    conv_rhs => rw [scanType]
    simp only [below]
  · rw [scanType]
    refine (meets_ask_any _ _ (by simp)).bind fun reply _ => ?_
    cases reply with
    | error e => exact (meets_report _ _).bind fun _ _ => meets_pure trivial
    | ok found =>
        refine (meets_each (P := fun _ => True) fun node _ => ?_).bind fun _ _ =>
          meets_pure trivial
        refine (meets_resourceAt p (attended_any (by simp)) parent t node).bind fun r _ => ?_
        exact (meets_each fun c hc => (h c hc (some r)).2).bind fun _ _ => meets_pure trivial

theorem exists_enough (h : p.types.Acyclic) (t : ResourceType L) :
    ∃ n, ∀ d ≥ n, p.Enough t d := by
  induction hname : t.name using h.wellFounded.induction generalizing t with
  | _ name ih =>
      subst hname
      obtain ⟨n, hn⟩ := exists_forall_ge_of_forall_mem fun c hc =>
        ih c.name ⟨c, hc, rfl⟩ c rfl
      refine ⟨n + 1, fun d hd => ?_⟩
      obtain ⟨d, rfl⟩ : ∃ k, d = k + 1 := ⟨d - 1, by omega⟩
      exact enough_succ (hn d (by omega))

/-- Without a type below itself a scan comes to an end on every endpoint. -/
theorem ends_of_acyclic (h : p.types.Acyclic) : p.Ends := by
  obtain ⟨n, hn⟩ := exists_forall_ge_of_forall_mem fun t (_ : t ∈ p.types.rootTypes) =>
    exists_enough h t
  have same : ∀ d ≥ n, p.scan (d + 1) = p.scan d := by
    intro d hd
    rw [scan, scan, each_congr fun t ht => (hn d hd t ht none).1]
  refine ⟨n, fun d hd => ?_, fun x htooDeep => ?_⟩
  · induction d, hd using Nat.le_induction with
    | base => rfl
    | succ d hd ih => exact (same d hd).trans ih
  · have ended : Meets (fun _ => True) (p.scan n) (fun _ => True) (· ≠ .tooDeep) :=
      (meets_each fun t ht => (hn n le_rfl t ht none).2).bind fun _ _ => meets_pure trivial
    exact (ended x trivial).2.2 _ htooDeep rfl

end Profile

namespace TypeGraph

open Monitor (heldInMemory)

variable {L : Type} [Location L] {sets : List (TypeSet L)} {use : Option (List String)}
  {min : UInt64} {g : TypeGraph L}

/-- The types of an accepted graph have no cycle, and hence every scan of every endpoint comes
to an end, exactly if no type that leads up to a type without parents is its own ancestor. -/
theorem acyclic_and_ends_iff (h : build sets use min = .ok g) :
    (g.Acyclic ∧ ∀ (σ : Type) (p : Profile L σ), p.types = g → p.Ends) ↔
      ∀ name, Declared (Declaration.ofSets sets use) name →
        ¬ TransGen (ParentOf (Declaration.ofSets sets use)) name name := by
  rw [← acyclic_build_iff h]
  refine and_iff_left_of_imp fun hacyclic σ p hp => ?_
  exact Profile.ends_of_acyclic (hp ▸ hacyclic)

section Loops

/-- A type whose resources are at the node of their parent, or at the root. -/
def typeAtParent (name : String) (parents : List String) : ResourceType ManagementAddress :=
  { name, location := ⟨[]⟩, parents, nameTemplate := name }

theorem build_typeAtParent_eq {parents : List String} :
    build [⟨"s", true, [typeAtParent "A" [], typeAtParent "B" ("A" :: parents)]⟩] none 0 =
      .ok ⟨[typeAtParent "A" [], typeAtParent "B" ("A" :: parents)]⟩ := by
  have sorted : candidates 0 (Declaration.ofSets
      [⟨"s", true, [typeAtParent "A" [], typeAtParent "B" ("A" :: parents)]⟩] none) =
      [typeAtParent "A" [], typeAtParent "B" ("A" :: parents)] :=
    List.mergeSort_of_pairwise (List.pairwise_pair.2 (show decide ("A" ≤ "B") = true by decide))
  rw [build, sorted]
  rfl

/-- A type below a type without parents. -/
theorem acyclic_and_ends_chain :
    build [⟨"s", true, [typeAtParent "A" [], typeAtParent "B" ["A"]]⟩] none 0 =
        .ok ⟨[typeAtParent "A" [], typeAtParent "B" ["A"]]⟩ ∧
      ∀ (σ : Type) (p : Profile ManagementAddress σ),
        p.types = ⟨[typeAtParent "A" [], typeAtParent "B" ["A"]]⟩ → p.Ends := by
  refine ⟨build_typeAtParent_eq, ((acyclic_and_ends_iff build_typeAtParent_eq).2 ?_).2⟩
  intro name _ loop
  have link : ∀ {p c}, ParentOf (Declaration.ofSets
      [⟨"s", true, [typeAtParent "A" [], typeAtParent "B" ["A"]]⟩] none) p c →
      p = "A" ∧ c = "B" := by
    rintro p c ⟨d, hd, -, rfl, hp⟩
    rcases List.mem_pair.1 hd with rfl | rfl
    · simp [typeAtParent] at hp
    · exact ⟨List.mem_singleton.1 hp, rfl⟩
  obtain ⟨c, hc, -⟩ := TransGen.head'_iff.1 loop
  obtain ⟨q, -, hq⟩ := TransGen.tail'_iff.1 loop
  rw [(link hc).1] at hq
  exact absurd (link hq).2 (by decide)

/-- The endpoint with its root for a node, while a conversation is under way. -/
def rootOpened : InMemory ManagementAddress :=
  ((({} : InMemory ManagementAddress).addNode ⟨[]⟩).connect false).2

/-- The types of a loop that is at one node. -/
def loopTypes : List (ResourceType ManagementAddress) :=
  [typeAtParent "A" [], typeAtParent "B" ["A", "B"]]

open Conversation Profile

theorem meets_each_cut {σ α β : Type} {inv : σ → Prop} {E : Breakdown → Prop}
    {part : β → Conversation σ α} {b : β} (h : Meets inv (part b) (fun _ => False) E)
    (rest : List β) : Meets inv (each part (b :: rest)) (fun _ => False) E :=
  h.bind fun _ hfalse => hfalse.elim

/-- At the root, the search for a type above the loop gets no further than the loop. -/
theorem scanType_above_loop {depth : Nat} {parent : Option (Resource ManagementAddress)}
    {name : String} {parents : List String}
    (hquery : queryFor parent (typeAtParent name parents) = ⟨[]⟩)
    (hchild : (heldInMemory loopTypes).types.childTypes name = [typeAtParent "B" ["A", "B"]])
    (hloop : ∀ r : Resource ManagementAddress, r.location = ⟨[]⟩ →
      Meets (· = rootOpened)
        (scanType (heldInMemory loopTypes) depth (some r) (typeAtParent "B" ["A", "B"]))
        (fun _ => False) (· = .tooDeep)) :
    Meets (· = rootOpened)
      (scanType (heldInMemory loopTypes) (depth + 1) parent (typeAtParent name parents))
      (fun _ => False) (· = .tooDeep) := by
  have asked : Meets (· = rootOpened) (nodes (heldInMemory loopTypes).endpoint ⟨[]⟩)
      (· = .ok [⟨[]⟩]) (· = .tooDeep) := by
    refine meets_ask ?_
    rintro s rfl
    exact ⟨rfl, fun a ha => by cases ha; rfl, fun b hb => by cases hb⟩
  have resource : Meets (· = rootOpened)
      (resourceAt (heldInMemory loopTypes) parent (typeAtParent name parents) ⟨[]⟩)
      (fun r => r.location = ⟨[]⟩) (· = .tooDeep) := meets_pure rfl
  rw [scanType, hquery]
  refine asked.bind ?_
  rintro _ rfl
  refine Meets.bind (meets_each_cut ?_ []) fun _ hfalse => hfalse.elim
  refine resource.bind fun r hr => ?_
  refine Meets.bind (P := fun _ => False) ?_ fun _ hfalse => hfalse.elim
  change Meets _ (each _ ((heldInMemory loopTypes).types.childTypes name)) _ _
  rw [hchild]
  exact meets_each_cut (hloop r hr) []

theorem scanType_loop (depth : Nat) (parent : Resource ManagementAddress)
    (hparent : parent.location = ⟨[]⟩) :
    Meets (· = rootOpened)
      (scanType (heldInMemory loopTypes) depth (some parent) (typeAtParent "B" ["A", "B"]))
      (fun _ => False) (· = .tooDeep) := by
  induction depth generalizing parent with
  | zero => exact meets_throw rfl
  | succ depth ih =>
      refine scanType_above_loop ?_ rfl ih
      rw [queryFor, hparent]
      rfl

/-- A type that declares itself as a parent is accepted, although the types then have a cycle,
and a scan of an endpoint with a single node is too deep at every depth. -/
theorem scan_tooDeep_loop :
    build [⟨"s", true, loopTypes⟩] none 0 = .ok ⟨loopTypes⟩ ∧
      ¬ (⟨loopTypes⟩ : TypeGraph ManagementAddress).Acyclic ∧
      ∀ depth, (((heldInMemory loopTypes).scan depth).run { peer := rootOpened }).1 =
        .error .tooDeep := by
  refine ⟨build_typeAtParent_eq, fun h => h "B" (.single ⟨typeAtParent "B" ["A", "B"], ?_, rfl⟩),
    fun depth => ?_⟩
  · exact List.mem_singleton_self _
  · have top : Meets (· = rootOpened)
        (scanType (heldInMemory loopTypes) depth none (typeAtParent "A" [])) (fun _ => False)
        (· = .tooDeep) := by
      cases depth with
      | zero => exact meets_throw rfl
      | succ depth => exact scanType_above_loop rfl rfl (scanType_loop depth)
    have whole : Meets (· = rootOpened) ((heldInMemory loopTypes).scan depth) (fun _ => False)
        (· = .tooDeep) := (meets_each_cut top []).bind fun _ hfalse => hfalse.elim
    obtain ⟨-, hok, hcut⟩ := whole { peer := rootOpened } rfl
    cases hrun : (((heldInMemory loopTypes).scan depth).run { peer := rootOpened }).1 with
    | ok found => exact (hok found hrun).elim
    | error b => rw [hcut b hrun]

end Loops

end TypeGraph

end EndpointMonitor
