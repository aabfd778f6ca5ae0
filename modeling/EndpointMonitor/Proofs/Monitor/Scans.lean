import EndpointMonitor.Proofs.Monitor.Conversations
import EndpointMonitor.Monitor.Scan

/-!
# What a scan finds

A scan lists resources in the order of a walk: each is followed by all that was found below it.
So whatever the endpoint answers, each resource is found after the one that it names as its
parent. An endpoint whose answers do not change is found alike by every scan.
-/

namespace EndpointMonitor

variable {L σ : Type}

/-- Each resource names a parent that was seen or that comes before it, or names none. -/
def ParentsFirst : List String → List (Resource L) → Prop
  | _, [] => True
  | seen, r :: rest =>
    (∀ p, r.parent = some p → p ∈ seen) ∧ ParentsFirst (r.id :: seen) rest

namespace ParentsFirst

variable {rs ss : List (Resource L)} {seen seen' : List String}

theorem mono (h : ParentsFirst seen rs) (hsub : seen ⊆ seen') : ParentsFirst seen' rs := by
  induction rs generalizing seen seen' with
  | nil => trivial
  | cons r rest ih =>
      obtain ⟨hr, hrest⟩ := h
      exact ⟨fun p hp => hsub (hr p hp), ih hrest (List.cons_subset_cons r.id hsub)⟩

theorem append (hr : ParentsFirst seen rs) (hs : ParentsFirst seen ss) :
    ParentsFirst seen (rs ++ ss) := by
  induction rs generalizing seen with
  | nil => exact hs
  | cons r rest ih =>
      exact ⟨hr.1, ih hr.2 (hs.mono (List.subset_cons_self r.id seen))⟩

theorem concat_iff {r : Resource L} : ParentsFirst seen (rs ++ [r]) ↔
    ParentsFirst seen rs ∧ ∀ p, r.parent = some p → p ∈ seen ∨ p ∈ rs.map (·.id) := by
  induction rs generalizing seen with
  | nil => simp [ParentsFirst]
  | cons s rest ih =>
      simp only [List.cons_append, ParentsFirst, ih, List.mem_cons, List.map_cons, and_assoc]
      refine and_congr_right fun _ => and_congr_right fun _ => forall₂_congr fun p _ => ?_
      rw [or_assoc, or_left_comm]

/-- The parent of a member is seen or a member. -/
theorem parent_mem (h : ParentsFirst seen rs) {r : Resource L} (hr : r ∈ rs) {p : String}
    (hp : r.parent = some p) : p ∈ seen ∨ p ∈ rs.map (·.id) := by
  induction rs generalizing seen with
  | nil => simp at hr
  | cons s rest ih =>
      obtain ⟨hs, hrest⟩ := h
      rcases List.mem_cons.1 hr with rfl | hr
      · exact Or.inl (hs p hp)
      · rcases ih hrest hr with hseen | hrest
        · rcases List.mem_cons.1 hseen with rfl | hseen
          · exact Or.inr List.mem_cons_self
          · exact Or.inl hseen
        · exact Or.inr (List.mem_cons_of_mem _ hrest)

end ParentsFirst

/-- The list of a forest in the order of a walk. Each member is related to the one that it hangs
below, and is followed by all below it. -/
inductive Walked {α : Type} (R : Option α → α → Prop) : Option α → List α → Prop
  | nil {parent} : Walked R parent []
  | cons {parent a below rest} (edge : R parent a) (inner : Walked R (some a) below)
      (outer : Walked R parent rest) : Walked R parent (a :: (below ++ rest))

namespace Walked

variable {α : Type} {R R' : Option α → α → Prop} {parent : Option α} {as bs : List α}

theorem append (h : Walked R parent as) (h' : Walked R parent bs) :
    Walked R parent (as ++ bs) := by
  induction h with
  | nil => exact h'
  | cons edge inner _ _ ih =>
      rw [List.cons_append, List.append_assoc]
      exact .cons edge inner (ih h')

theorem mono (h : Walked R parent as) (hR : ∀ {parent a}, R parent a → R' parent a) :
    Walked R' parent as := by
  induction h with
  | nil => exact .nil
  | cons edge _ _ ihInner ihOuter => exact .cons (hR edge) ihInner ihOuter

theorem join {R : Option (Resource L) → Resource L → Prop} {parent : Option (Resource L)}
    {parts : List (Found L)} (h : ∀ f ∈ parts, Walked R parent f.resources) :
    Walked R parent (Found.join parts).resources := by
  induction parts with
  | nil => exact .nil
  | cons f rest ih =>
      obtain ⟨hf, hrest⟩ := List.forall_mem_cons.1 h
      exact hf.append (ih hrest)

theorem forall_mem {P : α → Prop} (h : Walked (fun _ => P) parent as) : ∀ a ∈ as, P a := by
  induction h with
  | nil => simp
  | cons edge _ _ ihInner ihOuter =>
      exact List.forall_mem_cons.2 ⟨edge, List.forall_mem_append.2 ⟨ihInner, ihOuter⟩⟩

/-- In a walk that goes down from parents, every parent comes first. -/
theorem parentsFirst {parent : Option (Resource L)} {rs : List (Resource L)}
    (h : Walked (fun parent r => r.parent = parent.map (·.id)) parent rs) :
    ParentsFirst (parent.map (·.id)).toList rs := by
  induction h with
  | nil => trivial
  | @cons parent r below rest edge _ _ ihInner ihOuter =>
      refine ⟨fun q hq => ?_, ?_⟩
      · rw [← edge]
        exact Option.mem_toList.2 hq
      · exact (ihInner.mono (List.cons_subset_cons _ (List.nil_subset _))).append
          (ihOuter.mono (List.subset_cons_self _ _))

end Walked

namespace Profile

open Conversation

variable {between inv : σ → Prop} {E : Breakdown → Prop}

section Readiness

theorem outcome_ne_error {α : Type} (hE : E .broken) (reply : Reply α) {b : Breakdown}
    (hb : reply.outcome = .error b) : E b := by
  cases reply with
  | answer a => cases hb
  | failed e => cases hb
  | broken =>
      cases hb
      exact hE

theorem meets_contact_any {α : Type} (question : σ → Reply α × σ) (hE : E .broken) :
    Meets (fun _ => True) (contact question) (fun _ => True) E :=
  meets_contact fun s _ =>
    ⟨trivial, fun _ _ => trivial, fun _ hb => outcome_ne_error hE (question s).1 hb⟩

theorem meets_ask_any {α : Type} (protocol : String) (question : σ → Reply α × σ)
    (hE : E .broken) : Meets (fun _ => True) (ask protocol question) (fun _ => True) E :=
  meets_ask fun s _ =>
    ⟨trivial, fun _ _ => trivial, fun _ hb => outcome_ne_error hE (question s).1 hb⟩

/-- Within an invariant, an opening and questions about nodes keep it and are cut short only as
expected. -/
structure Consulted (e : Endpoint L σ) (inv : σ → Prop) (E : Breakdown → Prop) : Prop where
  connect : Meets inv (contact e.connect) (fun _ => True) E
  nodes : ∀ query, Meets inv (Conversation.nodes e query) (fun _ => True) E

theorem consulted_any {e : Endpoint L σ} (hE : E .broken) : Consulted e (fun _ => True) E :=
  ⟨meets_contact_any _ hE, fun _ => meets_ask_any _ _ hE⟩

variable (p : Profile L σ)

/-- An endpoint that is not ready is not mistaken for one that is being scanned. -/
def NotInProgress {α : Type} (r : Except MonitorError α) : Prop :=
  ∀ name, r ≠ .error (.scanInProgress name)

theorem meets_awaitNodes (h : Consulted p.endpoint inv E) (queries : List L) :
    Meets inv (awaitNodes p queries) NotInProgress E := by
  induction queries with
  | nil => exact meets_pure (by simp [NotInProgress])
  | cons query rest ih =>
      refine (h.nodes query).bind fun reply _ => ?_
      cases reply with
      | error e => exact meets_pure (by simp [NotInProgress])
      | ok found =>
          simp only
          split
          · exact meets_pure (by simp [NotInProgress])
          · exact ih

theorem meets_openReady (h : Consulted p.endpoint inv E) :
    Meets inv (openReady p) NotInProgress E := by
  refine h.connect.bind fun reply _ => ?_
  cases reply with
  | error e => exact meets_pure (by simp [NotInProgress])
  | ok _ => exact meets_awaitNodes p h p.waitFor

end Readiness

variable [Location L]

section Order

variable (p : Profile L σ)

/-- Within an invariant, questions about attributes keep it and are cut short only as expected. -/
structure Attended (e : Endpoint L σ) (inv : σ → Prop) (E : Breakdown → Prop) : Prop where
  hasAttribute : ∀ a, Meets inv (Conversation.hasAttribute e a) (fun _ => True) E
  read : ∀ a, Meets inv (Conversation.read e a) (fun _ => True) E

omit [Location L] in
theorem attended_any {e : Endpoint L σ} (hE : E .broken) : Attended e (fun _ => True) E :=
  ⟨fun _ => meets_ask_any _ _ hE, fun _ => meets_ask_any _ _ hE⟩

theorem meets_readProperty (h : Attended p.endpoint inv E) (r : Resource L) (q : PropertyType L) :
    Meets inv (readProperty p r q) (fun _ => True) E := by
  refine (h.read _).bind fun reply _ => ?_
  cases reply with
  | ok reading => exact meets_pure trivial
  | error e => exact (meets_report _ _).bind fun _ _ => meets_pure trivial

/-- A measurement is made if the reply to the question about its attribute is that it is there. -/
theorem meets_instance? {D : Type} {R : Except AccessError Bool → Prop} (r : Resource L)
    (id : String → String → String) (t : MeasurementType L D)
    (h : Meets inv (Conversation.hasAttribute p.endpoint (t.location.absolutize r.location)) R E) :
    Meets inv (instance? p r id t) (fun found => ∀ m, found = some m →
      m = { id := id r.id t.name, location := t.location.absolutize r.location, type := t } ∧
        R (.ok true)) E := by
  refine h.bind fun reply hreply => ?_
  rcases reply with e | _ | _
  · exact (meets_report _ _).bind fun _ _ => meets_pure (by simp)
  · exact meets_pure (by simp)
  · refine meets_pure ?_
    rintro m ⟨⟩
    exact ⟨rfl, hreply⟩

/-- What holds of every measurement that is made holds of all of a resource. -/
theorem meets_instances {D : Type} {P : MeasurementInstance L D → Prop} (r : Resource L)
    (id : String → String → String) {ts : List (MeasurementType L D)}
    (h : ∀ t ∈ ts, Meets inv (instance? p r id t) (fun found => ∀ m, found = some m → P m) E) :
    Meets inv (instances p r id ts) (fun ms => ∀ m ∈ ms, P m) E := by
  refine (meets_each fun t ht => h t (List.mem_of_mem_filter ht)).bind fun found hfound =>
    meets_pure fun m hm => ?_
  obtain ⟨o, ho, hom⟩ := List.mem_filterMap.1 hm
  exact hfound o ho m hom

/-- What holds of a resource with the outline of its node, whatever properties are read and
whatever measurements are made, holds of the resource at the node. -/
theorem meets_resourceAt_of {P : Resource L → Prop} {M : List (MetricInstance L) → Prop}
    {A : List (AvailInstance L) → Prop} (h : Attended p.endpoint inv E)
    {parent : Option (Resource L)} {t : ResourceType L} {node : L}
    (hmetrics : Meets inv (instances p (p.outline parent t node) metricInstanceId t.metrics) M E)
    (havails : Meets inv (instances p (p.outline parent t node) availInstanceId t.avails) A E)
    (made : ∀ config metrics avails, M metrics → A avails →
      P { p.outline parent t node with config, metrics, avails }) :
    Meets inv (resourceAt p parent t node) P E := by
  refine (meets_each fun q _ => meets_readProperty p h _ q).bind fun config _ => ?_
  refine hmetrics.bind fun metrics hm => ?_
  refine havails.bind fun avails ha => ?_
  exact meets_pure (made config metrics avails hm ha)

/-- A resource has the outline of its node, whatever is read of it. -/
theorem meets_resourceAt (h : Attended p.endpoint inv E) (parent : Option (Resource L))
    (t : ResourceType L) (node : L) :
    Meets inv (resourceAt p parent t node) (fun r => ∃ config metrics avails,
      r = { p.outline parent t node with config, metrics, avails }) E := by
  have any : ∀ {D : Type} (id : String → String → String) (ts : List (MeasurementType L D)),
      Meets inv (instances p (p.outline parent t node) id ts) (fun _ => True) E :=
    fun id ts => (meets_each fun u _ =>
      (meets_instance? p _ id u (h.hasAttribute _)).imp fun _ _ => trivial).bind
        fun _ _ => meets_pure trivial
  exact meets_resourceAt_of p h (any _ _) (any _ _) fun config metrics avails _ _ =>
    ⟨config, metrics, avails, rfl⟩

section Descent

variable {T : Option (Resource L) → ResourceType L → Prop} {N : L → L → Prop}
  {R : Option (Resource L) → Resource L → Prop} {p}

/-- How a scan goes down: which types are searched for below a parent, which nodes a query is
answered with, and how the resource that is made there is related to its parent. -/
structure Descends (p : Profile L σ) (inv : σ → Prop) (E : Breakdown → Prop)
    (T : Option (Resource L) → ResourceType L → Prop) (N : L → L → Prop)
    (R : Option (Resource L) → Resource L → Prop) : Prop where
  tooDeep : E .tooDeep
  roots : ∀ t ∈ p.types.rootTypes, T none t
  nodes : ∀ query, Meets inv (Conversation.nodes p.endpoint query)
    (fun reply => ∀ found, reply = .ok found → ∀ node ∈ found, N query node) E
  made : ∀ {parent t node}, T parent t → N (queryFor parent t) node →
    Meets inv (resourceAt p parent t node)
      (fun r => R parent r ∧ ∀ u ∈ p.types.childTypes t.name, T (some r) u) E

theorem Descends.meets_scanType (h : Descends p inv E T N R) (depth : Nat)
    {parent : Option (Resource L)} {t : ResourceType L} (ht : T parent t) :
    Meets inv (scanType p depth parent t) (fun f => Walked R parent f.resources) E := by
  induction depth generalizing parent t with
  | zero => exact meets_throw h.tooDeep
  | succ depth ih =>
      rw [scanType]
      refine (h.nodes _).bind fun reply hreply => ?_
      cases reply with
      | error e => exact (meets_report _ _).bind fun _ _ => meets_pure .nil
      | ok found =>
          refine (meets_each fun node hnode => ?_).bind fun parts hparts =>
            meets_pure (Walked.join hparts)
          refine (h.made ht (hreply found rfl node hnode)).bind fun r hr => ?_
          refine (meets_each fun u hu => ih (hr.2 u hu)).bind fun below hbelow => meets_pure ?_
          have walked := Walked.cons hr.1 (Walked.join hbelow) .nil
          rwa [List.append_nil] at walked

/-- What a scan finds is listed in the order of a walk. -/
theorem Descends.meets_scan (h : Descends p inv E T N R) (depth : Nat) :
    Meets inv (scan p depth) (fun f => Walked R none f.resources) E :=
  (meets_each fun t ht => h.meets_scanType depth (h.roots t ht)).bind fun _ hparts =>
    meets_pure (Walked.join hparts)

end Descent

/-- Every resource that a scan finds names the one that it was found below. -/
theorem descends_any : Descends p (fun _ => True) (fun _ => True) (fun _ _ => True)
    (fun _ _ => True) fun parent r => r.parent = parent.map (·.id) where
  tooDeep := trivial
  roots _ _ := trivial
  nodes _ := (meets_ask_any _ _ trivial).imp fun _ _ _ _ _ _ => trivial
  made {parent t node} _ _ := by
    refine (meets_resourceAt p (attended_any trivial) parent t node).imp ?_
    rintro r ⟨config, metrics, avails, rfl⟩
    exact ⟨rfl, fun _ _ => trivial⟩

theorem meets_scan (depth : Nat) :
    Meets (fun _ => True) (scan p depth) (fun f => ParentsFirst [] f.resources)
      (fun _ => True) :=
  ((descends_any p).meets_scan depth).imp fun _ h => h.parentsFirst

/-- What a scan of a ready endpoint yields is what the scan itself yields. -/
theorem meets_scanReady (h : Consulted p.endpoint inv E) {depth : Nat} {P : Found L → Prop}
    (hscan : Meets inv (scan p depth) P E) :
    Meets inv (scanReady p depth) (fun r => NotInProgress r ∧ ∀ f, r = .ok f → P f) E := by
  refine (meets_openReady p h).bind fun ready hready => ?_
  cases ready with
  | error e => exact meets_pure ⟨fun name heq => hready name (by cases heq; rfl), by simp⟩
  | ok _ =>
      exact hscan.bind fun f hf => meets_pure ⟨by simp [NotInProgress], by simpa using hf⟩

/-- Whatever the endpoint answers, a scan finds each resource after its parent. -/
theorem scanReady_parentsFirst (depth : Nat) {x : Exchange σ} {found : Found L}
    (h : ((p.scanReady depth).run x).1 = .ok (.ok found)) :
    ParentsFirst [] found.resources := by
  have whole := meets_scanReady p (consulted_any trivial) (meets_scan p depth)
  exact ((whole x trivial).2.1 _ h).2 found rfl

end Order

section Parts

variable {P : ∀ {α : Type}, Conversation σ α → Prop} {p : Profile L σ}

/-- The questions to an endpoint have a property. -/
structure Asked (P : ∀ {α : Type}, Conversation σ α → Prop) (e : Endpoint L σ) : Prop where
  nodes : ∀ query, P (Conversation.nodes e query)
  hasAttribute : ∀ a, P (Conversation.hasAttribute e a)
  read : ∀ a, P (Conversation.read e a)

omit [Location L] in
theorem awaitNodes_of_parts (h : Composes P) (asked : Asked P p.endpoint) (queries : List L) :
    P (awaitNodes p queries) := by
  induction queries with
  | nil => exact h.pure _
  | cons query rest ih =>
      refine h.bind (asked.nodes query) fun reply => ?_
      cases reply with
      | error e => exact h.pure _
      | ok found =>
          simp only
          split
          · exact h.pure _
          · exact ih

theorem resourceAt_of_parts (h : Composes P) (asked : Asked P p.endpoint)
    (parent : Option (Resource L)) (t : ResourceType L) (node : L) :
    P (resourceAt p parent t node) := by
  have property : ∀ r q, P (readProperty p r q) := by
    intro r q
    refine h.bind (asked.read _) fun reply => ?_
    cases reply with
    | ok reading => exact h.pure _
    | error e => exact h.bind (h.report _ _) fun _ => h.pure _
  have instances : ∀ {D : Type} r id (ts : List (MeasurementType L D)),
      P (instances p r id ts) := by
    intro D r id ts
    refine h.bind (h.each (fun t => ?_) _) fun _ => h.pure _
    refine h.bind (asked.hasAttribute _) fun reply => ?_
    rcases reply with e | _ | _
    · exact h.bind (h.report _ _) fun _ => h.pure _
    · exact h.pure _
    · exact h.pure _
  refine h.bind (h.each (property _) _) fun config => ?_
  refine h.bind (instances _ _ _) fun metrics => ?_
  exact h.bind (instances _ _ _) fun avails => h.pure _

theorem scanType_of_parts (h : Composes P) (asked : Asked P p.endpoint)
    (tooDeep : P (throw .tooDeep : Conversation σ (Found L))) (depth : Nat)
    (parent : Option (Resource L)) (t : ResourceType L) : P (scanType p depth parent t) := by
  induction depth generalizing parent t with
  | zero => exact tooDeep
  | succ depth ih =>
      rw [scanType]
      refine h.bind (asked.nodes _) fun reply => ?_
      cases reply with
      | error e => exact h.bind (h.report _ _) fun _ => h.pure _
      | ok found =>
          refine h.bind (h.each (fun node => ?_) _) fun _ => h.pure _
          refine h.bind (resourceAt_of_parts h asked parent t node) fun r => ?_
          exact h.bind (h.each (ih (some r)) _) fun _ => h.pure _

/-- A property that a scan has if all its parts have it. -/
theorem scan_of_parts (h : Composes P) (asked : Asked P p.endpoint)
    (tooDeep : P (throw .tooDeep : Conversation σ (Found L))) (depth : Nat) :
    P (scan p depth) :=
  h.bind (h.each (scanType_of_parts h asked tooDeep depth none) _) fun _ => h.pure _

end Parts

section Steady

variable (p : Profile L σ)

omit [Location L] in
theorem settled_asked {e : Endpoint L σ} (h : e.Steady between inv) : Asked (Settled inv) e where
  nodes _ := settled_ask _ (h.nodes _)
  hasAttribute _ := settled_ask _ (h.hasAttribute _)
  read _ := settled_ask _ (h.read _)

/-- An endpoint whose answers do not change is found alike by every scan. -/
theorem settled_scanReady (h : p.endpoint.Steady between inv) (depth : Nat) :
    Settled between (scanReady p depth) := by
  rw [scanReady, openReady, bind_assoc]
  refine settled_contact_bind h.connect h.closes fun reply => ?_
  cases reply with
  | error e =>
      rw [pure_bind]
      exact settled_pure _
  | ok _ =>
      have asked := settled_asked h
      refine (awaitNodes_of_parts composes_settled asked p.waitFor).bind fun outcome => ?_
      cases outcome with
      | error e => exact settled_pure _
      | ok _ =>
          exact (scan_of_parts composes_settled asked (settled_throw _) depth).bind fun _ =>
            settled_pure _

end Steady

end Profile

end EndpointMonitor
