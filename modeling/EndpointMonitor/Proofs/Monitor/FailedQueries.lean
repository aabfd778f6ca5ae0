import EndpointMonitor.Proofs.Monitor.Conversations
import EndpointMonitor.Monitor.Scan

/-!
# Failed queries

A scan goes on after a query that failed. Seen from outside, it makes no difference whether the
query failed or had an answer without nodes: the same questions follow, and the same resources
are found. Only the number of errors differs, and that is the number of queries that failed. To
see this, a scan is compared with one of an endpoint that counts its failures, and hides them.
-/

namespace EndpointMonitor

variable {L σ α β α' β' : Type}

/-- An endpoint that counts the queries it fails, and hides the failures if asked to. -/
def Endpoint.tallied (e : Endpoint L σ) (hide : Bool) : Endpoint L (σ × Nat) where
  protocol := e.protocol
  connect s := ((e.connect s.1).1, (e.connect s.1).2, s.2)
  nodes query s :=
    match e.nodes query s.1 with
    | (.failed f, peer) => (if hide then .answer [] else .failed f, peer, s.2 + 1)
    | (reply, peer) => (reply, peer, s.2)
  hasAttribute a s := ((e.hasAttribute a s.1).1, (e.hasAttribute a s.1).2, s.2)
  read a s := ((e.read a s.1).1, (e.read a s.1).2, s.2)

/-- A profile of an endpoint that counts the queries it fails. -/
def Profile.tallied (p : Profile L σ) (hide : Bool) : Profile L (σ × Nat) :=
  { feed := p.feed, name := p.name, waitFor := p.waitFor, types := p.types,
    endpoint := p.endpoint.tallied hide }

namespace Conversation

/-- Whenever the first conversation yields something, so does the second from the same state,
and the two results agree with the number of failures counted in between. -/
def Follows (c : Conversation σ α) (c' : Conversation (σ × Nat) α')
    (R : α → Nat → α' → Prop) : Prop :=
  ∀ x y a, c.run x = (.ok a, y) → ∀ x', x'.peer.1 = x.peer → ∃ n a' y',
    c'.run x' = (.ok a', y') ∧ y'.peer = (y.peer, x'.peer.2 + n) ∧ R a n a'

/-- Nothing failed, and both conversations yield the same. -/
def Unfailed (a : α) (n : Nat) (a' : α) : Prop :=
  n = 0 ∧ a = a'

section Rules

variable {c : Conversation σ α} {c' : Conversation (σ × Nat) α'} {R R' : α → Nat → α' → Prop}

theorem Follows.weaken (h : Follows c c' R) (hR : ∀ {a n a'}, R a n a' → R' a n a') :
    Follows c c' R' := by
  intro x y a hrun x' hx'
  obtain ⟨n, a', y', hrun', hpeer, hresult⟩ := h x y a hrun x' hx'
  exact ⟨n, a', y', hrun', hpeer, hR hresult⟩

theorem follows_pure {a : α} {a' : α'} (h : R a 0 a') :
    Follows (pure a : Conversation σ α) (pure a') R := by
  rintro x y b ⟨⟩ x' hx'
  exact ⟨0, a', x', rfl, Prod.ext hx' rfl, h⟩

theorem follows_throw {b : Breakdown} : Follows (throw b : Conversation σ α) c' R := by
  rintro x y a ⟨⟩

theorem Follows.bind {S : β → Nat → β' → Prop} {k : α → Conversation σ β}
    {k' : α' → Conversation (σ × Nat) β'} (h : Follows c c' R)
    (hk : ∀ {a n a'}, R a n a' → Follows (k a) (k' a') fun b m b' => S b (n + m) b') :
    Follows (c >>= k) (c' >>= k') S := by
  intro x y b hrun x' hx'
  rw [run_bind] at hrun
  rcases hfirst : c.run x with ⟨d | a, z⟩
  · rw [hfirst] at hrun
    cases hrun
  · rw [hfirst] at hrun
    obtain ⟨n, a', z', hfirst', hpeer, hresult⟩ := h x z a hfirst x' hx'
    obtain ⟨m, b', y', hrest', hpeer', hresult'⟩ := hk hresult z y b hrun z' (by rw [hpeer])
    refine ⟨n + m, b', y', ?_, ?_, hresult'⟩
    · rw [run_bind, hfirst']
      exact hrest'
    · rw [hpeer', hpeer, Nat.add_assoc]

theorem Follows.bind_unfailed {S : β → Nat → β' → Prop} {d : Conversation (σ × Nat) α}
    {k : α → Conversation σ β} {k' : α → Conversation (σ × Nat) β'} (h : Follows c d Unfailed)
    (hk : ∀ a, Follows (k a) (k' a) S) : Follows (c >>= k) (d >>= k') S := by
  refine h.bind ?_
  rintro a _ _ ⟨rfl, rfl⟩
  exact (hk a).weaken fun hresult => by rwa [Nat.zero_add]

theorem Follows.map {S : β → Nat → β' → Prop} {f : α → β} {f' : α' → β'} (h : Follows c c' R)
    (hS : ∀ {a n a'}, R a n a' → S (f a) n (f' a')) :
    Follows (c >>= fun a => pure (f a)) (c' >>= fun a' => pure (f' a')) S :=
  h.bind fun hresult => follows_pure (by simpa using hS hresult)

/-- Reporting changes nothing that is compared. -/
theorem follows_report (level : LogLevel) (message : String) :
    Follows (report level message : Conversation σ Unit) (report level message) Unfailed := by
  rintro x y a ⟨⟩ x' hx'
  exact ⟨0, (), _, rfl, Prod.ext hx' rfl, rfl, rfl⟩

/-- A report may be missing. -/
theorem follows_report_bind {k : Unit → Conversation σ α} {level : LogLevel} {message : String}
    (h : Follows (k ()) c' R) : Follows (report level message >>= k) c' R := by
  intro x y a hrun x' hx'
  rw [run_bind] at hrun
  exact h _ y a hrun x' hx'

theorem follows_each {part : β → Conversation σ α} {part' : β → Conversation (σ × Nat) α'}
    {S : List α → Nat → List α' → Prop} {bs : List β}
    (hpart : ∀ b ∈ bs, Follows (part b) (part' b) R) (hnil : S [] 0 [])
    (hcons : ∀ {a n a' as m as'}, R a n a' → S as m as' → S (a :: as) (n + m) (a' :: as')) :
    Follows (each part bs) (each part' bs) S := by
  induction bs with
  | nil => exact follows_pure hnil
  | cons b rest ih =>
      obtain ⟨hb, hrest⟩ := List.forall_mem_cons.1 hpart
      exact hb.bind fun ha => (ih hrest).bind fun has => follows_pure (hcons ha has)

theorem follows_each_unfailed {part : β → Conversation σ α}
    {part' : β → Conversation (σ × Nat) α} {bs : List β}
    (h : ∀ b, Follows (part b) (part' b) Unfailed) :
    Follows (each part bs) (each part' bs) Unfailed := by
  refine follows_each (fun b _ => h b) ⟨rfl, rfl⟩ ?_
  rintro a _ _ as _ _ ⟨rfl, rfl⟩ ⟨rfl, rfl⟩
  exact ⟨rfl, rfl⟩

end Rules

section Questions

variable {question : σ → Reply α × σ} {question' : σ × Nat → Reply α' × (σ × Nat)}
  {R : Except AccessError α → Nat → Except AccessError α' → Prop}

theorem follows_ask {protocol : String}
    (h : ∀ {s s' a}, s'.1 = s → (question s).1.outcome = .ok a → ∃ n a',
      (question' s').1.outcome = .ok a' ∧ (question' s').2 = ((question s).2, s'.2 + n) ∧
        R a n a') : Follows (ask protocol question) (ask protocol question') R := by
  intro x y a hrun x' hx'
  obtain ⟨hreply, hpeer⟩ := run_ask protocol question x
  obtain ⟨hreply', hpeer'⟩ := run_ask protocol question' x'
  rw [hrun] at hreply hpeer
  obtain ⟨n, a', houtcome, hstate, hresult⟩ := h hx' hreply.symm
  refine ⟨n, a', ((ask protocol question').run x').2, ?_, ?_, hresult⟩
  · exact Prod.ext (hreply'.trans houtcome) rfl
  · rw [hpeer', hstate, hpeer]

/-- A question whose failures are not counted. -/
theorem follows_ask_unfailed {protocol : String} (question : σ → Reply α × σ) :
    Follows (ask protocol question)
      (ask protocol fun s : σ × Nat => ((question s.1).1, (question s.1).2, s.2)) Unfailed := by
  refine follows_ask ?_
  rintro s s' reply rfl hreply
  exact ⟨0, reply, hreply, rfl, rfl, rfl⟩

variable (e : Endpoint L σ) (hide : Bool)

theorem follows_hasAttribute (a : AttributeLocation L) :
    Follows (hasAttribute e a) (hasAttribute (e.tallied hide) a) Unfailed :=
  follows_ask_unfailed (e.hasAttribute a)

theorem follows_read (a : AttributeLocation L) :
    Follows (read e a) (read (e.tallied hide) a) Unfailed :=
  follows_ask_unfailed (e.read a)

/-- A failed query is counted; if it is hidden, the answer has no nodes. -/
inductive Tally (hide : Bool) : Except AccessError (List L) → Nat →
    Except AccessError (List L) → Prop
  | answered (found : List L) : Tally hide (.ok found) 0 (.ok found)
  | failed (f : AccessError) : Tally hide (.error f) 1 (if hide then .ok [] else .error f)

theorem follows_nodes (query : L) :
    Follows (nodes e query) (nodes (e.tallied hide) query) (Tally hide) := by
  refine follows_ask ?_
  rintro s s' reply rfl hreply
  rcases hquery : e.nodes query s'.1 with ⟨found | f | _, peer⟩
  · simp only [hquery, Reply.outcome] at hreply
    cases hreply
    exact ⟨0, .ok found, by simp [Endpoint.tallied, hquery, Reply.outcome],
      by simp [Endpoint.tallied, hquery], .answered found⟩
  · simp only [hquery, Reply.outcome] at hreply
    cases hreply
    refine ⟨1, _, ?_, by simp [Endpoint.tallied, hquery], .failed f⟩
    cases hide <;> simp [Endpoint.tallied, hquery, Reply.outcome]
  · simp [hquery, Reply.outcome] at hreply

end Questions

end Conversation

namespace Profile

open Conversation

/-- As many queries failed as are counted, and the same resources are found. -/
def SameResources (hide : Bool) (f : Found L) (n : Nat) (f' : Found L) : Prop :=
  n = f.errors ∧ f' = ⟨f.resources, if hide then 0 else f.errors⟩

theorem SameResources.append {hide : Bool} {f g f' g' : Found L} {n m : Nat}
    (hf : SameResources hide f n f') (hg : SameResources hide g m g') :
    SameResources hide (f ++ g) (n + m) (f' ++ g') := by
  obtain ⟨rfl, rfl⟩ := hf
  obtain ⟨rfl, rfl⟩ := hg
  refine ⟨rfl, ?_⟩
  cases hide <;> rfl

variable [Location L] (p : Profile L σ) (hide : Bool)

theorem follows_resourceAt (parent : Option (Resource L)) (t : ResourceType L) (node : L) :
    Follows (resourceAt p parent t node) (resourceAt (p.tallied hide) parent t node)
      Unfailed := by
  have property : ∀ r q, Follows (readProperty p r q) (readProperty (p.tallied hide) r q)
      Unfailed := by
    intro r q
    refine (follows_read p.endpoint hide _).bind_unfailed fun reply => ?_
    cases reply with
    | ok reading => exact follows_pure ⟨rfl, rfl⟩
    | error f => exact (follows_report _ _).bind_unfailed fun _ => follows_pure ⟨rfl, rfl⟩
  have instances : ∀ {D : Type} r id (ts : List (MeasurementType L D)),
      Follows (instances p r id ts) (instances (p.tallied hide) r id ts) Unfailed := by
    intro D r id ts
    refine (follows_each_unfailed fun t => ?_).bind_unfailed fun _ => follows_pure ⟨rfl, rfl⟩
    refine (follows_hasAttribute p.endpoint hide _).bind_unfailed fun reply => ?_
    rcases reply with f | _ | _
    · exact (follows_report _ _).bind_unfailed fun _ => follows_pure ⟨rfl, rfl⟩
    · exact follows_pure ⟨rfl, rfl⟩
    · exact follows_pure ⟨rfl, rfl⟩
  refine (follows_each_unfailed (property _)).bind_unfailed fun config => ?_
  refine (instances _ _ _).bind_unfailed fun metrics => ?_
  exact (instances _ _ _).bind_unfailed fun avails => follows_pure ⟨rfl, rfl⟩

omit [Location L] in
/-- Parts that agree make up a whole that agrees. -/
theorem follows_each_join {β : Type} {part : β → Conversation σ (Found L)}
    {part' : β → Conversation (σ × Nat) (Found L)} {bs : List β}
    (h : ∀ b ∈ bs, Follows (part b) (part' b) (SameResources hide)) :
    Follows (each part bs) (each part' bs)
      fun fs n fs' => SameResources hide (Found.join fs) n (Found.join fs') := by
  refine follows_each h ⟨rfl, ?_⟩ fun ha has => ha.append has
  cases hide <;> rfl

theorem follows_scanType (depth : Nat) (parent : Option (Resource L)) (t : ResourceType L) :
    Follows (scanType p depth parent t) (scanType (p.tallied hide) depth parent t)
      (SameResources hide) := by
  induction depth generalizing parent t with
  | zero => exact follows_throw
  | succ depth ih =>
      rw [scanType, scanType]
      refine (follows_nodes p.endpoint hide _).bind ?_
      rintro _ _ _ (found | f)
      · simp only [Nat.zero_add]
        refine (follows_each_join hide fun node _ => ?_).map fun hparts => hparts
        refine (follows_resourceAt p hide parent t node).bind_unfailed fun r => ?_
        have hself : SameResources hide ⟨[r], 0⟩ 0 ⟨[r], 0⟩ := by
          refine ⟨rfl, ?_⟩
          cases hide <;> rfl
        refine (follows_each_join hide fun u _ => ih (some r) u).map fun {_ n _} hbelow => ?_
        rw [← Nat.zero_add n]
        exact hself.append hbelow
      · cases hide with
        | true => exact follows_report_bind (follows_pure ⟨rfl, rfl⟩)
        | false =>
            exact (follows_report _ _).bind_unfailed fun _ => follows_pure ⟨rfl, rfl⟩

theorem follows_scan (depth : Nat) :
    Follows (p.scan depth) ((p.tallied hide).scan depth) (SameResources hide) :=
  (follows_each_join hide fun t _ => follows_scanType p hide depth none t).map fun h => h

/-- Whatever an endpoint answers, a scan finds the same resources as one from the same state in
which each failing query has no nodes, and its errors are the queries that failed. -/
theorem scan_tallied {depth : Nat} {x y : Exchange σ} {found : Found L}
    (h : (p.scan depth).run x = (.ok found, y)) {x' : Exchange (σ × Nat)}
    (hx' : x'.peer = (x.peer, 0)) : ∃ y', ((p.tallied hide).scan depth).run x' =
      (.ok ⟨found.resources, if hide then 0 else found.errors⟩, y') ∧
        y'.peer = (y.peer, found.errors) := by
  obtain ⟨n, found', y', hrun, hpeer, rfl, rfl⟩ :=
    follows_scan p hide depth x y found h x' (by rw [hx'])
  exact ⟨y', hrun, by rw [hpeer, hx', Nat.zero_add]⟩

end Profile

end EndpointMonitor
