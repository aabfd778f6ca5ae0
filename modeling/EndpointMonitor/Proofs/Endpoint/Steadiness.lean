import EndpointMonitor.Endpoint.InMemory
import EndpointMonitor.Proofs.Monitor.Conversations

/-!
# When an endpoint in memory is steady

An endpoint in memory that can be reached and has no budget of questions answers alike for as
long as nobody changes its nodes, attributes and faults.
-/

namespace EndpointMonitor.InMemory

variable {L : Type} [Location L]

/-- Nobody has changed the endpoint. -/
def Unchanged (e s : InMemory L) : Prop :=
  s.nodes = e.nodes ∧ s.attributes = e.attributes ∧ s.faults = e.faults

/-- A conversation is under way in which nobody has changed the endpoint. -/
def Opened (makesNodes : Bool) (e s : InMemory L) : Prop :=
  Unchanged e s ∧ s.seenNodes = (e.connect makesNodes).2.seenNodes ∧
    s.seen = (e.connect makesNodes).2.seen

section Opened

variable {e s : InMemory L} {makesNodes : Bool}

theorem Opened.nodesAnswer_eq (h : Opened makesNodes e s) (query : L) :
    s.nodesAnswer query = { e with
      seenNodes := (e.connect makesNodes).2.seenNodes }.nodesAnswer query := by
  obtain ⟨⟨-, -, hfaults⟩, hnodes, -⟩ := h
  unfold nodesAnswer
  rw [hfaults, hnodes]

theorem Opened.attributeAnswer_eq (h : Opened makesNodes e s) {α : Type}
    (a : AttributeLocation L) (answer : Snapshot L → Except AccessError α) :
    s.attributeAnswer a (answer s.seen) =
      e.attributeAnswer a (answer (e.connect makesNodes).2.seen) := by
  obtain ⟨⟨-, -, hfaults⟩, -, hseen⟩ := h
  unfold attributeAnswer
  rw [hfaults, hseen]

theorem Opened.reach (h : Opened makesNodes e s) (hbudget : e.faults.budget = none) {α : Type}
    (answer : Except AccessError α) :
    (s.reach answer).1 = (e.reach answer).1 ∧ Opened makesNodes e (s.reach answer).2 := by
  have hfaults : s.faults = e.faults := h.1.2.2
  have hsame : (s.reach answer).2 = s := by
    unfold InMemory.reach
    rw [hfaults, hbudget]
  rw [hsame]
  refine ⟨?_, h⟩
  unfold InMemory.reach
  rw [hfaults, hbudget]

end Opened

/-- An endpoint within reach answers, be it with an error. -/
theorem outcome_reach {s : InMemory L} (hbudget : s.faults.budget = none)
    (hreach : s.faults.unreachable = false) {α : Type} (answer : Except AccessError α) :
    (s.reach answer).1.outcome = .ok answer := by
  unfold InMemory.reach
  rw [hbudget, hreach]
  cases answer <;> rfl

/-- An endpoint that can be reached answers alike until it is changed. -/
theorem steady {e : InMemory L} (hbudget : e.faults.budget = none)
    (hconnect : e.faults.connect = none) (protocol : String) (makesNodes : Bool) :
    (endpoint protocol makesNodes).Steady (Unchanged e) (Opened makesNodes e) where
  closes s h := h.1
  connect := by
    refine ⟨.answer (), ?_⟩
    rintro s ⟨hnodes, hattributes, hfaults⟩
    simp only [endpoint, InMemory.connect, Opened, Unchanged, hfaults, hconnect, hnodes,
      hattributes, and_self]
  nodes query := by
    refine ⟨(e.reach ({ e with
      seenNodes := (e.connect makesNodes).2.seenNodes }.nodesAnswer query)).1, fun s h => ?_⟩
    rw [← h.nodesAnswer_eq]
    exact h.reach hbudget _
  hasAttribute a := by
    refine ⟨(e.reach (e.attributeAnswer a
      (.ok ((e.connect makesNodes).2.seen.hasAttribute a)))).1, fun s h => ?_⟩
    rw [← h.attributeAnswer_eq a fun seen => .ok (seen.hasAttribute a)]
    exact h.reach hbudget _
  read a := by
    refine ⟨(e.reach (e.attributeAnswer a ((e.connect makesNodes).2.seen.read a))).1,
      fun s h => ?_⟩
    rw [← h.attributeAnswer_eq a fun seen => seen.read a]
    exact h.reach hbudget _

end EndpointMonitor.InMemory
