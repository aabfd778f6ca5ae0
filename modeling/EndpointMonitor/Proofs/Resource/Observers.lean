import EndpointMonitor.Proofs.Resource.Calls
import EndpointMonitor.Proofs.Resource.Replay

/-!
# Observers of a resource graph

An observer that hears of every change can keep a map of its own: it enters what is added, replaces
what is modified and takes out what is removed. After every call its map is what the graph stores,
and no event contradicts the map at the time. The rules for locations may be others at each call.
-/

namespace EndpointMonitor

variable {L : Type}

namespace View

/-- What an observer knows after an event. -/
def hear (v : View L) : GraphEvent L → View L
  | .added r => Function.update v r.id (some r)
  | .modified r => Function.update v r.id (some r)
  | .removed r => Function.update v r.id none

/-- What an observer knows after events, one after the other. -/
def hearAll (v : View L) (events : List (GraphEvent L)) : View L :=
  events.foldl hear v

/-- Only what is unknown is added, only what is known is modified, and what is removed is known
just as it was. -/
def Expects (v : View L) : GraphEvent L → Prop
  | .added r => v r.id = none
  | .modified r => ∃ s, v r.id = some s
  | .removed r => v r.id = some r

end View

section Hearing

variable {v w : View L} {events : List (GraphEvent L)}

theorem Replays.hearAll_eq (h : Replays v events w) : View.hearAll v events = w := by
  induction h with
  | done => rfl
  | added _ _ ih => exact ih
  | modified _ _ ih => exact ih
  | removed _ _ ih => exact ih

/-- No event of a replay contradicts what is known when it is heard. -/
theorem Replays.expects (h : Replays v events w) {es fs : List (GraphEvent L)}
    {event : GraphEvent L} (hsplit : events = es ++ event :: fs) :
    View.Expects (View.hearAll v es) event := by
  induction h generalizing es with
  | done => simp at hsplit
  | added absent _ ih =>
      cases es with
      | nil =>
          cases hsplit
          exact absent
      | cons e es =>
          cases hsplit
          exact ih rfl
  | modified stored _ ih =>
      cases es with
      | nil =>
          cases hsplit
          exact ⟨_, stored⟩
      | cons e es =>
          cases hsplit
          exact ih rfl
  | removed stored _ ih =>
      cases es with
      | nil =>
          cases hsplit
          exact stored
      | cons e es =>
          cases hsplit
          exact ih rfl

end Hearing

/-- What comes of a call. -/
structure GraphTurn (L : Type) where
  call : GraphCall L
  /-- The changes in the order in which observers hear of them. -/
  events : List (GraphEvent L)
  /-- What the caller is told of an addition. -/
  outcome : Option AddOutcome
  graph : ResourceGraph L

namespace GraphTurn

/-- Whoever adds a resource is told which event was sent, or that none was. -/
def OutcomeTells (t : GraphTurn L) : Prop :=
  ∀ r, t.call = .add r →
    t.outcome = some .added ∧ t.events = [.added r] ∨
    t.outcome = some .modified ∧ t.events = [.modified r] ∨
    t.outcome = some .unchanged ∧ t.events = []

/-- An observer that knew what was stored before a call hears nothing unexpected, and knows what is
stored after it. -/
structure Followed (known : View L) (t : GraphTurn L) : Prop where
  expected : ∀ es event fs, t.events = es ++ event :: fs →
    View.Expects (View.hearAll known es) event
  knows : View.hearAll known t.events = t.graph.get?
  tells : t.OutcomeTells

/-- The same for calls one after the other. -/
inductive FollowedAll : View L → List (GraphTurn L) → Prop
  | done {known} : FollowedAll known []
  | turn {known t ts} (first : Followed known t)
      (rest : FollowedAll (View.hearAll known t.events) ts) : FollowedAll known (t :: ts)

end GraphTurn

namespace ResourceGraph

variable {g : ResourceGraph L}

section Turns

variable [Location L]

/-- The changes that a call makes, in the order in which observers hear of them. -/
def callEvents (g : ResourceGraph L) : GraphCall L → List (GraphEvent L)
  | .add r => (g.add r).events
  | .remove id => (g.remove id).2.map .removed
  | .removeCovered query => (g.removeCovered query).2.map .removed

/-- What the caller is told if a call adds a resource. -/
def callOutcome (g : ResourceGraph L) : GraphCall L → Option AddOutcome
  | .add r => some (g.add r).outcome
  | .remove _ => none
  | .removeCovered _ => none

/-- What comes of a call. -/
def turn (g : ResourceGraph L) (c : GraphCall L) : GraphTurn L :=
  ⟨c, g.callEvents c, g.callOutcome c, g.call c⟩

theorem Linked.replays_call (h : Linked g) (c : GraphCall L) :
    Replays g.get? (g.callEvents c) (g.call c).get? := by
  cases c with
  | add r => exact h.replays_add r
  | remove id => exact h.replays_remove id
  | removeCovered query => exact h.replays_removeAll _

theorem Linked.outcomeTells (h : Linked g) (c : GraphCall L) : (g.turn c).OutcomeTells := by
  rintro r ⟨⟩
  simp only [turn, callEvents, callOutcome]
  rcases add_cases h r with ⟨_, -, -, heq⟩ | ⟨_, _, -, -, -, heq⟩ | ⟨_, -, -, heq⟩
  · exact .inr (.inr (by simp [heq]))
  · exact .inr (.inl (by simp [heq]))
  · exact .inl (by simp [heq])

theorem Linked.followed_turn (h : Linked g) (c : GraphCall L) :
    (g.turn c).Followed g.get? where
  expected _ _ _ hsplit := (h.replays_call c).expects hsplit
  knows := (h.replays_call c).hearAll_eq
  tells := h.outcomeTells c

end Turns

/-- What comes of calls one after the other, each with its rules for locations. -/
def turns (g : ResourceGraph L) : List (Location L × GraphCall L) → List (GraphTurn L)
  | [] => []
  | (rules, c) :: rest =>
    let t := @turn L rules g c
    t :: t.graph.turns rest

theorem Linked.followedAll_turns (h : Linked g) (calls : List (Location L × GraphCall L)) :
    GraphTurn.FollowedAll g.get? (g.turns calls) := by
  induction calls generalizing g with
  | nil => exact .done
  | cons call rest ih =>
      obtain ⟨rules, c⟩ := call
      have first := h.followed_turn c
      refine .turn first ?_
      rw [first.knows]
      exact ih (h.call c)

/-- Whatever calls are made on a new graph, and under whatever rules for locations: an observer that
begins with an empty map has the stored resources in it after every call. It only hears of
additions of what is not in its map and of changes and removals of what is, and whoever adds a
resource is told which of these it was. -/
theorem observer_followsGraph (calls : List (Location L × GraphCall L)) :
    GraphTurn.FollowedAll (fun _ => none) (({} : ResourceGraph L).turns calls) := by
  have empty : ({} : ResourceGraph L).get? = fun _ => none := by
    funext id
    simp [get?]
  rw [← empty]
  exact linked_empty.followedAll_turns calls

end ResourceGraph

end EndpointMonitor
