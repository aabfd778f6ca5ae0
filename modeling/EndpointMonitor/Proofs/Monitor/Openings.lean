import EndpointMonitor.Monitor.Profile
import EndpointMonitor.Proofs.Monitor.Conversations

/-!
# Openings

An operation on an endpoint opens with the same steps: it connects, and asks for the nodes that
it waits for. What they lead to is described here from the replies alone. The steps go on until
one of them does not go through; what happens at that one decides what comes of the opening.
-/

namespace EndpointMonitor

/-- Whether an operation is refused because the endpoint could not be reached. -/
def MonitorError.isUnreachable : MonitorError → Bool
  | .access e => e.isUnreachable
  | _ => false

/-- Whether an operation has no result because the endpoint could not be reached. -/
def Failure.isUnreachable : Failure → Bool
  | .refused e => e.isUnreachable
  | .cutShort _ => false

/-- What a conversation has led to if it failed or yields nothing else. -/
def Failure.outcome : Except Failure Unit → Except Breakdown (Except MonitorError Unit)
  | .ok () => .ok (.ok ())
  | .error (.refused e) => .ok (.error e)
  | .error (.cutShort b) => .error b

namespace Profile

variable {L σ : Type}

/-- What comes of asking for the nodes of some queries, in order. A query goes through if it
addresses a node; the first one that does not is the last that is asked. -/
inductive Awaits (p : Profile L σ) : List L → σ → Except Failure Unit → σ → Prop
  | done {s} : Awaits p [] s (.ok ()) s
  | failed {query rest s e s'} (reply : p.endpoint.nodes query s = (.failed e, s')) :
      Awaits p (query :: rest) s (.error (.refused (.access e))) s'
  | broken {query rest s s'} (reply : p.endpoint.nodes query s = (.broken, s')) :
      Awaits p (query :: rest) s (.error (.cutShort .broken)) s'
  | absent {query rest s s'} (reply : p.endpoint.nodes query s = (.answer [], s')) :
      Awaits p (query :: rest) s (.error (.refused (.notReady p.name))) s'
  | found {query rest s node nodes s' r s''}
      (reply : p.endpoint.nodes query s = (.answer (node :: nodes), s'))
      (others : Awaits p rest s' r s'') : Awaits p (query :: rest) s r s''

/-- What comes of connecting to an endpoint and asking for all that is waited for. -/
inductive Opens (p : Profile L σ) : σ → Except Failure Unit → σ → Prop
  | failed {s e s'} (reply : p.endpoint.connect s = (.failed e, s')) :
      Opens p s (.error (.refused (.access e))) s'
  | broken {s s'} (reply : p.endpoint.connect s = (.broken, s')) :
      Opens p s (.error (.cutShort .broken)) s'
  | connected {s s' r s''} (reply : p.endpoint.connect s = (.answer (), s'))
      (waits : Awaits p p.waitFor s' r s'') : Opens p s r s''

variable (p : Profile L σ)

theorem exists_awaits (queries : List L) (s : σ) : ∃ r s', p.Awaits queries s r s' := by
  induction queries generalizing s with
  | nil => exact ⟨_, _, .done⟩
  | cons query rest ih =>
      rcases hreply : p.endpoint.nodes query s with ⟨(_ | ⟨node, nodes⟩) | e | _, s'⟩
      · exact ⟨_, _, .absent hreply⟩
      · obtain ⟨r, s'', others⟩ := ih s'
        exact ⟨r, s'', .found hreply others⟩
      · exact ⟨_, _, .failed hreply⟩
      · exact ⟨_, _, .broken hreply⟩

theorem exists_opens (s : σ) : ∃ r s', p.Opens s r s' := by
  rcases hreply : p.endpoint.connect s with ⟨_ | e | _, s'⟩
  · obtain ⟨r, s'', waits⟩ := p.exists_awaits p.waitFor s'
    exact ⟨r, s'', .connected hreply waits⟩
  · exact ⟨_, _, .failed hreply⟩
  · exact ⟨_, _, .broken hreply⟩

end Profile

namespace Conversation

variable {L σ α β : Type} {x : Exchange σ}

/-- What follows a part of a computation starts where that part ended. -/
theorem run_then {c : StateM (Exchange σ) α} {k : α → StateM (Exchange σ) β} {a : α}
    {y : Exchange σ} (h : StateT.run c x = (a, y)) :
    StateT.run (c >>= k) x = StateT.run (k a) y := by
  rw [StateT.run_bind, h]
  rfl

/-- A line in the log changes nothing that follows. -/
theorem run_note (level : LogLevel) (message : String) (k : Unit → StateM (Exchange σ) β) :
    StateT.run (note level message >>= k) x =
      StateT.run (k ()) { x with log := x.log ++ [⟨level, message⟩] } :=
  rfl

theorem contact_eq {question : σ → Reply α × σ} {reply : Reply α} {s : σ}
    (h : question x.peer = (reply, s)) :
    ∃ y, (contact question).run x = (reply.outcome, y) ∧ y.peer = s := by
  obtain ⟨hreply, hpeer⟩ := run_contact question x
  rw [h] at hreply hpeer
  exact ⟨_, Prod.ext hreply rfl, hpeer⟩

theorem ask_eq {protocol : String} {question : σ → Reply α × σ} {reply : Reply α} {s : σ}
    (h : question x.peer = (reply, s)) :
    ∃ y, (ask protocol question).run x = (reply.outcome, y) ∧ y.peer = s := by
  obtain ⟨hreply, hpeer⟩ := run_ask protocol question x
  rw [h] at hreply hpeer
  exact ⟨_, Prod.ext hreply rfl, hpeer⟩

theorem nodes_eq {e : Endpoint L σ} {query : L} {reply : Reply (List L)} {s : σ}
    (h : e.nodes query x.peer = (reply, s)) :
    ∃ y, (nodes e query).run x = (reply.outcome, y) ∧ y.peer = s :=
  ask_eq h

theorem read_eq {e : Endpoint L σ} {location : AttributeLocation L} {reply : Reply Reading}
    {s : σ} (h : e.read location x.peer = (reply, s)) :
    ∃ y, StateT.run (read e location).run x = (reply.outcome, y) ∧ y.peer = s :=
  ask_eq h

end Conversation

namespace Profile

open Conversation

variable {L σ : Type} {p : Profile L σ} {x : Exchange σ} {r : Except Failure Unit} {s : σ}

/-- The queries are asked just as their replies demand. -/
theorem Awaits.run_eq {queries : List L} (h : p.Awaits queries x.peer r s) :
    ∃ y, (awaitNodes p queries).run x = (Failure.outcome r, y) ∧ y.peer = s := by
  generalize hstart : x.peer = start at h
  induction h generalizing x with
  | done => exact ⟨x, rfl, hstart⟩
  | failed reply | broken reply | absent reply =>
      rw [← hstart] at reply
      obtain ⟨y, hrun, hpeer⟩ := nodes_eq reply
      refine ⟨y, ?_, hpeer⟩
      rw [awaitNodes, run_bind, hrun]
      rfl
  | found reply _ ih =>
      rw [← hstart] at reply
      obtain ⟨y, hrun, hpeer⟩ := nodes_eq reply
      obtain ⟨z, hrest, hend⟩ := ih hpeer
      refine ⟨z, ?_, hend⟩
      rw [awaitNodes, run_bind, hrun]
      exact hrest

theorem Opens.run_eq (h : p.Opens x.peer r s) :
    ∃ y, StateT.run (openReady p).run x = (Failure.outcome r, y) ∧ y.peer = s := by
  change ∃ y, (openReady p).run x = _ ∧ _
  generalize hstart : x.peer = start at h
  cases h with
  | failed reply | broken reply =>
      rw [← hstart] at reply
      obtain ⟨y, hrun, hpeer⟩ := contact_eq reply
      refine ⟨y, ?_, hpeer⟩
      rw [openReady, run_bind, hrun]
      rfl
  | connected reply waits =>
      rw [← hstart] at reply
      obtain ⟨y, hrun, hpeer⟩ := contact_eq reply
      rw [← hpeer] at waits
      obtain ⟨z, hrest, hend⟩ := waits.run_eq
      refine ⟨z, ?_, hend⟩
      rw [openReady, run_bind, hrun]
      exact hrest

end Profile

end EndpointMonitor
