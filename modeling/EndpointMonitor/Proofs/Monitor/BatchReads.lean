import EndpointMonitor.Monitor.Measurement
import EndpointMonitor.Proofs.Monitor.Openings

/-!
# Reads of a batch

A batch reads one measurement after the other until a reply ends it. The replies are all that is
known of the endpoint, which may answer differently at any time. What an operation refuses is
decided when it opens, whatever it reads afterwards.
-/

namespace EndpointMonitor

variable {L σ D P α : Type}

/-- Whether nothing is read after a reply. -/
def Reply.endsBatch : Reply α → Bool
  | .answer _ => false
  | .failed e => e.isUnreachable
  | .broken => true

/-- The replies to the reads of some measurements, in order, up to the first one that ends the
batch. -/
inductive Reads (e : Endpoint L σ) :
    List (MeasurementInstance L D) → σ → List (Reply Reading) → σ → Prop
  | done {s} : Reads e [] s [] s
  | last {m rest s reply s'} (first : e.read m.location s = (reply, s'))
      (ends : reply.endsBatch = true) : Reads e (m :: rest) s [reply] s'
  | next {m rest s reply s' replies s''} (first : e.read m.location s = (reply, s'))
      (goesOn : reply.endsBatch = false) (others : Reads e rest s' replies s'') :
      Reads e (m :: rest) s (reply :: replies) s''

theorem mem_broken_cons_iff {reply : Reply α} {replies : List (Reply α)}
    (goesOn : reply.endsBatch = false) : .broken ∈ reply :: replies ↔ .broken ∈ replies := by
  rw [List.mem_cons, or_iff_right]
  rintro rfl
  cases goesOn

/-- Before some position, a reply said that the endpoint is out of reach. -/
def LostBefore (replies : List (Reply α)) (i : Nat) : Prop :=
  ∃ j < i, ∃ e, replies[j]? = some (.failed e) ∧ e.isUnreachable = true

theorem not_lostBefore_zero (replies : List (Reply α)) : ¬ LostBefore replies 0 :=
  fun ⟨_, hj, _⟩ => absurd hj (Nat.not_lt_zero _)

theorem lostBefore_cons_succ {reply : Reply α} {replies : List (Reply α)} {i : Nat} :
    LostBefore (reply :: replies) (i + 1) ↔
      (∃ e, reply = .failed e ∧ e.isUnreachable = true) ∨ LostBefore replies i := by
  constructor
  · rintro ⟨_ | j, hj, e, hreply, he⟩
    · exact .inl ⟨e, by simpa using hreply, he⟩
    · exact .inr ⟨j, by omega, e, by simpa using hreply, he⟩
  · rintro (⟨e, rfl, he⟩ | ⟨j, hj, e, hreply, he⟩)
    · exact ⟨0, by omega, e, rfl, he⟩
    · exact ⟨j + 1, by omega, e, by simpa using hreply, he⟩

theorem lostBefore_cons_of_goesOn {reply : Reply α} {replies : List (Reply α)} {i : Nat}
    (goesOn : reply.endsBatch = false) :
    LostBefore (reply :: replies) (i + 1) ↔ LostBefore replies i := by
  rw [lostBefore_cons_succ, or_iff_right]
  rintro ⟨e, rfl, he⟩
  simp [Reply.endsBatch, he] at goesOn

namespace Profile

open Conversation

variable {p : Profile L σ}

/-- What the opening decides about a batch. It is refused only by an endpoint that is not ready
or that fails in another way than by being out of reach; then there are no points. Whatever
stops the opening, nothing is asked afterwards. -/
structure DecidedByOpening (p : Profile L σ) (s : σ) (batch : Batch P) (s' : σ) : Prop where
  opens : ∃ r s₁, p.Opens s r s₁
  refused_iff (e : MonitorError) : batch.ending = .error (.refused e) ↔
    e.isUnreachable = false ∧ ∃ s₁, p.Opens s (.error (.refused e)) s₁
  refused_points {e : MonitorError} : batch.ending = .error (.refused e) → batch.points = []
  stopped {f : Failure} {s₁ : σ} : p.Opens s (.error f) s₁ → s' = s₁ ∧
    (f.isUnreachable = false → batch.ending = .error f ∧ batch.points = [])

/-- Collect a batch once the endpoint is open; the batch is lost if the endpoint is out of reach. -/
def whenOpen (p : Profile L σ) (report : AccessError → String) (lost : Batch P)
    (collect : StateM (Exchange σ) (Batch P)) : StateM (Exchange σ) (Batch P) := do
  match ← (openReady p).run with
  | .error b => return .failed (.cutShort b)
  | .ok (.ok _) => collect
  | .ok (.error (.access e)) =>
    if e.isUnreachable then
      note .error (report e)
      return lost
    else return .failed (.refused (.access e))
  | .ok (.error e) => return .failed (.refused e)

theorem collectMetrics_eq_whenOpen (now : UInt64) (ms : List (MetricInstance L)) :
    p.collectMetrics now ms = p.whenOpen
      (fun e => "Endpoint [" ++ p.name ++ "] is unreachable, skipping [" ++
        toString ms.length ++ "] metrics: " ++ e.message) {} (p.readMetrics now ms) :=
  rfl

theorem collectAvails_eq_whenOpen (now : UInt64) (ms : List (AvailInstance L)) :
    p.collectAvails now ms = p.whenOpen
      (fun e => "Endpoint [" ++ p.name ++ "] is unreachable, reporting [" ++
        toString ms.length ++ "] avails DOWN: " ++ e.message) (allDown now ms)
      (p.readAvails now ms) :=
  rfl

variable {report : AccessError → String} {lost : Batch P}
  {collect : StateM (Exchange σ) (Batch P)} {x : Exchange σ} {s : σ}

/-- Whatever stops an opening, nothing is asked afterwards. -/
theorem run_whenOpen_stopped {f : Failure} (h : p.Opens x.peer (.error f) s) :
    (StateT.run (p.whenOpen report lost collect) x).1 =
        (if f.isUnreachable = true then lost else .failed f) ∧
      (StateT.run (p.whenOpen report lost collect) x).2.peer = s := by
  obtain ⟨y, hrun, hpeer⟩ := h.run_eq
  rw [whenOpen, run_then hrun]
  rcases f with (_ | _ | e) | b
  · exact ⟨rfl, hpeer⟩
  · exact ⟨rfl, hpeer⟩
  · by_cases he : e.isUnreachable = true
    · have hf : (Failure.refused (.access e)).isUnreachable = true := he
      simp only [Failure.outcome, if_pos he, if_pos hf]
      rw [run_note]
      exact ⟨rfl, hpeer⟩
    · have hf : ¬ (Failure.refused (.access e)).isUnreachable = true := he
      simp only [Failure.outcome, if_neg he, if_neg hf]
      exact ⟨rfl, hpeer⟩
  · exact ⟨rfl, hpeer⟩

/-- What is known of a batch from its reads is known of it after an opening. -/
theorem whenOpen_reads {ms : List (MeasurementInstance L D)}
    {R : List (Reply Reading) → Batch P → Prop}
    (known : ∀ y, ∃ replies, Reads p.endpoint ms y.peer replies (StateT.run collect y).2.peer ∧
      R replies (StateT.run collect y).1) (h : p.Opens x.peer (.ok ()) s) :
    ∃ replies,
      Reads p.endpoint ms s replies (StateT.run (p.whenOpen report lost collect) x).2.peer ∧
        R replies (StateT.run (p.whenOpen report lost collect) x).1 := by
  obtain ⟨y, hrun, rfl⟩ := h.run_eq
  rw [whenOpen, run_then hrun]
  exact known y

/-- A batch is refused only when it opens, if nothing that follows the opening refuses. -/
theorem opens_of_whenOpen_refused {e : MonitorError} (lost_ending : lost.ending = .ok ())
    (collected : ∀ y, (StateT.run collect y).1.ending ≠ .error (.refused e))
    (h : (StateT.run (p.whenOpen report lost collect) x).1.ending = .error (.refused e)) :
    e.isUnreachable = false ∧ ∃ s, p.Opens x.peer (.error (.refused e)) s := by
  obtain ⟨f | _, s, hopens⟩ := p.exists_opens x.peer
  · rw [(run_whenOpen_stopped hopens).1] at h
    by_cases hf : f.isUnreachable = true
    · rw [if_pos hf, lost_ending] at h
      cases h
    · rw [if_neg hf] at h
      cases h
      exact ⟨Bool.eq_false_iff.2 hf, s, hopens⟩
  · obtain ⟨y, hrun, -⟩ := hopens.run_eq
    rw [whenOpen, run_then hrun] at h
    exact absurd h (collected y)

theorem decidedByOpening_whenOpen (lost_ending : lost.ending = .ok ())
    (collected : ∀ e y, (StateT.run collect y).1.ending ≠ .error (.refused e)) :
    p.DecidedByOpening x.peer (StateT.run (p.whenOpen report lost collect) x).1
      (StateT.run (p.whenOpen report lost collect) x).2.peer := by
  have stopped : ∀ {f s}, p.Opens x.peer (.error f) s → f.isUnreachable = false →
      (StateT.run (p.whenOpen report lost collect) x).1 = .failed f := by
    intro f s hopens hf
    rw [(run_whenOpen_stopped hopens).1, if_neg (Bool.eq_false_iff.1 hf)]
  refine ⟨p.exists_opens x.peer,
    fun e => ⟨opens_of_whenOpen_refused lost_ending (collected e), ?_⟩, ?_, ?_⟩
  · rintro ⟨he, s, hopens⟩
    rw [stopped hopens he]
    rfl
  · intro e hending
    obtain ⟨he, s, hopens⟩ := opens_of_whenOpen_refused lost_ending (collected e) hending
    rw [stopped hopens he]
    rfl
  · intro f s hopens
    refine ⟨(run_whenOpen_stopped hopens).2, fun hf => ?_⟩
    rw [stopped hopens hf]
    exact ⟨rfl, rfl⟩

end Profile

end EndpointMonitor
