import EndpointMonitor.Proofs.Monitor.BatchReads
import EndpointMonitor.Proofs.Monitor.Discoveries

/-!
# Batches of availabilities

A batch of availabilities is all or nothing. Unless the endpoint refuses it, there is one point
for each availability that was asked for, in order, and its value follows from the replies. An
availability that cannot be read is DOWN, and so are all that come after an endpoint is lost.
-/

namespace EndpointMonitor

variable {L σ : Type}

/-- The worst of some availabilities, whatever their order; it is unknown if there is none. -/
def Avail.worst (values : List Avail) : Avail :=
  if .down ∈ values then .down else if .unknown ∈ values ∨ values = [] then .unknown else .up

namespace Avail

theorem worst_merge (a b : Avail) (values : List Avail) :
    worst (a.merge b :: values) = worst (a :: b :: values) := by
  cases a <;> cases b <;> simp [worst, merge]

theorem foldl_merge_eq_worst (a : Avail) (values : List Avail) :
    values.foldl merge a = worst (a :: values) := by
  induction values generalizing a with
  | nil => cases a <;> simp [worst]
  | cons b rest ih => rw [List.foldl_cons, ih, worst_merge]

end Avail

theorem availValue_eq_worst (pattern : Option UpPattern) (r : Reading) :
    availValue pattern r = Avail.worst (r.values.map (availOf pattern)) := by
  unfold availValue
  cases r.values.map (availOf pattern) with
  | nil => rfl
  | cons a rest => exact Avail.foldl_merge_eq_worst a rest

/-- What the replies to a batch say of the availability at some position. -/
inductive AvailSeen (pattern : Option UpPattern) (replies : List (Reply Reading)) (i : Nat) :
    Avail → Prop
  /-- It is not read any more, since the endpoint is lost. -/
  | lost (before : LostBefore replies i) : AvailSeen pattern replies i .down
  | failed {e} (reply : replies[i]? = some (.failed e)) : AvailSeen pattern replies i .down
  | read {r} (reply : replies[i]? = some (.answer r)) :
      AvailSeen pattern replies i (Avail.worst (r.values.map (availOf pattern)))

section Seen

variable {pattern : Option UpPattern} {replies : List (Reply Reading)} {v : Avail}

theorem availSeen_answer {r : Reading} :
    AvailSeen pattern (.answer r :: replies) 0 v ↔ v = availValue pattern r := by
  rw [availValue_eq_worst]
  constructor
  · rintro (before | reply | reply)
    · exact absurd before (not_lostBefore_zero _)
    · cases reply
    · cases reply
      rfl
  · rintro rfl
    exact .read rfl

theorem availSeen_failed {e : AccessError} :
    AvailSeen pattern (.failed e :: replies) 0 v ↔ v = .down := by
  constructor
  · rintro (before | reply | reply)
    · rfl
    · rfl
    · cases reply
  · rintro rfl
    exact .failed rfl

theorem availSeen_cons_succ {reply : Reply Reading} {i : Nat}
    (goesOn : reply.endsBatch = false) :
    AvailSeen pattern (reply :: replies) (i + 1) v ↔ AvailSeen pattern replies i v := by
  have lost : LostBefore (reply :: replies) (i + 1) ↔ LostBefore replies i :=
    lostBefore_cons_of_goesOn goesOn
  constructor
  · rintro (before | reply | reply)
    · exact .lost (lost.1 before)
    · exact .failed reply
    · exact .read reply
  · rintro (before | reply | reply)
    · exact .lost (lost.2 before)
    · exact .failed reply
    · exact .read reply

/-- After a lost endpoint every availability is DOWN. -/
theorem availSeen_unreachable {e : AccessError} (he : e.isUnreachable = true) {i : Nat} :
    AvailSeen pattern [.failed e] i v ↔ v = .down := by
  cases i with
  | zero => exact availSeen_failed
  | succ i =>
      constructor
      · rintro (before | reply | reply)
        · rfl
        · cases reply
        · cases reply
      · rintro rfl
        exact .lost ⟨0, by omega, e, rfl, he⟩

end Seen

/-- The points of a batch say of each availability what the replies say of it. Only a reply that
breaks the one who asks keeps a batch from its end. -/
structure AvailPoints (now : UInt64) (ms : List (AvailInstance L))
    (replies : List (Reply Reading)) (batch : Batch AvailPoint) : Prop where
  ending_iff (f : Failure) : batch.ending = .error f ↔
    f = .cutShort .broken ∧ Reply.broken ∈ replies
  keys : batch.ending = .ok () → batch.points.map (·.key) = ms.map (·.key)
  points_iff (i : Nat) (point : AvailPoint) : batch.points[i]? = some point ↔
    ∃ m v, ms[i]? = some m ∧ AvailSeen m.type.detail.upPattern replies i v ∧
      point = ⟨m.key, now.toNat, v⟩

namespace AvailPoints

open Profile

variable {now : UInt64} {m : AvailInstance L} {ms : List (AvailInstance L)}

theorem nil : AvailPoints now ([] : List (AvailInstance L)) [] {} where
  ending_iff f := by simp
  keys _ := rfl
  points_iff i point := by simp

/-- Nothing is known of an availability whose reply breaks the one who asks. -/
theorem broken : AvailPoints now (m :: ms) [.broken] (.failed (.cutShort .broken)) where
  ending_iff f := by simp [Batch.failed, eq_comm]
  keys h := by simp [Batch.failed] at h
  points_iff i point := by
    have unseen : ∀ pattern v, ¬ AvailSeen pattern [.broken] i v := by
      rintro pattern v (⟨j, hj, e, reply, he⟩ | reply | reply)
      all_goals simp [List.getElem?_singleton] at reply
    simp [Batch.failed, unseen]

theorem unreachable {e : AccessError} (he : e.isUnreachable = true) :
    AvailPoints now (m :: ms) [.failed e] (allDown now (m :: ms)) where
  ending_iff f := by simp [allDown]
  keys _ := by simp [allDown, availPoint]
  points_iff i point := by
    simp only [allDown, List.getElem?_map, Option.map_eq_some_iff, availSeen_unreachable he]
    constructor
    · rintro ⟨m', hm', rfl⟩
      exact ⟨m', .down, hm', rfl, rfl⟩
    · rintro ⟨m', _, hm', rfl, rfl⟩
      exact ⟨m', hm', rfl⟩

theorem cons {reply : Reply Reading} {replies : List (Reply Reading)} {batch : Batch AvailPoint}
    {v : Avail} (goesOn : reply.endsBatch = false)
    (first : ∀ w, AvailSeen m.type.detail.upPattern (reply :: replies) 0 w ↔ w = v)
    (others : AvailPoints now ms replies batch) :
    AvailPoints now (m :: ms) (reply :: replies) (batch.cons (availPoint now m v)) where
  ending_iff f := by
    rw [mem_broken_cons_iff goesOn]
    exact others.ending_iff f
  keys h := congrArg (m.key :: ·) (others.keys h)
  points_iff i point := by
    cases i with
    | zero => simp [Batch.cons, availPoint, first, eq_comm]
    | succ i => simpa [Batch.cons, availSeen_cons_succ goesOn] using others.points_iff i point

end AvailPoints

namespace Profile

open Conversation

variable {p : Profile L σ} {now : UInt64} {ms : List (AvailInstance L)}

/-- The reads of a batch are followed from the first measurement on: its reply says whether there
are others, and what the first point is. -/
theorem readAvails_points (p : Profile L σ) (now : UInt64) (ms : List (AvailInstance L))
    (x : Exchange σ) : ∃ replies,
    Reads p.endpoint ms x.peer replies (StateT.run (p.readAvails now ms) x).2.peer ∧
      AvailPoints now ms replies (StateT.run (p.readAvails now ms) x).1 := by
  induction ms generalizing x with
  | nil => exact ⟨[], .done, .nil⟩
  | cons m rest ih =>
      rcases hread : p.endpoint.read m.location x.peer with ⟨reply, s⟩
      obtain ⟨y, hrun, rfl⟩ := read_eq hread
      rw [readAvails, run_then hrun]
      cases reply with
      | answer r =>
          obtain ⟨replies, reads, points⟩ := ih y
          refine ⟨.answer r :: replies, .next hread rfl reads, ?_⟩
          exact points.cons rfl fun v => availSeen_answer
      | failed e =>
          by_cases he : e.isUnreachable = true
          · simp only [Reply.outcome, if_pos he]
            rw [run_note]
            exact ⟨[.failed e], .last hread he, .unreachable he⟩
          · have goesOn : (Reply.failed (α := Reading) e).endsBatch = false :=
              Bool.eq_false_iff.2 he
            simp only [Reply.outcome, if_neg he]
            -- The warning changes the log alone, so the others are read from the same state.
            rw [run_note]
            obtain ⟨replies, reads, points⟩ := ih { y with log := y.log ++ [_] }
            refine ⟨.failed e :: replies, .next hread goesOn reads, ?_⟩
            exact points.cons goesOn fun v => availSeen_failed
      | broken => exact ⟨[.broken], .last hread rfl, .broken⟩

theorem collectAvails_points {x : Exchange σ} {s : σ} (h : p.Opens x.peer (.ok ()) s) :
    ∃ replies, Reads p.endpoint ms s replies (StateT.run (p.collectAvails now ms) x).2.peer ∧
      AvailPoints now ms replies (StateT.run (p.collectAvails now ms) x).1 := by
  rw [collectAvails_eq_whenOpen]
  exact whenOpen_reads (readAvails_points p now ms) h

/-- A batch of availabilities is all or nothing. -/
structure AvailBatch (p : Profile L σ) (now : UInt64) (ms : List (AvailInstance L)) (s : σ)
    (batch : Batch AvailPoint) (s' : σ) : Prop extends p.DecidedByOpening s batch s' where
  complete : batch.ending = .ok () → batch.points.map (·.key) = ms.map (·.key)
  unreachable {f : Failure} {s₁ : σ} : p.Opens s (.error f) s₁ → f.isUnreachable = true →
    batch.ending = .ok () ∧ batch.points = ms.map fun m => ⟨m.key, now.toNat, .down⟩
  opened {s₁ : σ} : p.Opens s (.ok ()) s₁ → ∃ replies,
    Reads p.endpoint ms s₁ replies s' ∧ AvailPoints now ms replies batch

/-- Whatever an endpoint replies, a batch of availabilities either is refused when it opens, and
has no points, or has one for each availability. -/
theorem collectAvails_allOrNothing (p : Profile L σ) (now : UInt64)
    (ms : List (AvailInstance L)) (x : Exchange σ) :
    p.AvailBatch now ms x.peer (StateT.run (p.collectAvails now ms) x).1
      (StateT.run (p.collectAvails now ms) x).2.peer := by
  have collected : ∀ e (y : Exchange σ),
      (StateT.run (p.readAvails now ms) y).1.ending ≠ .error (.refused e) := by
    intro e y hending
    obtain ⟨replies, -, points⟩ := readAvails_points p now ms y
    cases ((points.ending_iff _).1 hending).1
  have stopped : ∀ {f s}, p.Opens x.peer (.error f) s →
      (StateT.run (p.collectAvails now ms) x).1 =
        if f.isUnreachable = true then allDown now ms else .failed f := by
    intro f s hopens
    rw [collectAvails_eq_whenOpen]
    exact (run_whenOpen_stopped hopens).1
  refine ⟨?_, fun hending => ?_, ?_, collectAvails_points⟩
  · rw [collectAvails_eq_whenOpen]
    exact decidedByOpening_whenOpen rfl collected
  · obtain ⟨f | _, s, hopens⟩ := p.exists_opens x.peer
    · rw [stopped hopens] at hending ⊢
      by_cases hf : f.isUnreachable = true
      · simp [hf, allDown, availPoint]
      · rw [if_neg hf] at hending
        cases hending
    · obtain ⟨replies, -, points⟩ := collectAvails_points hopens
      exact points.keys hending
  · intro f s hopens hf
    rw [stopped hopens, if_pos hf]
    exact ⟨rfl, rfl⟩

/-- The second attribute does not exist, and after two reads the endpoint is out of reach. -/
example :
    let node : ManagementAddress := ⟨[⟨"x", "1"⟩]⟩
    let measured (name : String) : AvailInstance ManagementAddress :=
      { id := name, location := ⟨node, name, none⟩, type := default }
    let peer := (Monitor.oneNode.setAttribute node "up" (.bool true)).withFaults fun faults =>
      { faults with budget := some 2 }
    let batch := (StateT.run (collectAvails (Monitor.heldInMemory []) 0
      [measured "up", measured "gone", measured "up", measured "up"]) { peer }).1
    batch.points.map (·.value) = [.up, .down, .down, .down] := by
  decide +kernel

end Profile

end EndpointMonitor
