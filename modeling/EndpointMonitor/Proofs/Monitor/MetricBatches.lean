import EndpointMonitor.Proofs.Monitor.BatchReads
import Mathlib.Data.List.ReduceOption

/-!
# Batches of metrics

A batch of metrics holds a point for each metric that can be read, in order, and no others. A
metric that was read without a number among its values yields none, nor does one that comes
after an endpoint is lost.
-/

namespace EndpointMonitor

variable {L σ : Type}

/-- The values that are numbers: a flag counts as zero or one, and a text as what it spells. -/
inductive Numeral : Json → Float → Prop
  | number (n) : Numeral (.num n) n.toFloat
  | flag (b) : Numeral (.bool b) (if b then 1.0 else 0.0)
  | text {s x} (spelled : Decimal.float? (Text.trimmed s) = some x) : Numeral (.str s) x

theorem numeric_eq_some_iff {v : Json} {x : Float} : numeric v = some x ↔ Numeral v x := by
  constructor
  · intro h
    cases v with
    | num n =>
        cases h
        exact .number n
    | bool b =>
        cases h
        exact .flag b
    | str s => exact .text h
    | null | arr | obj => cases h
  · rintro (n | b | spelled)
    · rfl
    · rfl
    · exact spelled

/-- The numbers among some values, in order. -/
inductive Numbers : List Json → List Float → Prop
  | nil : Numbers [] []
  | number {v x vs xs} (first : Numeral v x) (others : Numbers vs xs) : Numbers (v :: vs) (x :: xs)
  | other {v vs xs} (first : ∀ x, ¬ Numeral v x) (others : Numbers vs xs) : Numbers (v :: vs) xs

theorem numbers_filterMap (vs : List Json) : Numbers vs (vs.filterMap numeric) := by
  induction vs with
  | nil => exact .nil
  | cons v vs ih =>
      cases hv : numeric v with
      | none =>
          rw [List.filterMap_cons_none hv]
          refine .other (fun x hx => ?_) ih
          rw [numeric_eq_some_iff.2 hx] at hv
          cases hv
      | some x =>
          rw [List.filterMap_cons_some hv]
          exact .number (numeric_eq_some_iff.1 hv) ih

theorem Numbers.eq_filterMap {vs : List Json} {xs : List Float} (h : Numbers vs xs) :
    xs = vs.filterMap numeric := by
  induction h with
  | nil => rfl
  | number first _ ih => rw [List.filterMap_cons_some (numeric_eq_some_iff.2 first), ih]
  | @other v _ _ first _ ih =>
      have hv : numeric v = none :=
        Option.eq_none_iff_forall_ne_some.2 fun x hx => first x (numeric_eq_some_iff.1 hx)
      rw [List.filterMap_cons_none hv, ih]

/-- The sum of a reading is that of its numbers, from the left, if there are any. -/
theorem metricValue_eq_some_iff {r : Reading} {total : Float} : metricValue r = some total ↔
    (∃ v ∈ r.values, ∃ x, Numeral v x) ∧
      ∃ xs, Numbers r.values xs ∧ total = xs.foldl (· + ·) 0.0 := by
  have some_number : r.values.filterMap numeric ≠ [] ↔ ∃ v ∈ r.values, ∃ x, Numeral v x := by
    simp [List.filterMap_eq_nil_iff, Option.eq_none_iff_forall_ne_some, numeric_eq_some_iff]
  have sum : (∃ xs, Numbers r.values xs ∧ total = xs.foldl (· + ·) 0.0) ↔
      total = (r.values.filterMap numeric).foldl (· + ·) 0.0 := by
    constructor
    · rintro ⟨xs, numbers, rfl⟩
      rw [numbers.eq_filterMap]
    · intro h
      exact ⟨_, numbers_filterMap _, h⟩
  rw [← some_number, sum, metricValue]
  cases r.values.filterMap numeric with
  | nil => simp
  | cons x xs => simp [eq_comm]

/-- The point that the replies to a batch give for a metric at some position. -/
inductive MetricSeen (now : UInt64) (m : MetricInstance L) (replies : List (Reply Reading))
    (i : Nat) : MetricPoint → Prop
  | read {r xs} (notLost : ¬ LostBefore replies i) (reply : replies[i]? = some (.answer r))
      (readable : ∃ v ∈ r.values, ∃ x, Numeral v x) (numbers : Numbers r.values xs) :
      MetricSeen now m replies i
        ⟨m.key, now.toNat, xs.foldl (· + ·) 0.0, m.type.detail.kind, m.type.detail.units⟩

section Seen

variable {now : UInt64} {m : MetricInstance L} {replies : List (Reply Reading)}
  {point : MetricPoint}

theorem metricSeen_answer {r : Reading} : MetricSeen now m (.answer r :: replies) 0 point ↔
    Profile.metricPoint? now m r = some point := by
  simp only [Profile.metricPoint?, Option.map_eq_some_iff, metricValue_eq_some_iff]
  constructor
  · rintro ⟨notLost, reply, readable, numbers⟩
    cases reply
    exact ⟨_, ⟨readable, _, numbers, rfl⟩, rfl⟩
  · rintro ⟨total, ⟨readable, xs, numbers, rfl⟩, rfl⟩
    exact .read (not_lostBefore_zero _) rfl readable numbers

theorem not_metricSeen_failed {e : AccessError} :
    ¬ MetricSeen now m (.failed e :: replies) 0 point := by
  rintro ⟨-, reply, -, -⟩
  cases reply

theorem metricSeen_cons_succ {reply : Reply Reading} {i : Nat} (goesOn : reply.endsBatch = false) :
    MetricSeen now m (reply :: replies) (i + 1) point ↔ MetricSeen now m replies i point := by
  have lost : LostBefore (reply :: replies) (i + 1) ↔ LostBefore replies i :=
    lostBefore_cons_of_goesOn goesOn
  constructor
  · rintro ⟨notLost, reply, readable, numbers⟩
    exact .read (fun before => notLost (lost.2 before)) reply readable numbers
  · rintro ⟨notLost, reply, readable, numbers⟩
    exact .read (fun before => notLost (lost.1 before)) reply readable numbers

end Seen

/-- A slot for each metric of a batch, filled if the replies give a point for it. -/
structure MetricSlots (now : UInt64) (ms : List (MetricInstance L))
    (replies : List (Reply Reading)) (slots : List (Option MetricPoint)) : Prop where
  length_eq : slots.length = ms.length
  filled_iff (i : Nat) (point : MetricPoint) : slots[i]? = some (some point) ↔
    ∃ m, ms[i]? = some m ∧ MetricSeen now m replies i point

/-- The points of a batch are those in the filled slots. Only a reply that breaks the one who
asks keeps a batch from its end. -/
structure MetricPoints (now : UInt64) (ms : List (MetricInstance L))
    (replies : List (Reply Reading)) (batch : Batch MetricPoint) : Prop where
  ending_iff (f : Failure) : batch.ending = .error f ↔
    f = .cutShort .broken ∧ Reply.broken ∈ replies
  points_eq : ∃ slots, MetricSlots now ms replies slots ∧ batch.points = slots.reduceOption

section Slots

variable {now : UInt64} {m : MetricInstance L} {ms : List (MetricInstance L)}
  {reply : Reply Reading} {replies : List (Reply Reading)}

theorem MetricSlots.cons {slot : Option MetricPoint} {slots : List (Option MetricPoint)}
    (goesOn : reply.endsBatch = false)
    (first : ∀ point, slot = some point ↔ MetricSeen now m (reply :: replies) 0 point)
    (others : MetricSlots now ms replies slots) :
    MetricSlots now (m :: ms) (reply :: replies) (slot :: slots) where
  length_eq := congrArg (· + 1) others.length_eq
  filled_iff i point := by
    cases i with
    | zero => simp [first]
    | succ i => simpa [metricSeen_cons_succ goesOn] using others.filled_iff i point

/-- No slot is filled from a reply that ends the batch on. -/
theorem MetricSlots.ended (ends : reply.endsBatch = true) :
    MetricSlots now ms [reply] (List.replicate ms.length none) where
  length_eq := List.length_replicate
  filled_iff i point := by
    have unseen : ∀ m : MetricInstance L, ¬ MetricSeen now m [reply] i point := by
      rintro m ⟨-, answer, -, -⟩
      cases i with
      | zero =>
          cases answer
          cases ends
      | succ i => cases answer
    simp [unseen, List.getElem?_replicate]

theorem MetricPoints.nil : MetricPoints now ([] : List (MetricInstance L)) [] {} where
  ending_iff f := by simp
  points_eq := ⟨[], ⟨rfl, by simp⟩, rfl⟩

theorem MetricPoints.broken : MetricPoints now ms [.broken] (.failed (.cutShort .broken)) where
  ending_iff f := by simp [Batch.failed, eq_comm]
  points_eq := ⟨_, .ended rfl, List.reduceOption_replicate_none.symm⟩

theorem MetricPoints.unreachable {e : AccessError} (he : e.isUnreachable = true) :
    MetricPoints now ms [.failed e] {} where
  ending_iff f := by simp
  points_eq := ⟨_, .ended he, List.reduceOption_replicate_none.symm⟩

theorem MetricPoints.cons {batch whole : Batch MetricPoint} {slot : Option MetricPoint}
    (goesOn : reply.endsBatch = false)
    (first : ∀ point, slot = some point ↔ MetricSeen now m (reply :: replies) 0 point)
    (others : MetricPoints now ms replies batch) (ending_eq : whole.ending = batch.ending)
    (points_eq : whole.points = slot.toList ++ batch.points) :
    MetricPoints now (m :: ms) (reply :: replies) whole where
  ending_iff f := by
    rw [ending_eq, mem_broken_cons_iff goesOn]
    exact others.ending_iff f
  points_eq := by
    obtain ⟨slots, hslots, hpoints⟩ := others.points_eq
    refine ⟨slot :: slots, hslots.cons goesOn first, ?_⟩
    rw [points_eq, hpoints, ← List.singleton_append, List.reduceOption_append,
      List.reduceOption_singleton]

end Slots

namespace Profile

open Conversation

variable {p : Profile L σ} {now : UInt64} {ms : List (MetricInstance L)}

theorem readMetrics_points (p : Profile L σ) (now : UInt64) (ms : List (MetricInstance L))
    (x : Exchange σ) : ∃ replies,
    Reads p.endpoint ms x.peer replies (StateT.run (p.readMetrics now ms) x).2.peer ∧
      MetricPoints now ms replies (StateT.run (p.readMetrics now ms) x).1 := by
  induction ms generalizing x with
  | nil => exact ⟨[], .done, .nil⟩
  | cons m rest ih =>
      rcases hread : p.endpoint.read m.location x.peer with ⟨reply, s⟩
      obtain ⟨y, hrun, rfl⟩ := read_eq hread
      rw [readMetrics, run_then hrun]
      cases reply with
      | answer r =>
          obtain ⟨replies, reads, points⟩ := ih y
          have seen : ∀ point, metricPoint? now m r = some point ↔
              MetricSeen now m (.answer r :: replies) 0 point := by
            intro point
            exact metricSeen_answer.symm
          rcases hrest : StateT.run (p.readMetrics now rest) y with ⟨batch, z⟩
          rw [hrest] at reads points
          -- Whether there is a point is seen only after the others have been read.
          simp only [Reply.outcome]
          rw [run_then hrest]
          refine ⟨.answer r :: replies, ?_⟩
          cases hslot : metricPoint? now m r with
          | some point =>
              exact ⟨.next hread rfl reads, points.cons rfl seen rfl (by rw [hslot]; rfl)⟩
          | none => exact ⟨.next hread rfl reads, points.cons rfl seen rfl (by rw [hslot]; rfl)⟩
      | failed e =>
          by_cases he : e.isUnreachable = true
          · simp only [Reply.outcome, if_pos he]
            rw [run_note]
            exact ⟨[.failed e], .last hread he, .unreachable he⟩
          · have goesOn : (Reply.failed (α := Reading) e).endsBatch = false :=
              Bool.eq_false_iff.2 he
            simp only [Reply.outcome, if_neg he]
            rw [run_note]
            obtain ⟨replies, reads, points⟩ := ih { y with log := y.log ++ [_] }
            have unseen : ∀ point, none = some point ↔
                MetricSeen now m (.failed e :: replies) 0 point := by
              intro point
              exact iff_of_false (Option.some_ne_none point).symm not_metricSeen_failed
            refine ⟨.failed e :: replies, .next hread goesOn reads, ?_⟩
            exact points.cons goesOn unseen rfl rfl
      | broken => exact ⟨[.broken], .last hread rfl, .broken⟩

/-- A batch of metrics holds exactly those that can be read. -/
structure MetricBatch (p : Profile L σ) (now : UInt64) (ms : List (MetricInstance L)) (s : σ)
    (batch : Batch MetricPoint) (s' : σ) : Prop extends p.DecidedByOpening s batch s' where
  unreachable {f : Failure} {s₁ : σ} : p.Opens s (.error f) s₁ → f.isUnreachable = true →
    batch.ending = .ok () ∧ batch.points = []
  opened {s₁ : σ} : p.Opens s (.ok ()) s₁ → ∃ replies,
    Reads p.endpoint ms s₁ replies s' ∧ MetricPoints now ms replies batch

/-- Whatever an endpoint replies, a batch of metrics has no points unless it opens, and then a
point for each metric that was read with a number before the endpoint was lost. -/
theorem collectMetrics_exactlyReadable (p : Profile L σ) (now : UInt64)
    (ms : List (MetricInstance L)) (x : Exchange σ) :
    p.MetricBatch now ms x.peer (StateT.run (p.collectMetrics now ms) x).1
      (StateT.run (p.collectMetrics now ms) x).2.peer := by
  rw [collectMetrics_eq_whenOpen]
  have collected : ∀ e (y : Exchange σ),
      (StateT.run (p.readMetrics now ms) y).1.ending ≠ .error (.refused e) := by
    intro e y hending
    obtain ⟨replies, -, points⟩ := readMetrics_points p now ms y
    cases ((points.ending_iff _).1 hending).1
  refine ⟨decidedByOpening_whenOpen rfl collected, ?_, whenOpen_reads (readMetrics_points p now ms)⟩
  intro f s hopens hf
  rw [(run_whenOpen_stopped hopens).1, if_pos hf]
  exact ⟨rfl, rfl⟩

end Profile

end EndpointMonitor
