import EndpointMonitor.Proofs.Monitor.Discoveries
import EndpointMonitor.Proofs.Monitor.Scans

/-!
# What can happen to a monitor

A monitor is searched again and again, and between two scans and while it tells of one its
resources may be removed and its endpoint may change. What is true of a new graph, and kept by
removals and by the patches of the scans, is true of the resources at all times.
-/

namespace EndpointMonitor.Monitor

variable {L σ : Type} [Location L]

/-- What can happen to a monitor that is not scanning, and what a listener may do with it. The
endpoint is free to change, and so is all that a conversation leaves behind. -/
inductive Uses : Monitor L σ → Monitor L σ → Prop
  | refl (m) : Uses m m
  | removeCovered {m m'} (h : Uses m m') (now : UInt64) (query : L) :
      Uses m (m'.removeCovered now query).1
  | clear {m m'} (h : Uses m m') (now : UInt64) : Uses m (m'.clear now).1
  | converse {m m'} (h : Uses m m') (x : Exchange σ) : Uses m { m' with exchange := x }

/-- The monitors that runs lead to in which every scan finds only what is allowed. -/
inductive ReachedBy (allowed : Found L → Prop) : Monitor L σ → Prop
  | start (peer : σ) : ReachedBy allowed (start peer)
  | use {m m'} (h : ReachedBy allowed m) (h' : Uses m m') : ReachedBy allowed m'
  | discover {m} (h : ReachedBy allowed m) (p : Profile L σ) (depth : Nat) (now : UInt64)
      (τ : Type) (listen : Listener L σ τ) (t : τ) (hlisten : ∀ c m t, Uses m (listen c (m, t)).1)
      (hallowed : ∀ found, p.Finds depth m.exchange found → allowed found) :
      ReachedBy allowed (discover p depth now listen (m, t)).2.1

variable {m m' : Monitor L σ} {allowed : Found L → Prop} {I : ResourceGraph L → Prop}

theorem Uses.preserves (h : Uses m m') (hremove : ∀ {g} ids, I g → I (g.removeAll ids).1)
    (hm : I m.graph) : I m'.graph := by
  induction h with
  | refl => exact hm
  | removeCovered _ now query ih => exact hremove _ ih
  | clear _ now ih => exact hremove _ ih
  | converse _ x ih => exact ih

theorem ReachedBy.preserves (h : ReachedBy allowed m) (hempty : I {})
    (hremove : ∀ {g} ids, I g → I (g.removeAll ids).1)
    (hput : ∀ {g found}, I g → allowed found → ParentsFirst [] found.resources →
      I (Patch.ofFound g found).graph) : I m.graph := by
  induction h with
  | start peer => exact hempty
  | use _ h' ih => exact h'.preserves hremove ih
  | @discover m _ p depth now τ listen t hlisten hallowed ih =>
      rcases hrun : Monitor.discover p depth now listen (m, t) with ⟨f | report, m', t'⟩
      · rw [graph_discover_of_error hrun]
        exact ih
      · obtain ⟨-, found, hfinds, -, hm', -⟩ := discover_ok_cases hrun
        have hscanned : I (scanned p depth now m found).graph := by
          rw [graph_scanned]
          exact hput ih (hallowed found hfinds) (p.scanReady_parentsFirst depth hfinds)
        rw [hm']
        unfold announce
        split
        · exact hscanned
        · exact (hlisten _ _ _).preserves hremove hscanned

end EndpointMonitor.Monitor
