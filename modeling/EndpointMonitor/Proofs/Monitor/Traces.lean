import EndpointMonitor.Proofs.Monitor.Histories
import EndpointMonitor.Proofs.Monitor.SharedMonitor

/-!
# What a discovery leaves behind when it fails

A conversation counts requests and writes lines, whatever is asked in it and however it ends.
So a discovery that fails while it searches leaves nothing else, and the next one may start.
-/

namespace EndpointMonitor

/-- All counters but those of the requests. -/
def Diagnostics.withoutRequests (d : Diagnostics) : Diagnostics :=
  { d with protocols := ∅ }

namespace Conversation

variable {L σ α β : Type}

/-- Whatever comes of a conversation, it counts requests only. -/
def CountsRequests (c : Conversation σ α) : Prop :=
  ∀ x : Exchange σ, (c.run x).2.diagnostics.withoutRequests = x.diagnostics.withoutRequests

theorem countsRequests_pure (a : α) : CountsRequests (pure a : Conversation σ α) :=
  fun _ => rfl

theorem countsRequests_throw (b : Breakdown) : CountsRequests (throw b : Conversation σ α) :=
  fun _ => rfl

theorem countsRequests_report (level : LogLevel) (message : String) :
    CountsRequests (report level message : Conversation σ Unit) :=
  fun _ => rfl

theorem CountsRequests.bind {c : Conversation σ α} {k : α → Conversation σ β}
    (hc : CountsRequests c) (hk : ∀ a, CountsRequests (k a)) : CountsRequests (c >>= k) := by
  intro x
  have first := hc x
  rw [run_bind]
  rcases hrun : c.run x with ⟨b | a, y⟩
  · rw [hrun] at first
    exact first
  · rw [hrun] at first
    exact (hk a y).trans first

theorem composes_countsRequests :
    Composes (CountsRequests : ∀ {α : Type}, Conversation σ α → Prop) where
  pure := countsRequests_pure
  report := countsRequests_report
  bind := CountsRequests.bind

theorem countsRequests_contact (question : σ → Reply α × σ) :
    CountsRequests (contact question) := by
  intro x
  unfold contact
  rw [ExceptT.run_mk]
  split <;> rfl

theorem countsRequests_ask (protocol : String) (question : σ → Reply α × σ) :
    CountsRequests (ask protocol question) :=
  (countsRequests_contact question).bind fun _ =>
    CountsRequests.bind (fun _ => rfl) fun _ => countsRequests_pure _

end Conversation

namespace Profile

open Conversation

variable {L σ : Type} (p : Profile L σ)

theorem countsRequests_asked (e : Endpoint L σ) : Asked CountsRequests e where
  nodes _ := countsRequests_ask _ _
  hasAttribute _ := countsRequests_ask _ _
  read _ := countsRequests_ask _ _

theorem countsRequests_openReady : CountsRequests (openReady p) := by
  refine (countsRequests_contact _).bind fun reply => ?_
  cases reply with
  | error e => exact countsRequests_pure _
  | ok _ => exact awaitNodes_of_parts composes_countsRequests (countsRequests_asked _) p.waitFor

/-- A scan counts requests only, however it ends. -/
theorem countsRequests_scanReady [Location L] (depth : Nat) :
    CountsRequests (scanReady p depth) := by
  refine (countsRequests_openReady p).bind fun ready => ?_
  cases ready with
  | error e => exact countsRequests_pure _
  | ok _ =>
      exact (scan_of_parts composes_countsRequests (countsRequests_asked _)
        (countsRequests_throw _) depth).bind fun _ => countsRequests_pure _

end Profile

namespace Monitor

variable {L σ τ : Type} [Location L]

/-- Nothing but the exchange tells two monitors apart, and there nothing but the log, the state
of the endpoint and the requests that were counted. -/
structure Untraced (m m' : Monitor L σ) : Prop where
  graph : m'.graph = m.graph
  metrics : m'.metrics = m.metrics
  avails : m'.avails = m.avails
  scanning : m'.scanning = m.scanning
  counters : m'.exchange.diagnostics.withoutRequests = m.exchange.diagnostics.withoutRequests

namespace Untraced

variable {m m' : Monitor L σ}

omit [Location L] in
theorem shared_eq (h : Untraced m m') : m'.shared = m.shared := by
  simp [shared, h.graph, h.metrics, h.avails]

omit [Location L] in
theorem scans_eq (h : Untraced m m') :
    m'.exchange.diagnostics.scans = m.exchange.diagnostics.scans := by
  have scans := congrArg Diagnostics.scans h.counters
  exact scans

end Untraced

theorem untraced_search (p : Profile L σ) (depth : Nat) (m : Monitor L σ) :
    Untraced m (search p depth m).2 := by
  have counters := Profile.countsRequests_scanReady p depth m.exchange
  unfold search
  rcases hrun : (p.scanReady depth).run m.exchange with ⟨b | e | found, y⟩
  all_goals
    rw [hrun] at counters
    exact ⟨rfl, rfl, rfl, rfl, counters⟩

theorem search_ne_inProgress (p : Profile L σ) (depth : Nat) (m : Monitor L σ) (name : String) :
    (search p depth m).1 ≠ .error (.refused (.scanInProgress name)) := by
  have whole := p.meets_scanReady (Profile.consulted_any trivial) (p.meets_scan depth)
  obtain ⟨-, ready, -⟩ := whole m.exchange trivial
  unfold search
  rcases hrun : (p.scanReady depth).run m.exchange with ⟨b | e | found, y⟩
  · simp
  · rw [hrun] at ready
    intro heq
    cases heq
    exact (ready _ rfl).1 name rfl
  · simp

theorem Uses.scanning_eq {m m' : Monitor L σ} (h : Uses m m') : m'.scanning = m.scanning := by
  induction h with
  | refl => rfl
  | removeCovered _ now query ih => exact ih
  | clear _ now ih => exact ih
  | converse _ x ih => exact ih

section Discover

variable {p : Profile L σ} {depth : Nat} {now : UInt64} {listen : Listener L σ τ}
  {m : Monitor L σ} {t : τ}

theorem discover_of_scanning (h : m.scanning = true) :
    discover p depth now listen (m, t) =
      (.error (.refused (.scanInProgress p.name)), m, t) := by
  simp [discover, h]

/-- A discovery without a report leaves nothing behind and tells nobody. -/
theorem untraced_discover_of_error {f : Failure} {m' : Monitor L σ} {t' : τ}
    (h : discover p depth now listen (m, t) = (.error f, m', t')) :
    Untraced m m' ∧ t' = t := by
  cases hidle : m.scanning with
  | true =>
      rw [discover_of_scanning hidle] at h
      cases h
      exact ⟨⟨rfl, rfl, rfl, rfl, rfl⟩, rfl⟩
  | false =>
      have untraced := untraced_search p depth { m with scanning := true }
      unfold discover at h
      rcases hsearch : search p depth { m with scanning := true } with ⟨e | found, m₁⟩
      · simp only [hidle, hsearch, Bool.false_eq_true, if_false] at h
        rw [hsearch] at untraced
        cases h
        exact ⟨⟨untraced.graph, untraced.metrics, untraced.avails, hidle.symm,
          untraced.counters⟩, rfl⟩
      · simp only [hidle, hsearch, Bool.false_eq_true, if_false] at h
        cases h

/-- A discovery that may start does start, and however it ends the next one may. -/
theorem discover_ends (h : m.scanning = false) :
    (discover p depth now listen (m, t)).2.1.scanning = false ∧
      ∀ name,
        (discover p depth now listen (m, t)).1 ≠ .error (.refused (.scanInProgress name)) := by
  have started := search_ne_inProgress p depth { m with scanning := true }
  unfold discover
  rcases hsearch : search p depth { m with scanning := true } with ⟨e | found, m₁⟩
  · rw [hsearch] at started
    simp only [h, hsearch, Bool.false_eq_true, if_false]
    exact ⟨trivial, fun name heq => started name (by cases heq; rfl)⟩
  · simp only [h, hsearch, Bool.false_eq_true, if_false]
    exact ⟨trivial, by simp⟩

/-- A discovery that fails leaves no trace, and none is ever in the way of the next. -/
structure Contained (p : Profile L σ) (depth : Nat) (now : UInt64) (listen : Listener L σ τ)
    (m : Monitor L σ) (t : τ) : Prop where
  /-- Without a report there is no trace, and the listener was not told. -/
  failed {f m' t'} : discover p depth now listen (m, t) = (.error f, m', t') →
    Untraced m m' ∧ t' = t
  /-- While another is under way it is refused. -/
  refused : m.scanning = true →
    discover p depth now listen (m, t) = (.error (.refused (.scanInProgress p.name)), m, t)
  /-- It is under way until the listener returns, whatever he does with the monitor. -/
  reentered {found m'} : p.Finds depth m.exchange found →
    Uses (scanned p depth now m found) m' → ∀ depth' now' (listen' : Listener L σ τ) t',
      discover p depth' now' listen' (m', t') =
        (.error (.refused (.scanInProgress p.name)), m', t')
  /-- Otherwise it is not refused, and however it ends the next one is not either. -/
  ends : m.scanning = false → (discover p depth now listen (m, t)).2.1.scanning = false ∧
    ∀ name, (discover p depth now listen (m, t)).1 ≠ .error (.refused (.scanInProgress name))

theorem scanning_scanned (p : Profile L σ) (depth : Nat) (now : UInt64) (m : Monitor L σ)
    (found : Found L) : (scanned p depth now m found).scanning = true := by
  unfold scanned adopt
  split <;> rfl

/-- A scan that comes to its end is counted once. -/
theorem scans_scanned (p : Profile L σ) (depth : Nat) (now : UInt64) (m : Monitor L σ)
    (found : Found L) : (scanned p depth now m found).exchange.diagnostics.scans =
      m.exchange.diagnostics.scans + 1 := by
  have counters := congrArg Diagnostics.scans (p.countsRequests_scanReady depth m.exchange)
  have scans : ((p.scanReady depth).run m.exchange).2.diagnostics.scans =
      m.exchange.diagnostics.scans := counters
  rw [← scans]
  unfold scanned adopt
  split <;> rfl

theorem contained_discover (p : Profile L σ) (depth : Nat) (now : UInt64)
    (listen : Listener L σ τ) (m : Monitor L σ) (t : τ) :
    Contained p depth now listen m t where
  failed := untraced_discover_of_error
  refused := discover_of_scanning
  reentered _ huses _ _ _ _ :=
    discover_of_scanning (huses.scanning_eq.trans (scanning_scanned p depth now m _))
  ends := discover_ends

end Discover

end Monitor

end EndpointMonitor
