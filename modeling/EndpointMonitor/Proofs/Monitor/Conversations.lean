import EndpointMonitor.Endpoint.Conversation
import Mathlib.Data.List.Forall2

/-!
# What a conversation leads to

A conversation meets a condition if it does so from every state of the endpoint in which some
invariant holds, and keeps the invariant. Conditions are put together along the questions. On an
endpoint whose answers do not change, the outcome of every conversation is settled beforehand.
-/

namespace EndpointMonitor

/-- Every conversation opens alike, and within it every question has one answer. Some states are
those between conversations, and some of these those within one. -/
structure Endpoint.Steady {L σ : Type} (e : Endpoint L σ) (between within : σ → Prop) :
    Prop where
  closes : ∀ s, within s → between s
  connect : ∃ reply, ∀ s, between s → (e.connect s).1 = reply ∧ within (e.connect s).2
  nodes : ∀ query, ∃ reply, ∀ s, within s → (e.nodes query s).1 = reply ∧
    within (e.nodes query s).2
  hasAttribute : ∀ location, ∃ reply, ∀ s, within s →
    (e.hasAttribute location s).1 = reply ∧ within (e.hasAttribute location s).2
  read : ∀ location, ∃ reply, ∀ s, within s →
    (e.read location s).1 = reply ∧ within (e.read location s).2

/-- How a conversation goes on after a reply. -/
def Reply.outcome {α : Type} : Reply α → Except Breakdown (Except AccessError α)
  | .answer a => .ok (.ok a)
  | .failed e => .ok (.error e)
  | .broken => .error .broken

namespace Conversation

variable {L σ α β : Type} {inv : σ → Prop}

/-- From every state within an invariant, what a conversation yields and what cuts it short are
as expected, and the invariant is kept. -/
def Meets (inv : σ → Prop) (c : Conversation σ α) (yields : α → Prop) (cuts : Breakdown → Prop) :
    Prop :=
  ∀ x : Exchange σ, inv x.peer → inv (c.run x).2.peer ∧
    (∀ a, (c.run x).1 = .ok a → yields a) ∧ ∀ b, (c.run x).1 = .error b → cuts b

section Rules

variable {c : Conversation σ α} {P P' : α → Prop} {Q : β → Prop}
  {E E' : Breakdown → Prop}

theorem Meets.weaken (h : Meets inv c P E) (hP : ∀ a, P a → P' a) (hE : ∀ b, E b → E' b) :
    Meets inv c P' E' := by
  intro x hx
  obtain ⟨hinv, hok, hcut⟩ := h x hx
  exact ⟨hinv, fun a ha => hP a (hok a ha), fun b hb => hE b (hcut b hb)⟩

theorem Meets.imp (h : Meets inv c P E) (hP : ∀ a, P a → P' a) : Meets inv c P' E :=
  h.weaken hP fun _ hb => hb

theorem meets_pure {a : α} (ha : P a) : Meets inv (pure a) P E := by
  intro x hx
  refine ⟨hx, ?_, ?_⟩
  · rintro b ⟨⟩
    exact ha
  · rintro b ⟨⟩

theorem meets_throw {b : Breakdown} (hb : E b) :
    Meets inv (throw b : Conversation σ α) P E := by
  intro x hx
  refine ⟨hx, ?_, ?_⟩
  · rintro a ⟨⟩
  · rintro d ⟨⟩
    exact hb

theorem run_bind (c : Conversation σ α) (k : α → Conversation σ β) (x : Exchange σ) :
    (c >>= k).run x =
      match c.run x with
      | (.ok a, y) => (k a).run y
      | (.error b, y) => (.error b, y) := by
  change (ExceptT.bindCont k (c.run x).1) (c.run x).2 = _
  rcases c.run x with ⟨a | b, y⟩ <;> rfl

theorem Meets.bind {k : α → Conversation σ β} (hc : Meets inv c P E)
    (hk : ∀ a, P a → Meets inv (k a) Q E) : Meets inv (c >>= k) Q E := by
  intro x hx
  obtain ⟨hinv, hok, hcut⟩ := hc x hx
  rw [run_bind]
  rcases hrun : c.run x with ⟨a | a, y⟩
  · rw [hrun] at hinv hcut
    refine ⟨hinv, ?_, ?_⟩
    · rintro b ⟨⟩
    · rintro b ⟨⟩
      exact hcut a rfl
  · rw [hrun] at hinv hok
    exact hk a (hok a rfl) y hinv

theorem meets_report (level : LogLevel) (message : String) :
    Meets inv (report level message : Conversation σ Unit) (fun _ => True) E := by
  intro x hx
  refine ⟨hx, fun _ _ => trivial, ?_⟩
  rintro b ⟨⟩

/-- What the parts for the members of a list yield is as expected of each member. -/
theorem meets_each_map {ι : Type} {R : ι → α → Prop} {part : β → Conversation σ α} {f : ι → β}
    {l : List ι} (h : ∀ i ∈ l, Meets inv (part (f i)) (R i) E) :
    Meets inv (each part (l.map f)) (List.Forall₂ R l) E := by
  induction l with
  | nil => exact meets_pure .nil
  | cons i rest ih =>
      refine (h i List.mem_cons_self).bind fun a ha => ?_
      refine (ih fun j hj => h j (List.mem_cons_of_mem _ hj)).bind fun as has => ?_
      exact meets_pure (.cons ha has)

theorem meets_each_forall₂ {R : β → α → Prop} {part : β → Conversation σ α} {bs : List β}
    (h : ∀ b ∈ bs, Meets inv (part b) (R b) E) :
    Meets inv (each part bs) (List.Forall₂ R bs) E := by
  have mapped := meets_each_map (f := fun b => b) h
  rwa [List.map_id'] at mapped

theorem meets_each {part : β → Conversation σ α} {bs : List β}
    (h : ∀ b ∈ bs, Meets inv (part b) P E) :
    Meets inv (each part bs) (fun as => ∀ a ∈ as, P a) E := by
  refine (meets_each_forall₂ (R := fun _ => P) h).imp fun as has => ?_
  induction has with
  | nil => simp
  | cons ha _ ih =>
      exact List.forall_mem_cons.2 ⟨ha, ih fun d hd => h d (List.mem_cons_of_mem _ hd)⟩

end Rules

section Questions

variable {P : Except AccessError α → Prop} {E : Breakdown → Prop}

theorem run_contact (question : σ → Reply α × σ) (x : Exchange σ) :
    ((contact question).run x).1 = (question x.peer).1.outcome ∧
      ((contact question).run x).2.peer = (question x.peer).2 := by
  unfold contact
  rw [ExceptT.run_mk]
  split <;> rename_i h <;> rw [h] <;> exact ⟨rfl, rfl⟩

theorem run_ask (protocol : String) (question : σ → Reply α × σ) (x : Exchange σ) :
    ((ask protocol question).run x).1 = (question x.peer).1.outcome ∧
      ((ask protocol question).run x).2.peer = (question x.peer).2 := by
  obtain ⟨hreply, hpeer⟩ := run_contact question x
  rw [ask, run_bind]
  rcases hrun : (contact question).run x with ⟨b | reply, y⟩
  · rw [hrun] at hreply hpeer
    exact ⟨hreply, hpeer⟩
  · rw [hrun] at hreply hpeer
    exact ⟨hreply, hpeer⟩

theorem meets_contact {question : σ → Reply α × σ}
    (h : ∀ s, inv s → inv (question s).2 ∧ (∀ a, (question s).1.outcome = .ok a → P a) ∧
      ∀ b, (question s).1.outcome = .error b → E b) :
    Meets inv (contact question) P E := by
  intro x hx
  obtain ⟨hreply, hpeer⟩ := run_contact question x
  rw [hreply, hpeer]
  exact h x.peer hx

theorem meets_ask {protocol : String} {question : σ → Reply α × σ}
    (h : ∀ s, inv s → inv (question s).2 ∧ (∀ a, (question s).1.outcome = .ok a → P a) ∧
      ∀ b, (question s).1.outcome = .error b → E b) :
    Meets inv (ask protocol question) P E := by
  intro x hx
  obtain ⟨hreply, hpeer⟩ := run_ask protocol question x
  rw [hreply, hpeer]
  exact h x.peer hx

end Questions

section Parts

/-- A property that a conversation has if its parts have it. -/
structure Composes (P : ∀ {α : Type}, Conversation σ α → Prop) : Prop where
  pure {α : Type} (a : α) : P (pure a : Conversation σ α)
  report (level : LogLevel) (message : String) : P (report level message)
  bind {α β : Type} {c : Conversation σ α} {k : α → Conversation σ β} (hc : P c)
    (hk : ∀ a, P (k a)) : P (c >>= k)

theorem Composes.each {P : ∀ {α : Type}, Conversation σ α → Prop} (h : Composes P)
    {part : β → Conversation σ α} (hpart : ∀ b, P (part b)) (bs : List β) :
    P (each part bs) := by
  induction bs with
  | nil => exact h.pure []
  | cons b rest ih => exact h.bind (hpart b) fun a => h.bind ih fun as => h.pure (a :: as)

end Parts

section Settled

/-- Within an invariant, a conversation has one outcome. -/
def Settled (inv : σ → Prop) (c : Conversation σ α) : Prop :=
  ∃ outcome : Except Breakdown α, Meets inv c (outcome = .ok ·) (outcome = .error ·)

variable {c : Conversation σ α}

theorem Settled.outcome_eq (h : Settled inv c) {x y : Exchange σ} (hx : inv x.peer)
    (hy : inv y.peer) : (c.run x).1 = (c.run y).1 := by
  obtain ⟨outcome, h⟩ := h
  have fixed : ∀ x : Exchange σ, inv x.peer → (c.run x).1 = outcome := by
    intro x hx
    obtain ⟨-, hok, hcut⟩ := h x hx
    cases hrun : (c.run x).1 with
    | ok a => exact (hok a hrun).symm
    | error b => exact (hcut b hrun).symm
  rw [fixed x hx, fixed y hy]

theorem Settled.keeps (h : Settled inv c) {x : Exchange σ} (hx : inv x.peer) :
    inv (c.run x).2.peer := by
  obtain ⟨outcome, h⟩ := h
  exact (h x hx).1

theorem settled_pure (a : α) : Settled inv (pure a : Conversation σ α) :=
  ⟨.ok a, meets_pure rfl⟩

theorem settled_throw (b : Breakdown) : Settled inv (throw b : Conversation σ α) :=
  ⟨.error b, meets_throw rfl⟩

theorem settled_report (level : LogLevel) (message : String) :
    Settled inv (report level message : Conversation σ Unit) :=
  ⟨.ok (), (meets_report level message).imp fun _ _ => rfl⟩

theorem Settled.bind {k : α → Conversation σ β} (hc : Settled inv c)
    (hk : ∀ a, Settled inv (k a)) : Settled inv (c >>= k) := by
  obtain ⟨a | a, hc⟩ := hc
  · have hcut : Meets inv c (fun _ => False) ((.error a : Except Breakdown β) = .error ·) :=
      hc.weaken (fun _ h => by cases h) fun _ h => by cases h; rfl
    exact ⟨.error a, hcut.bind fun _ h => h.elim⟩
  · obtain ⟨outcome, hk⟩ := hk a
    refine ⟨outcome, (hc.weaken (fun _ h => h) (by simp)).bind ?_⟩
    rintro _ ⟨⟩
    exact hk

theorem composes_settled : Composes (Settled inv) where
  pure := settled_pure
  report := settled_report
  bind := Settled.bind

variable {question : σ → Reply α × σ}

/-- The outcome of a conversation is settled once its opening is, and all that follows. -/
theorem settled_contact_bind {between : σ → Prop} {k : Except AccessError α → Conversation σ β}
    (h : ∃ reply, ∀ s, between s → (question s).1 = reply ∧ inv (question s).2)
    (closes : ∀ s, inv s → between s) (hk : ∀ a, Settled inv (k a)) :
    Settled between (contact question >>= k) := by
  obtain ⟨reply, h⟩ := h
  have opened : ∀ x : Exchange σ, between x.peer →
      ((contact question).run x).1 = reply.outcome ∧ inv ((contact question).run x).2.peer := by
    intro x hx
    obtain ⟨hreply, hpeer⟩ := run_contact question x
    obtain ⟨heq, hinv⟩ := h x.peer hx
    rw [hreply, hpeer, heq]
    exact ⟨rfl, hinv⟩
  cases hout : reply.outcome with
  | error b =>
      refine ⟨.error b, fun x hx => ?_⟩
      obtain ⟨hrun, hinv⟩ := opened x hx
      rw [run_bind]
      rcases heq : (contact question).run x with ⟨r, y⟩
      rw [heq] at hrun hinv
      cases hrun.trans hout
      exact ⟨closes _ hinv, fun _ h => h, fun _ h => h⟩
  | ok a =>
      obtain ⟨outcome, hk⟩ := hk a
      refine ⟨outcome, fun x hx => ?_⟩
      obtain ⟨hrun, hinv⟩ := opened x hx
      rw [run_bind]
      rcases heq : (contact question).run x with ⟨r, y⟩
      rw [heq] at hrun hinv
      cases hrun.trans hout
      obtain ⟨hend, hok, hcut⟩ := hk y hinv
      exact ⟨closes _ hend, hok, hcut⟩

theorem settled_ask (protocol : String)
    (h : ∃ reply, ∀ s, inv s → (question s).1 = reply ∧ inv (question s).2) :
    Settled inv (ask protocol question) := by
  obtain ⟨reply, h⟩ := h
  refine ⟨reply.outcome, meets_ask fun s hs => ?_⟩
  obtain ⟨hreply, hinv⟩ := h s hs
  rw [hreply]
  exact ⟨hinv, fun _ h => h, fun _ h => h⟩

end Settled

end Conversation

end EndpointMonitor
