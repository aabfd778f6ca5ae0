import Mathlib.Data.Set.Finite.List
import Mathlib.Logic.Relation

/-!
# Runs of a system

A system is given by what its steps do, each with what happens in it. A run is a list of steps
one after the other. What is true at its start and kept by every step is true at its end. Among
finitely many states, steps that never lead back come to an end.
-/

namespace EndpointMonitor

variable {S T A B : Type}

/-- Steps one after the other, with what happens in them. -/
inductive Runs (step : S → A → S → Prop) (s : S) : List A → S → Prop
  | start : Runs step s [] s
  | snoc {acts act s' s''} (run : Runs step s acts s') (next : step s' act s'') :
      Runs step s (acts ++ [act]) s''

/-- Some steps lead from one state to another. -/
def Reaches (step : S → A → S → Prop) : S → S → Prop :=
  Relation.ReflTransGen fun s s' => ∃ act, step s act s'

variable {step : S → A → S → Prop} {s s' s'' : S} {acts : List A}

namespace Reaches

theorem refl (s : S) : Reaches step s s :=
  Relation.ReflTransGen.refl

theorem single {act : A} (h : step s act s') : Reaches step s s' :=
  Relation.ReflTransGen.single ⟨act, h⟩

theorem tail {act : A} (h : Reaches step s s') (next : step s' act s'') : Reaches step s s'' :=
  Relation.ReflTransGen.tail h ⟨act, next⟩

theorem trans (h : Reaches step s s') (h' : Reaches step s' s'') : Reaches step s s'' :=
  Relation.ReflTransGen.trans h h'

/-- The steps of a part are steps of the whole. -/
theorem lift {step' : T → B → T → Prop} (f : S → T)
    (hstep : ∀ s act s', step s act s' → ∃ act', step' (f s) act' (f s'))
    (h : Reaches step s s') : Reaches step' (f s) (f s') :=
  Relation.ReflTransGen.lift f (fun s s' ⟨act, next⟩ => hstep s act s' next) s s' h

end Reaches

namespace Runs

/-- What is true of the acts so far and of the state, and kept by every step, stays true. -/
theorem keeps {I : List A → S → Prop} (run : Runs step s acts s') (h : I [] s)
    (hstep : ∀ {acts act s s'}, I acts s → step s act s' → I (acts ++ [act]) s') :
    I acts s' := by
  induction run with
  | start => exact h
  | snoc _ next ih => exact hstep ih next

/-- What is true of the state and kept by every step stays true. -/
theorem preserves {I : S → Prop} (run : Runs step s acts s') (h : I s)
    (hstep : ∀ {act s s'}, I s → step s act s' → I s') : I s' :=
  run.keeps (I := fun _ s => I s) h hstep

/-- A run goes on wherever its end leads. -/
theorem extend (run : Runs step s acts s') (h : Reaches step s' s'') :
    ∃ acts', Runs step s (acts ++ acts') s'' := by
  induction h with
  | refl => exact ⟨[], by simpa using run⟩
  | tail _ next ih =>
      obtain ⟨acts', run'⟩ := ih
      obtain ⟨act, next⟩ := next
      exact ⟨acts' ++ [act], by simpa using run'.snoc next⟩

end Runs

/-- A relation among the members of a list that leads from nothing back to itself is
well-founded. -/
theorem wellFounded_of_loopless {r : S → S → Prop} {l : List S}
    (listed : ∀ {a b}, r a b → a ∈ l ∧ b ∈ l) (loopless : ∀ a, ¬ Relation.TransGen r a a) :
    WellFounded r := by
  let below (a b : {s // s ∈ l}) : Prop := Relation.TransGen r a.1 b.1
  have trans : IsTrans _ below := ⟨fun _ _ _ hab hbc => hab.trans hbc⟩
  have irrefl : Std.Irrefl below := ⟨fun a => loopless a.1⟩
  have finite : Finite {s // s ∈ l} := List.finite_toSet l
  have wf : WellFounded below := Finite.wellFounded_of_trans_of_irrefl below
  have accessible : ∀ a : {s // s ∈ l}, Acc r a.1 := by
    intro a
    induction a using wf.induction with
    | _ b ih => exact .intro b.1 fun c hc => ih ⟨c, (listed hc).1⟩ (.single hc)
  exact ⟨fun b => .intro b fun a hab => accessible ⟨a, (listed hab).1⟩⟩

end EndpointMonitor
