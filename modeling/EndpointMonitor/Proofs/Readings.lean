import Mathlib.Data.List.Forall2

/-!
# Readings that may fail

A reading that is put together from others has a result exactly if each of them has one. A list is
read member by member.
-/

namespace EndpointMonitor

variable {ε α β : Type} {x : Except ε α} {b : β}

theorem except_bind_eq_ok_iff {f : α → Except ε β} :
    x >>= f = .ok b ↔ ∃ a, x = .ok a ∧ f a = .ok b := by
  cases x <;> simp [bind, Except.bind]

theorem except_map_eq_ok_iff {f : α → β} : x.map f = .ok b ↔ ∃ a, x = .ok a ∧ f a = b := by
  cases x <;> simp [Except.map]

/-- A list is read member by member. -/
theorem mapM_eq_ok_iff {read : α → Except ε β} {as : List α} {bs : List β} :
    as.mapM read = .ok bs ↔ List.Forall₂ (fun a b => read a = .ok b) as bs := by
  induction as generalizing bs with
  | nil =>
      rw [List.mapM_nil, List.forall₂_nil_left_iff]
      exact ⟨fun h => by cases h; rfl, fun h => by rw [h]; rfl⟩
  | cons a as ih =>
      simp only [List.mapM_cons, except_bind_eq_ok_iff, List.forall₂_cons_left_iff, ih]
      constructor
      · rintro ⟨b, hb, rest, hrest, h⟩
        cases h
        exact ⟨b, rest, hb, hrest, rfl⟩
      · rintro ⟨b, rest, hb, hrest, rfl⟩
        exact ⟨b, hb, rest, hrest, rfl⟩

end EndpointMonitor
