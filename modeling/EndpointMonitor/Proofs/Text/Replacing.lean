import EndpointMonitor.Text.Split
import Mathlib.Data.List.Infix

/-!
# Replacing in a text

A replacement changes nothing but the occurrences of its target. What cannot be part of an
occurrence stays as it is and where it is: a text in front that lacks the first character of the
target, and a text behind that lacks the last one.
-/

namespace EndpointMonitor.Text

variable {target replacement cs : List Char} {c : Char}

@[simp] theorem replaceAll_nil (target replacement : List Char) :
    replaceAll target replacement [] = [] := by
  rw [replaceAll]

theorem replaceAll_append_target (h : target ≠ []) (cs : List Char) :
    replaceAll target replacement (target ++ cs) =
      replacement ++ replaceAll target replacement cs := by
  cases target with
  | nil => exact absurd rfl h
  | cons t target =>
      have hbegins : (t :: target).isPrefixOf (t :: (target ++ cs)) = true :=
        List.isPrefixOf_iff_prefix.2 ⟨cs, rfl⟩
      rw [List.cons_append, replaceAll, hbegins]
      simp

theorem replaceAll_cons (h : ¬ target <+: c :: cs) :
    replaceAll target replacement (c :: cs) = c :: replaceAll target replacement cs := by
  have hbegins : target.isPrefixOf (c :: cs) = false := by
    rwa [← Bool.not_eq_true, List.isPrefixOf_iff_prefix]
  rw [replaceAll, hbegins]
  simp

/-- Only a text with an occurrence of the target changes. -/
theorem replaceAll_eq_self (h : ¬ target <:+: cs) : replaceAll target replacement cs = cs := by
  induction cs with
  | nil => exact replaceAll_nil target replacement
  | cons c cs ih =>
      rw [List.infix_cons_iff, not_or] at h
      rw [replaceAll_cons h.1, ih h.2]

/-- An occurrence does not begin in a text without the first character of the target. -/
theorem replaceAll_append_left {before : List Char} (h : c ∉ before) (cs : List Char) :
    replaceAll (c :: target) replacement (before ++ cs) =
      before ++ replaceAll (c :: target) replacement cs := by
  induction before with
  | nil => rfl
  | cons b before ih =>
      rw [List.mem_cons, not_or] at h
      have hbegins : ¬ (c :: target) <+: b :: (before ++ cs) := by
        rw [List.cons_prefix_cons]
        exact fun hb => h.1 hb.1
      rw [List.cons_append, replaceAll_cons hbegins, ih h.2, List.cons_append]

/-- An occurrence does not end in a text without the last character of the target. -/
theorem prefix_append_right_iff {after : List Char} (h : c ∉ after) :
    target ++ [c] <+: cs ++ after ↔ target ++ [c] <+: cs := by
  constructor
  · rintro ⟨rest, hrest⟩
    rcases List.append_eq_append_iff.1 hrest with ⟨more, hcs, -⟩ | ⟨more, htarget, hafter⟩
    · exact ⟨more, hcs.symm⟩
    · rcases List.eq_nil_or_concat' more with rfl | ⟨front, d, rfl⟩
      · exact ⟨[], by simpa using htarget⟩
      · have hlast : c = d := by
          rw [← List.append_assoc] at htarget
          exact (List.append_inj' htarget rfl).2 |> List.singleton_inj.1
        rw [hafter, hlast] at h
        simp at h
  · exact fun hbegins => hbegins.trans (List.prefix_append cs after)

/-- A text is read from the left, an occurrence of the target at a time or else a character. -/
theorem scan_induction (h : target ≠ []) {motive : List Char → Prop} (nil : motive [])
    (occurrence : ∀ rest, motive rest → motive (target ++ rest))
    (other : ∀ c rest, ¬ target <+: c :: rest → motive rest → motive (c :: rest))
    (cs : List Char) : motive cs := by
  induction hn : cs.length using Nat.strong_induction_on generalizing cs with
  | _ n ih =>
      subst hn
      cases cs with
      | nil => exact nil
      | cons c cs =>
          by_cases hbegins : target <+: c :: cs
          · obtain ⟨rest, hrest⟩ := hbegins
            have hshort : rest.length < (c :: cs).length := by
              have := List.length_pos_iff.2 h
              rw [← hrest, List.length_append]
              omega
            rw [← hrest]
            exact occurrence rest (ih _ hshort rest rfl)
          · exact other c cs hbegins (ih _ (by simp) cs rfl)

theorem replaceAll_append_right {after : List Char} (h : c ∉ after) (cs : List Char) :
    replaceAll (target ++ [c]) replacement (cs ++ after) =
      replaceAll (target ++ [c]) replacement cs ++ after := by
  have hne : target ++ [c] ≠ [] := by simp
  induction cs using scan_induction hne with
  | nil =>
      have hnot : ¬ target ++ [c] <:+: after := fun hoccurs => h (hoccurs.subset (by simp))
      simp [replaceAll_eq_self hnot]
  | occurrence rest ih =>
      rw [List.append_assoc, replaceAll_append_target hne, replaceAll_append_target hne, ih,
        List.append_assoc]
  | other b rest hbegins ih =>
      have hlonger : ¬ target ++ [c] <+: b :: (rest ++ after) := by
        rwa [← List.cons_append, prefix_append_right_iff h]
      rw [List.cons_append, replaceAll_cons hlonger, replaceAll_cons hbegins, ih, List.cons_append]

/-! ### What a replacement adds -/

/-- A character that no occurrence takes away is there as often as before. -/
theorem count_le_replaceAll (hne : target ≠ []) (h : c ∉ target) (cs : List Char) :
    cs.count c ≤ (replaceAll target replacement cs).count c := by
  induction cs using scan_induction hne with
  | nil => simp
  | occurrence rest ih =>
      rw [replaceAll_append_target hne, List.count_append, List.count_append,
        List.count_eq_zero.2 h]
      omega
  | other b rest hbegins ih =>
      rw [replaceAll_cons hbegins, List.count_cons, List.count_cons]
      omega

/-- In a text with an occurrence, the replacement is found afterwards. -/
theorem count_le_of_occurs (replacement : List Char) (hne : target ≠ []) (c : Char)
    (hoccurs : target <:+: cs) :
    replacement.count c ≤ (replaceAll target replacement cs).count c := by
  induction cs using scan_induction hne with
  | nil => exact absurd (List.infix_nil.1 hoccurs) hne
  | occurrence rest ih =>
      rw [replaceAll_append_target hne, List.count_append]
      exact Nat.le_add_right _ _
  | other b rest hbegins ih =>
      rcases List.infix_cons_iff.1 hoccurs with hp | hoccurs
      · exact absurd hp hbegins
      · have hcount := ih hoccurs
        rw [replaceAll_cons hbegins, List.count_cons]
        omega

end EndpointMonitor.Text
