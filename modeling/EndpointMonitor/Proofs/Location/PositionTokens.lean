import EndpointMonitor.Location.ManagementAddress
import Mathlib.Data.List.Infix
import Mathlib.Data.List.TakeWhile

/-!
# Tokens without an end

The templates of management addresses also have tokens for the parts of an address by position,
for its last part and for the name of the endpoint, and only a percent sign tells where one begins.
So any percent sign can open a token, depending on what follows it: `50%` is a text for itself, but
not where `1` follows.
-/

namespace EndpointMonitor.ManagementAddress

variable {args : List (List Char)} {endpoint cs rest before value : List Char}

/-- What is behind a percent sign can be completed to a token that has a value. -/
def OpensToken (rest : List Char) : Prop :=
  rest.head? = some '-' ∨ bareToken <+: rest ∨ rest <+: bareToken ∨
    rest.takeWhile Char.isDigit ≠ [] ∧
      (rest.takeWhile Char.isDigit = rest ∨ Radix.digitsToNat (rest.takeWhile Char.isDigit) ≠ 0)

/-- A text that no context makes a token of. -/
structure Inert (cs : List Char) : Prop where
  single : cs.count '%' ≤ 1
  closed : ∀ rest, '%' :: rest <:+ cs → ¬ OpensToken rest

@[simp] theorem substitutePositions_nil : substitutePositions args endpoint [] = [] := by
  rw [substitutePositions]

/-- A text without percent signs stays as it is. -/
theorem substitutePositions_append (h : '%' ∉ before) (cs : List Char) :
    substitutePositions args endpoint (before ++ cs) =
      before ++ substitutePositions args endpoint cs := by
  induction before with
  | nil => rfl
  | cons c before ih =>
      rw [List.mem_cons, not_or] at h
      have hother : c = '%' → False := fun hc => h.1 hc.symm
      rw [List.cons_append, substitutePositions.eq_3 _ _ _ _ hother, ih h.2, List.cons_append]

theorem substitutePositions_eq_self (h : '%' ∉ cs) :
    substitutePositions args endpoint cs = cs := by
  have happend : substitutePositions args endpoint (cs ++ []) =
      cs ++ substitutePositions args endpoint [] := substitutePositions_append h []
  simpa using happend

/-! ### The tokens -/

/-- Digits that no digit follows are a position. -/
theorem substitutePositions_position {ds : List Char} (hne : ds ≠ [])
    (hds : ∀ d ∈ ds, d.isDigit = true) (hrest : ∀ c, rest.head? = some c → c.isDigit = false) :
    substitutePositions args endpoint ('%' :: (ds ++ rest)) =
      (argument? args (Radix.digitsToNat ds)).getD ('%' :: ds) ++
        substitutePositions args endpoint rest := by
  have hstop : rest.takeWhile Char.isDigit = [] := by
    cases rest with
    | nil => rfl
    | cons c rest => simp [hrest c rfl]
  have htake : (ds ++ rest).takeWhile Char.isDigit = ds := by
    rw [List.takeWhile_append_of_pos hds, hstop, List.append_nil]
  rw [substitutePositions.eq_2, htake]
  simp [hne]

theorem substitutePositions_last : substitutePositions args endpoint ('%' :: '-' :: rest) =
    args.getLast?.getD [] ++ substitutePositions args endpoint rest := by
  rw [substitutePositions.eq_2]
  simp [show Char.isDigit '-' = false by decide]

theorem substitutePositions_bare : substitutePositions args endpoint ('%' :: (bareToken ++ rest)) =
    endpoint ++ substitutePositions args endpoint rest := by
  have hbegins : bareToken.isPrefixOf (bareToken ++ rest) = true :=
    List.isPrefixOf_iff_prefix.2 (List.prefix_append _ _)
  have hdigit : (bareToken ++ rest).takeWhile Char.isDigit = [] := rfl
  have hhead : (bareToken ++ rest).head? = some 'M' := rfl
  rw [substitutePositions.eq_2, hdigit, hhead, hbegins]
  simp

/-- A percent sign that opens no token stays. -/
theorem substitutePositions_percent (hdigit : rest.takeWhile Char.isDigit = [])
    (hlast : rest.head? ≠ some '-') (hbare : ¬ bareToken <+: rest) :
    substitutePositions args endpoint ('%' :: rest) =
      '%' :: substitutePositions args endpoint rest := by
  have hbegins : bareToken.isPrefixOf rest = false := by
    rwa [← Bool.not_eq_true, List.isPrefixOf_iff_prefix]
  rw [substitutePositions.eq_2, hdigit, hbegins]
  simp [hlast]

theorem digits_append (rest : List Char) :
    ∃ more, rest = rest.takeWhile Char.isDigit ++ more ∧
      (∀ d ∈ rest.takeWhile Char.isDigit, d.isDigit = true) ∧
      ∀ c, more.head? = some c → c.isDigit = false := by
  refine ⟨rest.dropWhile Char.isDigit, List.takeWhile_append_dropWhile.symm,
    fun d hd => List.mem_takeWhile_imp hd, fun c hc => ?_⟩
  have hne : rest.dropWhile Char.isDigit ≠ [] := by
    rintro hnil
    simp [hnil] at hc
  have hhead := List.head_dropWhile_not Char.isDigit hne
  rwa [List.head_eq_iff_head?_eq_some hne |>.2 hc] at hhead

/-- No token has an `x`, so none is lost. -/
theorem count_le_substitutePositions (args : List (List Char)) (endpoint cs : List Char) :
    cs.count 'x' ≤ (substitutePositions args endpoint cs).count 'x' := by
  induction cs using substitutePositions.induct with
  | case1 => simp
  | case2 rest ds hds ih =>
      obtain ⟨more, hrest, hdigits, hmore⟩ := digits_append rest
      change rest = ds ++ more at hrest
      have hne : ds ≠ [] := by simpa using hds
      have hcount : ds.count 'x' = 0 := by
        rw [List.count_eq_zero]
        intro hx
        exact absurd (hdigits _ hx) (by decide)
      rw [hrest, List.drop_left] at ih
      rw [hrest, substitutePositions_position hne hdigits hmore]
      simp only [List.count_append, List.count_cons, hcount]
      simp
      omega
  | case3 rest ds hds hlast ih =>
      obtain ⟨more, rfl⟩ := List.head?_eq_some_iff.1 hlast
      rw [substitutePositions_last]
      simp at ih ⊢
      omega
  | case4 rest ds hds hlast hbare ih =>
      obtain ⟨more, rfl⟩ := List.isPrefixOf_iff_prefix.1 hbare
      rw [List.drop_left] at ih
      have hcount : bareToken.count 'x' = 0 := by decide
      rw [substitutePositions_bare]
      simp [hcount]
      omega
  | case5 rest ds hds hlast hbare ih =>
      rw [List.isPrefixOf_iff_prefix] at hbare
      have hnone : rest.takeWhile Char.isDigit = [] := by
        change ds = []
        simpa using hds
      rw [substitutePositions_percent hnone hlast hbare]
      simpa using ih
  | case6 c rest hc ih =>
      rw [substitutePositions.eq_3 _ _ _ _ hc, List.count_cons, List.count_cons]
      omega

/-! ### Inert texts -/

/-- Where a token can be completed, one value of the address and the endpoint is found in the
result, whichever it is. -/
theorem OpensToken.exists_completion (h : OpensToken rest) :
    ∃ after, '%' ∉ after ∧ 'x' ∉ after ∧ ∃ position : ℕ, ∀ (args : List (List Char)) value,
      args[position]? = some value → args.getLast? = some value →
        value <+: substitutePositions args value ('%' :: (rest ++ after)) := by
  have position_of : ∀ ds more : List Char, ds ≠ [] → (∀ d ∈ ds, d.isDigit = true) →
      (∀ c, more.head? = some c → c.isDigit = false) → Radix.digitsToNat ds ≠ 0 →
      ∀ (args : List (List Char)) value, args[Radix.digitsToNat ds - 1]? = some value →
        value <+: substitutePositions args value ('%' :: (ds ++ more)) := by
    intro ds more hne hds hmore hpositive args value hvalue
    rw [substitutePositions_position hne hds hmore, argument?, if_neg hpositive, hvalue,
      Option.getD_some]
    exact List.prefix_append _ _
  rcases h with hlast | ⟨more, rfl⟩ | ⟨after, hafter⟩ | ⟨hne, hnumber⟩
  · obtain ⟨more, rfl⟩ := List.head?_eq_some_iff.1 hlast
    refine ⟨[], by simp, by simp, 0, fun args value _ hvalue => ?_⟩
    rw [List.append_nil, substitutePositions_last, hvalue, Option.getD_some]
    exact List.prefix_append _ _
  · refine ⟨[], by simp, by simp, 0, fun args value _ _ => ?_⟩
    rw [List.append_nil, substitutePositions_bare]
    exact List.prefix_append _ _
  · have hsub : ∀ c ∈ after, c ∈ bareToken := fun c hc => by simp [← hafter, hc]
    refine ⟨after, fun hc => absurd (hsub _ hc) (by decide),
      fun hc => absurd (hsub _ hc) (by decide), 0, fun args value _ _ => ?_⟩
    rw [hafter, ← List.append_nil bareToken, substitutePositions_bare]
    exact List.prefix_append _ _
  · obtain ⟨more, hrest, hdigits, hmore⟩ := digits_append rest
    by_cases hzero : Radix.digitsToNat (rest.takeWhile Char.isDigit) = 0
    · -- The digits make no position, so they are all there is, and a further one makes it.
      have hall : rest.takeWhile Char.isDigit = rest := by simpa [hzero] using hnumber
      rw [hall] at hne hdigits hzero
      have hone : Radix.digitsToNat (rest ++ ['1']) ≠ 0 := by
        simp [Radix.digitsToNat, List.foldl_append]
      have hdigits' : ∀ d ∈ rest ++ ['1'], d.isDigit = true := by
        intro d hd
        rcases List.mem_append.1 hd with hd | hd
        · exact hdigits d hd
        · rw [List.mem_singleton.1 hd]
          decide
      refine ⟨['1'], by simp, by simp, Radix.digitsToNat (rest ++ ['1']) - 1,
        fun args value hvalue _ => ?_⟩
      simpa using position_of (rest ++ ['1']) [] (by simp) hdigits' (by simp) hone args value hvalue
    · refine ⟨[], by simp, by simp, Radix.digitsToNat (rest.takeWhile Char.isDigit) - 1,
        fun args value hvalue _ => ?_⟩
      rw [List.append_nil, hrest]
      exact position_of _ more hne hdigits hmore hzero args value hvalue

/-- What cannot be completed to a token stays as it is. -/
theorem substitutePositions_of_closed {after : List Char} (h : ¬ OpensToken rest)
    (hrest : '%' ∉ rest) (hafter : '%' ∉ after) :
    substitutePositions args endpoint ('%' :: (rest ++ after)) = '%' :: (rest ++ after) := by
  simp only [OpensToken, not_or, not_and, not_not] at h
  obtain ⟨hlast, hbare, hopen, hnumber⟩ := h
  have hne : rest ≠ [] := fun hnil => hopen (hnil ▸ List.nil_prefix)
  have hself : substitutePositions args endpoint (rest ++ after) = rest ++ after :=
    substitutePositions_eq_self (by simp [hrest, hafter])
  by_cases hdigit : rest.takeWhile Char.isDigit = []
  · have hstop : (rest ++ after).takeWhile Char.isDigit = [] := by
      cases rest with
      | nil => exact absurd rfl hne
      | cons c rest => simpa [List.takeWhile_cons] using hdigit
    rw [substitutePositions_percent hstop _ _, hself]
    · rwa [List.head?_append_of_ne_nil _ hne]
    · intro hbegins
      rcases List.prefix_or_prefix_of_prefix hbegins (List.prefix_append rest after) with h | h
      · exact hbare h
      · exact hopen h
  · obtain ⟨more, hmore, hdigits, hhead⟩ := digits_append rest
    obtain ⟨hother, hzero⟩ := hnumber hdigit
    have hmore_ne : more ≠ [] := by
      rintro rfl
      exact hother (by simpa using hmore.symm)
    have hhead' : ∀ c, (more ++ after).head? = some c → c.isDigit = false := by
      rwa [List.head?_append_of_ne_nil _ hmore_ne]
    have hrest' : rest ++ after = rest.takeWhile Char.isDigit ++ (more ++ after) := by
      rw [← List.append_assoc, ← hmore]
    have hself' : substitutePositions args endpoint (more ++ after) = more ++ after := by
      have hsuffix : more <:+ rest := ⟨_, hmore.symm⟩
      exact substitutePositions_eq_self fun hmem =>
        (List.mem_append.1 hmem).elim (fun hmem => hrest (hsuffix.subset hmem)) hafter
    have hnone : argument? args (Radix.digitsToNat (rest.takeWhile Char.isDigit)) = none := by
      rw [argument?, if_pos hzero]
    rw [hrest', substitutePositions_position hdigit hdigits hhead', hnone, hself',
      Option.getD_none, List.cons_append]

/-- An inert text stays as it is between any two others without percent signs. -/
theorem Inert.substitutePositions_eq (h : Inert cs) {a b : List Char} (ha : '%' ∉ a)
    (hb : '%' ∉ b) : substitutePositions args endpoint (a ++ cs ++ b) = a ++ cs ++ b := by
  by_cases hcs : '%' ∈ cs
  · obtain ⟨front, rest, rfl, hfront⟩ := List.eq_append_cons_of_mem hcs
    have hrest : '%' ∉ rest := by
      have hsingle := h.single
      simp only [List.count_append, List.count_cons_self, List.count_eq_zero.2 hfront] at hsingle
      exact List.count_eq_zero.1 (by omega)
    have hsplit : a ++ (front ++ '%' :: rest) ++ b = (a ++ front) ++ '%' :: (rest ++ b) := by simp
    rw [hsplit, substitutePositions_append (by simp [ha, hfront]),
      substitutePositions_of_closed (h.closed rest (List.suffix_append _ _)) hrest hb]
  · exact substitutePositions_eq_self (by simp [ha, hcs, hb])

end EndpointMonitor.ManagementAddress
