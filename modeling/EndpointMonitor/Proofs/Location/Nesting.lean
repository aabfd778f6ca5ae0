import EndpointMonitor.Location.ManagementAddress
import EndpointMonitor.Location.PlatformPath
import Mathlib.Data.List.Forall2
import Mathlib.Logic.Equiv.Defs

/-!
# How paths are nested

Management addresses and platform paths are lists of segments. To resolve one against another is
to append it, a pattern addresses the paths of its own length that it allows segment by segment,
and it lies above the longer ones that begin with such a path. What follows from this is stated
once, for all locations that are lists of segments.
-/

namespace EndpointMonitor

namespace Segment

variable {p q s : Segment}

theorem covers_iff :
    p.covers s = true ↔ p.key = s.key ∧ (p.value = wildcard ∨ p.value = s.value) := by
  simp [covers, isWild]

/-- A wildcard that is allowed is allowed by a wildcard only. -/
theorem covers_trans (h : p.covers q = true) (h' : q.covers s = true) : p.covers s = true := by
  obtain ⟨hkey, hvalue⟩ := covers_iff.1 h
  obtain ⟨hkey', hvalue'⟩ := covers_iff.1 h'
  refine covers_iff.2 ⟨hkey.trans hkey', ?_⟩
  rcases hvalue with hwild | heq
  · exact .inl hwild
  · rwa [heq]

theorem covers_antisymm (h : p.covers q = true) (h' : q.covers p = true) : p = q := by
  obtain ⟨hkey, hvalue⟩ := covers_iff.1 h
  obtain ⟨-, hvalue'⟩ := covers_iff.1 h'
  have hvalues : p.value = q.value := by
    rcases hvalue with hwild | heq
    · rcases hvalue' with hwild' | heq'
      · rw [hwild, hwild']
      · exact heq'.symm
    · exact heq
  cases p
  cases q
  simp_all

end Segment

namespace Path

variable {ps qs ss : List Segment}

theorem covers_iff : covers ps ss = true ↔ List.Forall₂ (fun p s => p.covers s = true) ps ss := by
  induction ps generalizing ss with
  | nil => cases ss <;> simp [covers]
  | cons p ps ih => cases ss <;> simp [covers, ih]

theorem length_eq_of_covers (h : covers ps ss = true) : ps.length = ss.length :=
  (covers_iff.1 h).length_eq

theorem covers_trans (h : covers ps qs = true) (h' : covers qs ss = true) :
    covers ps ss = true := by
  rw [covers_iff] at h h' ⊢
  induction h generalizing ss with
  | nil => exact h'
  | cons hp _ ih =>
      cases h' with
      | cons hs hrest => exact .cons (Segment.covers_trans hp hs) (ih hrest)

theorem covers_antisymm (h : covers ps ss = true) (h' : covers ss ps = true) : ps = ss := by
  rw [covers_iff] at h h'
  induction h with
  | nil => rfl
  | cons hp _ ih =>
      cases h' with
      | cons hs hrest => rw [Segment.covers_antisymm hp hs, ih hrest]

/-- A pattern in two parts addresses the paths in two parts that these address. -/
theorem covers_append_iff : covers (ps ++ qs) ss = true ↔
    ∃ front back, ss = front ++ back ∧ covers ps front = true ∧ covers qs back = true := by
  simp only [covers_iff]
  constructor
  · intro h
    refine ⟨ss.take ps.length, ss.drop ps.length, (List.take_append_drop _ _).symm, ?_, ?_⟩
    · simpa using List.forall₂_take ps.length h
    · simpa using List.forall₂_drop ps.length h
  · rintro ⟨front, back, rfl, hfront, hback⟩
    exact List.rel_append hfront hback

theorem isAbove_iff : isAbove ps ss = true ↔
    ∃ front back, ss = front ++ back ∧ back ≠ [] ∧ covers ps front = true := by
  induction ps generalizing ss with
  | nil =>
      cases ss with
      | nil => simp [isAbove]
      | cons s ss => exact iff_of_true rfl ⟨[], s :: ss, rfl, by simp, rfl⟩
  | cons p ps ih =>
      cases ss with
      | nil => simp [isAbove]
      | cons s ss =>
          simp only [isAbove, Bool.and_eq_true, ih]
          constructor
          · rintro ⟨hs, front, back, rfl, hback, hfront⟩
            exact ⟨s :: front, back, rfl, hback, by simp [covers, hs, hfront]⟩
          · rintro ⟨front, back, hss, hback, hfront⟩
            cases front with
            | nil => simp [covers] at hfront
            | cons t front =>
                obtain ⟨rfl, rfl⟩ := List.cons.inj hss
                simp only [covers, Bool.and_eq_true] at hfront
                exact ⟨hfront.1, front, back, rfl, hback, hfront.2⟩

theorem length_lt_of_isAbove (h : isAbove ps ss = true) : ps.length < ss.length := by
  obtain ⟨front, back, rfl, hback, hfront⟩ := isAbove_iff.1 h
  rw [List.length_append, length_eq_of_covers hfront]
  have := List.length_pos_iff.2 hback
  omega

@[simp] theorem isAbove_self (path : List Segment) : isAbove path path = false :=
  Bool.eq_false_iff.2 fun h => Nat.lt_irrefl _ (length_lt_of_isAbove h)

theorem isAbove_trans (h : isAbove ps qs = true) (h' : isAbove qs ss = true) :
    isAbove ps ss = true := by
  obtain ⟨front, back, rfl, -, hfront⟩ := isAbove_iff.1 h
  obtain ⟨whole, rest, rfl, hrest, hwhole⟩ := isAbove_iff.1 h'
  obtain ⟨first, second, rfl, hfirst, -⟩ := covers_append_iff.1 hwhole
  exact isAbove_iff.2 ⟨first, second ++ rest, List.append_assoc .., by simp [hrest],
    covers_trans hfront hfirst⟩

end Path

namespace Location

/-- Locations that are lists of segments, and are resolved and compared as such. -/
structure PathView (L : Type) [Location L] where
  segments : L ≃ List Segment
  segments_root : segments root = []
  segments_absolutize : ∀ a b, segments (absolutize a b) = segments a ++ segments b
  covers_eq : ∀ a b, covers a b = Path.covers (segments a) (segments b)
  isAbove_eq : ∀ a b, isAbove a b = Path.isAbove (segments a) (segments b)

namespace PathView

variable {L : Type} [Location L] (v : PathView L) {a b c : L}

theorem absolutize_eq_iff : c = absolutize a b ↔ v.segments c = v.segments a ++ v.segments b := by
  rw [← v.segments_absolutize, v.segments.apply_eq_iff_eq]

theorem segments_eq_nil_iff : v.segments a = [] ↔ a = root := by
  rw [← v.segments_root, v.segments.apply_eq_iff_eq]

/-- A path in two parts is a location resolved against another. -/
theorem exists_absolutize_iff {P : List Segment → List Segment → Prop} :
    (∃ front back, v.segments c = front ++ back ∧ P front back) ↔
      ∃ a b, c = absolutize a b ∧ P (v.segments a) (v.segments b) := by
  constructor
  · rintro ⟨front, back, hc, hP⟩
    refine ⟨v.segments.symm front, v.segments.symm back, ?_, ?_⟩
    · simpa [v.absolutize_eq_iff] using hc
    · simpa using hP
  · rintro ⟨a, b, hc, hP⟩
    exact ⟨_, _, v.absolutize_eq_iff.1 hc, hP⟩

include v

theorem absolutize_assoc (a b c : L) :
    absolutize (absolutize a b) c = absolutize a (absolutize b c) := by
  simp [v.absolutize_eq_iff, v.segments_absolutize]

theorem root_absolutize (a : L) : absolutize root a = a :=
  (v.absolutize_eq_iff.2 (by simp [v.segments_root])).symm

theorem absolutize_root (a : L) : absolutize a root = a :=
  (v.absolutize_eq_iff.2 (by simp [v.segments_root])).symm

theorem covers_self (a : L) : covers a a = true := by
  rw [v.covers_eq, Path.covers_self]

theorem covers_trans (h : covers a b = true) (h' : covers b c = true) : covers a c = true := by
  rw [v.covers_eq] at h h' ⊢
  exact Path.covers_trans h h'

theorem covers_antisymm (h : covers a b = true) (h' : covers b a = true) : a = b := by
  rw [v.covers_eq] at h h'
  exact v.segments.injective (Path.covers_antisymm h h')

theorem covers_absolutize_iff : covers (absolutize a b) c = true ↔
    ∃ d e, c = absolutize d e ∧ covers a d = true ∧ covers b e = true := by
  simp only [v.covers_eq, v.segments_absolutize, Path.covers_append_iff, v.exists_absolutize_iff]

theorem isAbove_iff : isAbove a c = true ↔
    ∃ d e, c = absolutize d e ∧ e ≠ root ∧ covers a d = true := by
  simp only [v.isAbove_eq, v.covers_eq, Path.isAbove_iff, v.exists_absolutize_iff,
    ← v.segments_eq_nil_iff, ne_eq]

theorem isAbove_trans (h : isAbove a b = true) (h' : isAbove b c = true) : isAbove a c = true := by
  rw [v.isAbove_eq] at h h' ⊢
  exact Path.isAbove_trans h h'

theorem isAbove_self (a : L) : isAbove a a = false := by
  rw [v.isAbove_eq, Path.isAbove_self]

/-- What is found below a location with a pattern that is not empty lies below it. -/
theorem isAbove_of_covers (h : covers (absolutize a b) c = true) (hb : b ≠ root) :
    isAbove a c = true := by
  obtain ⟨d, e, rfl, hd, he⟩ := v.covers_absolutize_iff.1 h
  refine v.isAbove_iff.2 ⟨d, e, rfl, ?_, hd⟩
  rintro rfl
  rw [v.covers_eq, v.segments_root] at he
  have hlength := Path.length_eq_of_covers he
  exact hb (v.segments_eq_nil_iff.1 (List.length_eq_zero_iff.1 hlength))

end PathView

end Location

/-- Management addresses are paths. -/
def ManagementAddress.pathView : Location.PathView ManagementAddress where
  segments := ⟨ManagementAddress.segments, ManagementAddress.mk, fun _ => rfl, fun _ => rfl⟩
  segments_root := rfl
  segments_absolutize _ _ := rfl
  covers_eq _ _ := rfl
  isAbove_eq _ _ := rfl

/-- Platform paths are paths. -/
def PlatformPath.pathView : Location.PathView PlatformPath where
  segments := ⟨PlatformPath.segments, PlatformPath.mk, fun _ => rfl, fun _ => rfl⟩
  segments_root := rfl
  segments_absolutize _ _ := rfl
  covers_eq _ _ := rfl
  isAbove_eq _ _ := rfl

end EndpointMonitor
