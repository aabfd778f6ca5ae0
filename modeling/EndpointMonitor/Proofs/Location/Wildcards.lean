import EndpointMonitor.Location.ManagementAddress
import EndpointMonitor.Location.ObjectName
import EndpointMonitor.Location.PlatformPath

/-!
# Values in place of wildcards

A location that a pattern covers has a value where the pattern has its first wildcard, and asking
for this value refuses every other location. Management addresses and object names see to it that
the location is covered. Platform paths look at one segment only, so they also answer for a path
that fits there and nowhere else.
-/

namespace EndpointMonitor

/-- Where the locations of a protocol have values. -/
structure Components (L : Type) where
  /-- The parts with a key and a value, in order. -/
  parts : L → List Segment
  /-- Whether a value stands for many values. -/
  isWild : String → Bool
  /-- The value that a location has in place of a part of another one, which is found behind some
  other parts. -/
  valueAt : L → List Segment → Segment → Option String

/-- The segments of a management address, by position. -/
def ManagementAddress.components : Components ManagementAddress where
  parts a := a.segments
  isWild value := value == Segment.wildcard
  valueAt a before _ := a.segments[before.length]?.map (·.value)

/-- The key properties of an object name, by key. -/
def ObjectName.components : Components ObjectName where
  parts n := n.properties
  isWild := ObjectName.isWild
  valueAt n _ p := n.property? p.key

/-- The segments of a platform path, by position. -/
def PlatformPath.components : Components PlatformPath where
  parts p := p.segments
  isWild value := value == Segment.wildcard
  valueAt p before _ := p.segments[before.length]?.map (·.value)

namespace Components

variable {L : Type} (c : Components L) {pattern single : L} {value : String}

/-- Some value of the pattern is a wildcard. -/
def HasWildcard (pattern : L) : Prop :=
  ∃ p ∈ c.parts pattern, c.isWild p.value = true

/-- The location has the value in place of the first wildcard of the pattern. -/
def AtFirstWildcard (pattern single : L) (value : String) : Prop :=
  ∃ before p after, c.parts pattern = before ++ p :: after ∧
    (∀ q ∈ before, c.isWild q.value = false) ∧ c.isWild p.value = true ∧
    c.valueAt single before p = some value

/-- Asking for the value in place of the wildcard finds it for the locations that the pattern
covers, if there is a wildcard, and refuses everything else. -/
structure Resolves [Location L] (pattern single : L) : Prop where
  found_iff : (∃ value, Location.findWildcard pattern single = .ok value) ↔
    Location.covers pattern single = true ∧ c.HasWildcard pattern
  value : ∀ value, Location.findWildcard pattern single = .ok value →
    c.AtFirstWildcard pattern single value
  mismatch : ¬ (Location.covers pattern single = true ∧ c.HasWildcard pattern) →
    Location.findWildcard pattern single =
      .error (.mismatch (Location.text single) (Location.text pattern))

variable {c}

/-- If there is a wildcard, there is a first one. -/
theorem HasWildcard.exists_first (h : c.HasWildcard pattern) :
    ∃ before p after, c.parts pattern = before ++ p :: after ∧
      (∀ q ∈ before, c.isWild q.value = false) ∧ c.isWild p.value = true := by
  obtain ⟨p, hp, hwild⟩ := h
  cases hfirst : (c.parts pattern).find? fun q => c.isWild q.value with
  | none => exact absurd hwild (by simpa using List.find?_eq_none.1 hfirst p hp)
  | some q =>
      obtain ⟨hq, before, after, hparts, hbefore⟩ := List.find?_eq_some_iff_append.1 hfirst
      exact ⟨before, q, after, hparts, fun r hr => by simpa using hbefore r hr, hq⟩

theorem AtFirstWildcard.hasWildcard (h : c.AtFirstWildcard pattern single value) :
    c.HasWildcard pattern := by
  obtain ⟨before, p, after, hparts, -, hwild, -⟩ := h
  exact ⟨p, by simp [hparts], hwild⟩

variable [Location L]

theorem findWildcard_eq_ok_iff : Location.findWildcard pattern single = .ok value ↔
    Location.wildcardValue pattern single = some value := by
  unfold Location.findWildcard
  cases Location.wildcardValue pattern single <;> simp

theorem findWildcard_eq_mismatch (h : Location.wildcardValue pattern single = none) :
    Location.findWildcard pattern single =
      .error (.mismatch (Location.text single) (Location.text pattern)) := by
  simp [Location.findWildcard, h]

/-- Where covered locations have values in place of all wildcards, the question is answered well
exactly if it finds the value of the covered locations and nothing else. -/
theorem resolves_iff (total : Location.covers pattern single = true → c.HasWildcard pattern →
      ∃ value, c.AtFirstWildcard pattern single value ∧
        Location.wildcardValue pattern single = some value) :
    c.Resolves pattern single ↔
      ∀ value, Location.wildcardValue pattern single = some value →
        Location.covers pattern single = true ∧ c.AtFirstWildcard pattern single value := by
  constructor
  · intro h value hvalue
    have hfound := findWildcard_eq_ok_iff.2 hvalue
    exact ⟨(h.found_iff.1 ⟨value, hfound⟩).1, h.value value hfound⟩
  · intro h
    have found : (∃ value, Location.findWildcard pattern single = .ok value) ↔
        Location.covers pattern single = true ∧ c.HasWildcard pattern := by
      constructor
      · rintro ⟨value, hfound⟩
        obtain ⟨hcovers, hat⟩ := h value (findWildcard_eq_ok_iff.1 hfound)
        exact ⟨hcovers, hat.hasWildcard⟩
      · rintro ⟨hcovers, hwild⟩
        obtain ⟨value, -, hvalue⟩ := total hcovers hwild
        exact ⟨value, findWildcard_eq_ok_iff.2 hvalue⟩
    refine ⟨found, fun value hfound => (h value (findWildcard_eq_ok_iff.1 hfound)).2, ?_⟩
    intro hnot
    apply findWildcard_eq_mismatch
    rw [Option.eq_none_iff_forall_ne_some]
    intro value hvalue
    exact hnot (found.1 ⟨value, findWildcard_eq_ok_iff.2 hvalue⟩)

end Components

/-! ### Paths -/

namespace Path

variable {ps ss : List Segment} {value : String}

/-- A path of segments is covered position by position. -/
theorem covers_of_append {before after : List Segment} {p : Segment}
    (h : covers (before ++ p :: after) ss = true) :
    ∃ s, ss[before.length]? = some s ∧ p.covers s = true := by
  induction before generalizing ss with
  | nil =>
      cases ss with
      | nil => simp [covers] at h
      | cons s ss => exact ⟨s, rfl, by simp_all [covers]⟩
  | cons q before ih =>
      cases ss with
      | nil => simp [covers] at h
      | cons s ss =>
          rw [List.cons_append, covers, Bool.and_eq_true] at h
          simpa using ih h.2

/-- The value is looked up at the position of the first wildcard, and taken if the key there is
the same. -/
theorem wildcardValue_eq_some_iff : wildcardValue ps ss = some value ↔
    ∃ before p after, ps = before ++ p :: after ∧ (∀ q ∈ before, q.isWild = false) ∧
      p.isWild = true ∧ ∃ s, ss[before.length]? = some s ∧ s.key = p.key ∧ s.value = value := by
  induction ps generalizing ss with
  | nil => simp [wildcardValue]
  | cons p ps ih =>
      cases ss with
      | nil => simp [wildcardValue]
      | cons s ss =>
          rw [wildcardValue]
          split
          · rename_i hwild
            constructor
            · intro h
              split at h
              · rename_i hkey
                exact ⟨[], p, ps, rfl, by simp, hwild, s, rfl, hkey.symm, by simpa using h⟩
              · cases h
            · rintro ⟨before, q, after, hps, hbefore, -, t, ht, hkey, hvalue⟩
              cases before with
              | nil => simp_all
              | cons r before => simp_all
          · rename_i hwild
            rw [ih]
            constructor
            · rintro ⟨before, q, after, rfl, hbefore, hq, t, ht, hkey⟩
              exact ⟨p :: before, q, after, rfl, by simpa [hwild] using hbefore, hq, t, by simpa,
                hkey⟩
            · rintro ⟨before, q, after, hps, hbefore, hq, t, ht, hkey⟩
              cases before with
              | nil => simp_all
              | cons r before =>
                  simp only [List.cons_append, List.cons.injEq] at hps
                  exact ⟨before, q, after, hps.2, fun x hx => hbefore x (by simp [hx]), hq, t,
                    by simpa using ht, hkey⟩

/-- The first wildcard of a path stands where the other path has a segment of the same key. -/
def FitsAtWildcard (ps ss : List Segment) : Prop :=
  ∃ before p after, ps = before ++ p :: after ∧ (∀ q ∈ before, q.isWild = false) ∧
    p.isWild = true ∧ ∃ s, ss[before.length]? = some s ∧ s.key = p.key

/-- A covered path has a value in place of the first wildcard. -/
theorem exists_of_covers {before after : List Segment} {p : Segment} (h : covers ps ss = true)
    (hps : ps = before ++ p :: after) (hbefore : ∀ q ∈ before, q.isWild = false)
    (hp : p.isWild = true) : ∃ value, ss[before.length]?.map (·.value) = some value ∧
      wildcardValue ps ss = some value := by
  obtain ⟨s, hs, hcovers⟩ := covers_of_append (hps ▸ h)
  have hkey : s.key = p.key := by
    simp only [Segment.covers, Bool.and_eq_true, beq_iff_eq] at hcovers
    exact hcovers.1.symm
  exact ⟨s.value, by simp [hs],
    wildcardValue_eq_some_iff.2 ⟨before, p, after, hps, hbefore, hp, s, hs, hkey, rfl⟩⟩

/-- The value that is found stands in place of the first wildcard. -/
theorem atFirst_of_wildcardValue (h : wildcardValue ps ss = some value) :
    ∃ before p after, ps = before ++ p :: after ∧ (∀ q ∈ before, q.isWild = false) ∧
      p.isWild = true ∧ ss[before.length]?.map (·.value) = some value := by
  obtain ⟨before, p, after, hps, hbefore, hp, s, hs, -, rfl⟩ := wildcardValue_eq_some_iff.1 h
  exact ⟨before, p, after, hps, hbefore, hp, by simp [hs]⟩

theorem exists_wildcardValue_iff : (∃ value, wildcardValue ps ss = some value) ↔
    FitsAtWildcard ps ss := by
  simp only [wildcardValue_eq_some_iff, FitsAtWildcard]
  constructor
  · rintro ⟨value, before, p, after, hps, hbefore, hp, s, hs, hkey, -⟩
    exact ⟨before, p, after, hps, hbefore, hp, s, hs, hkey⟩
  · rintro ⟨before, p, after, hps, hbefore, hp, s, hs, hkey⟩
    exact ⟨s.value, before, p, after, hps, hbefore, hp, s, hs, hkey, rfl⟩

end Path

/-! ### The three protocols -/

namespace ManagementAddress

/-- Management addresses resolve wildcards. -/
theorem resolves (pattern single : ManagementAddress) : components.Resolves pattern single := by
  have wildcardValue_eq_some_iff : ∀ value, Location.wildcardValue pattern single = some value ↔
      Location.covers pattern single = true ∧
        Path.wildcardValue pattern.segments single.segments = some value := by
    intro value
    change wildcardValue pattern single = some value ↔
      Path.covers pattern.segments single.segments = true ∧ _
    unfold wildcardValue
    split <;> simp [*]
  rw [Components.resolves_iff]
  · intro value h
    obtain ⟨hcovers, hvalue⟩ := (wildcardValue_eq_some_iff value).1 h
    exact ⟨hcovers, Path.atFirst_of_wildcardValue hvalue⟩
  · intro hcovers hwild
    obtain ⟨before, p, after, hparts, hbefore, hp⟩ := hwild.exists_first
    obtain ⟨value, hat, hvalue⟩ := Path.exists_of_covers hcovers hparts hbefore hp
    exact ⟨value, ⟨before, p, after, hparts, hbefore, hp, hat⟩,
      (wildcardValue_eq_some_iff value).2 ⟨hcovers, hvalue⟩⟩

end ManagementAddress

namespace ObjectName

variable {pattern single : ObjectName}

/-- A name that is covered has the properties of the pattern. -/
theorem exists_property?_of_covers (h : covers pattern single = true) {p : Segment}
    (hp : p ∈ pattern.properties) : ∃ value, single.property? p.key = some value := by
  simp only [covers, propertiesCover, Bool.and_eq_true, List.all_eq_true] at h
  have hproperty := h.2 p hp
  split at hproperty
  · rename_i value hvalue
    exact ⟨value, hvalue⟩
  · cases hproperty

/-- Object names resolve wildcards. -/
theorem resolves (pattern single : ObjectName) : components.Resolves pattern single := by
  have wildcardValue_eq_some_iff : ∀ value, Location.wildcardValue pattern single = some value ↔
      Location.covers pattern single = true ∧
        components.AtFirstWildcard pattern single value := by
    intro value
    change wildcardValue pattern single = some value ↔ covers pattern single = true ∧ _
    unfold wildcardValue
    split
    · rename_i hcovers
      simp only [hcovers, true_and, Option.bind_eq_some_iff, List.find?_eq_some_iff_append,
        Bool.not_eq_eq_eq_not, Bool.not_true]
      constructor
      · rintro ⟨p, ⟨hp, before, after, hparts, hbefore⟩, hvalue⟩
        exact ⟨before, p, after, hparts, hbefore, hp, hvalue⟩
      · rintro ⟨before, p, after, hparts, hbefore, hp, hvalue⟩
        exact ⟨p, ⟨hp, before, after, hparts, hbefore⟩, hvalue⟩
    · simp [*]
  rw [Components.resolves_iff]
  · exact fun value => (wildcardValue_eq_some_iff value).1
  · intro hcovers hwild
    obtain ⟨before, p, after, hparts, hbefore, hp⟩ := hwild.exists_first
    have hmem : p ∈ pattern.properties := by
      change pattern.properties = _ at hparts
      simp [hparts]
    obtain ⟨value, hvalue⟩ := exists_property?_of_covers hcovers hmem
    have hat : components.AtFirstWildcard pattern single value :=
      ⟨before, p, after, hparts, hbefore, hp, hvalue⟩
    exact ⟨value, hat, (wildcardValue_eq_some_iff value).2 ⟨hcovers, hat⟩⟩

end ObjectName

namespace PlatformPath

variable {pattern single : PlatformPath}

/-- Platform paths resolve wildcards exactly if no path fits at the first wildcard alone. -/
theorem resolves_iff : components.Resolves pattern single ↔
    (Path.FitsAtWildcard pattern.segments single.segments →
      Location.covers pattern single = true) := by
  rw [Components.resolves_iff]
  · rw [← Path.exists_wildcardValue_iff]
    constructor
    · rintro h ⟨value, hvalue⟩
      exact (h value hvalue).1
    · intro h value hvalue
      exact ⟨h ⟨value, hvalue⟩, Path.atFirst_of_wildcardValue hvalue⟩
  · intro hcovers hwild
    obtain ⟨before, p, after, hparts, hbefore, hp⟩ := hwild.exists_first
    obtain ⟨value, hat, hvalue⟩ := Path.exists_of_covers hcovers hparts hbefore hp
    exact ⟨value, ⟨before, p, after, hparts, hbefore, hp, hat⟩, hvalue⟩

end PlatformPath

/-- Management addresses and object names resolve wildcards. Platform paths do so exactly if the
path is covered or does not fit where the first wildcard stands. -/
theorem Location.wildcards_resolved_iff (m s : ManagementAddress) (n t : ObjectName)
    (p q : PlatformPath) :
    ManagementAddress.components.Resolves m s ∧ ObjectName.components.Resolves n t ∧
      (PlatformPath.components.Resolves p q ↔
        (Path.FitsAtWildcard p.segments q.segments → Location.covers p q = true)) :=
  ⟨ManagementAddress.resolves m s, ObjectName.resolves n t, PlatformPath.resolves_iff⟩

/-- The processor of another host is taken for one of this host. -/
theorem PlatformPath.not_resolves_otherHost :
    let pattern : PlatformPath := ⟨[⟨"Operating System", "x"⟩, ⟨"Processor", "*"⟩]⟩
    let single : PlatformPath := ⟨[⟨"Operating System", "y"⟩, ⟨"Processor", "3"⟩]⟩
    Location.isPattern pattern = true ∧ Location.isPattern single = false ∧
      Location.covers pattern single = false ∧
      Location.findWildcard pattern single = .ok "3" ∧
      ¬ components.Resolves pattern single := by
  intro pattern single
  have apart : Location.covers pattern single = false := by decide
  have found : Location.findWildcard pattern single = .ok "3" :=
    Components.findWildcard_eq_ok_iff.2 (by decide)
  refine ⟨by decide, by decide, apart, found, ?_⟩
  intro h
  have covered := (h.found_iff.1 ⟨"3", found⟩).1
  rw [apart] at covered
  cases covered

end EndpointMonitor
