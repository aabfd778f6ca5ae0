import EndpointMonitor.Proofs.Readings
import EndpointMonitor.Proofs.ResourceType.KeptTypes
import EndpointMonitor.Settings.TypeSets

/-!
# Names of measurements

Reading a configured type keeps the names of its measurements, and building a type graph leaves out
those that are too frequent. Names of types must differ, but not those of the measurements of one
type.
-/

namespace EndpointMonitor

/-- Members that agree in what is asked of them and in their names leave the same names. -/
theorem map_filter_eq_of_forall₂ {α β : Type} {R : α → β → Prop} {as : List α} {bs : List β}
    {p : α → Bool} {q : β → Bool} {name : α → String} {name' : β → String}
    (h : List.Forall₂ R as bs) (same : ∀ a b, R a b → p a = q b ∧ name a = name' b) :
    (as.filter p).map name = (bs.filter q).map name' := by
  induction h with
  | nil => rfl
  | @cons a b as bs hab _ ih =>
      obtain ⟨hkept, hname⟩ := same a b hab
      rw [List.filter_cons, List.filter_cons, hkept]
      split
      · rw [List.map_cons, List.map_cons, hname, ih]
      · exact ih

theorem exists_of_mem_of_forall₂ {α β : Type} {R : α → β → Prop} {as : List α} {bs : List β}
    (h : List.Forall₂ R as bs) {a : α} (ha : a ∈ as) : ∃ b ∈ bs, R a b := by
  induction h with
  | nil => cases ha
  | @cons c b _ _ hcb _ ih =>
      rcases List.mem_cons.1 ha with rfl | ha
      · exact ⟨b, List.mem_cons_self, hcb⟩
      · obtain ⟨d, hd, had⟩ := ih ha
        exact ⟨d, List.mem_cons_of_mem _ hd, had⟩

/-- The names of the measurements of a type that are collected. -/
def MeasurementType.collectedNames {L D : Type} (ts : List (MeasurementType L D)) : List String :=
  (ts.filter (·.enabled)).map (·.name)

/-- The collected measurements of the type have different names, in each kind. -/
structure ResourceType.NamesTell {L : Type} (t : ResourceType L) : Prop where
  metrics : (MeasurementType.collectedNames t.metrics).Nodup
  avails : (MeasurementType.collectedNames t.avails).Nodup

/-- Whether a metric is collected: it is switched on and not too frequent. -/
def MetricSetting.isCollected (minMillis : UInt64) (m : MetricSetting) : Bool :=
  m.enabled && decide (minMillis ≤ (Interval.mk m.interval m.timeUnits).millis)

/-- Whether an availability is collected: it is switched on and not too frequent. -/
def AvailSetting.isCollected (minMillis : UInt64) (a : AvailSetting) : Bool :=
  a.enabled && decide (minMillis ≤ (Interval.mk a.interval a.timeUnits).millis)

/-- The collected measurements of a configured type have different names, in each kind. -/
structure ResourceTypeSetting.NamesTell (minMillis : UInt64) (t : ResourceTypeSetting) : Prop where
  metrics : ((t.metrics.filter (·.isCollected minMillis)).map (·.name)).Nodup
  avails : ((t.avails.filter (·.isCollected minMillis)).map (·.name)).Nodup

variable {L : Type} [Location L] {minMillis : UInt64}

namespace ResourceTypeSetting

/-- What was read has the name of its setting, and measurements like those of the setting. -/
theorem toType_eq_ok {t : ResourceTypeSetting} {type : ResourceType L}
    (h : t.toType = .ok type) : type.name = t.name ∧
      List.Forall₂ (fun m read => m.toType = .ok read) t.metrics type.metrics ∧
      List.Forall₂ (fun a read => a.toType = .ok read) t.avails type.avails := by
  simp only [toType, except_bind_eq_ok_iff] at h
  obtain ⟨location, -, metrics, hmetrics, avails, havails, properties, -, h⟩ := h
  cases h
  exact ⟨rfl, mapM_eq_ok_iff.1 hmetrics, mapM_eq_ok_iff.1 havails⟩

/-- The names are told apart in the type that is read exactly if they are in the setting. -/
theorem namesTell_iff {t : ResourceTypeSetting} {type : ResourceType L} (h : t.toType = .ok type) :
    (type.withoutShortIntervals minMillis).NamesTell ↔ t.NamesTell minMillis := by
  obtain ⟨-, hmetrics, havails⟩ := toType_eq_ok h
  have metrics : MeasurementType.collectedNames
      (type.metrics.filter fun m => minMillis ≤ m.interval.millis) =
        (t.metrics.filter (·.isCollected minMillis)).map (·.name) := by
    rw [MeasurementType.collectedNames, List.filter_filter]
    refine (map_filter_eq_of_forall₂ hmetrics fun m read hread => ?_).symm
    obtain ⟨attr, -, rfl⟩ := except_map_eq_ok_iff.1 hread
    exact ⟨rfl, rfl⟩
  have avails : MeasurementType.collectedNames
      (type.avails.filter fun a => minMillis ≤ a.interval.millis) =
        (t.avails.filter (·.isCollected minMillis)).map (·.name) := by
    rw [MeasurementType.collectedNames, List.filter_filter]
    refine (map_filter_eq_of_forall₂ havails fun a read hread => ?_).symm
    simp only [AvailSetting.toType, except_bind_eq_ok_iff] at hread
    obtain ⟨upPattern, -, attr, -, hread⟩ := hread
    cases hread
    exact ⟨rfl, rfl⟩
  exact ⟨fun h => ⟨metrics ▸ h.metrics, avails ▸ h.avails⟩,
    fun h => ⟨metrics.symm ▸ h.metrics, avails.symm ▸ h.avails⟩⟩

end ResourceTypeSetting

/-- What was read has the name and the switch of its setting, and its types in order. -/
theorem TypeSetSetting.toTypeSet_eq_ok {s : TypeSetSetting} {set : TypeSet L}
    (h : s.toTypeSet = .ok set) : set.name = s.name ∧ set.enabled = s.enabled ∧
      List.Forall₂ (fun t type => t.toType = .ok type) s.resourceTypes set.types := by
  obtain ⟨types, htypes, rfl⟩ := except_map_eq_ok_iff.1 h
  exact ⟨rfl, rfl, mapM_eq_ok_iff.1 htypes⟩

namespace TypeGraph

variable {settings : List TypeSetSetting} {sets : List (TypeSet L)} {use : Option (List String)}
  {g : TypeGraph L}

/-- The types of the enabled sets in use are those that were read from enabled settings in use. -/
theorem offered_iff_read (hread : settings.mapM TypeSetSetting.toTypeSet = .ok sets)
    (type : ResourceType L) : Offered sets use type ↔
      ∃ s ∈ settings, s.enabled = true ∧ (∀ names, use = some names → s.name ∈ names) ∧
        ∃ t ∈ s.resourceTypes, t.toType = .ok type := by
  have hsets := mapM_eq_ok_iff.1 hread
  have inUse_iff : ∀ {s : TypeSetSetting} {set : TypeSet L}, set.name = s.name →
      (set.isInUse use = true ↔ ∀ names, use = some names → s.name ∈ names) := by
    intro s set hname
    simp only [TypeSet.isInUse, hname]
    cases use <;> simp
  constructor
  · rintro ⟨set, hset, huse, hon, htype⟩
    obtain ⟨s, hs, hsread⟩ := exists_of_mem_of_forall₂ (List.Forall₂.flip (R := flip _) hsets) hset
    obtain ⟨hname, henabled, htypes⟩ := TypeSetSetting.toTypeSet_eq_ok hsread
    obtain ⟨t, ht, htread⟩ :=
      exists_of_mem_of_forall₂ (List.Forall₂.flip (R := flip _) htypes) htype
    exact ⟨s, hs, henabled ▸ hon, (inUse_iff hname).1 huse, t, ht, htread⟩
  · rintro ⟨s, hs, hon, huse, t, ht, htype⟩
    obtain ⟨set, hset, hsread⟩ := exists_of_mem_of_forall₂ hsets hs
    obtain ⟨hname, henabled, htypes⟩ := TypeSetSetting.toTypeSet_eq_ok hsread
    obtain ⟨read, hread, htread⟩ := exists_of_mem_of_forall₂ htypes ht
    cases htype.symm.trans htread
    exact ⟨set, hset, (inUse_iff hname).2 huse, henabled.trans hon, hread⟩

/-- The measurements of the types of a graph are told apart by their names exactly if those of the
settings are that the types were read from. -/
theorem namesTell_iff (hread : settings.mapM TypeSetSetting.toTypeSet = .ok sets)
    (hbuild : build sets use minMillis = .ok g) :
    (∀ type ∈ g.types, type.NamesTell) ↔
      ∀ s ∈ settings, s.enabled = true → (∀ names, use = some names → s.name ∈ names) →
        ∀ t ∈ s.resourceTypes, (g.get? t.name).isSome = true → t.NamesTell minMillis := by
  have hkept := keepsDerivable_build hbuild
  have hnodup := nodup_types_build hbuild
  constructor
  · intro h s hs hon huse t ht hsome
    obtain ⟨set, hset, hsread⟩ := exists_of_mem_of_forall₂ (mapM_eq_ok_iff.1 hread) hs
    obtain ⟨-, -, htypes⟩ := TypeSetSetting.toTypeSet_eq_ok hsread
    obtain ⟨type, -, htread⟩ := exists_of_mem_of_forall₂ htypes ht
    have hoffered := (offered_iff_read hread type).2 ⟨s, hs, hon, huse, t, ht, htread⟩
    have hname := (ResourceTypeSetting.toType_eq_ok htread).1
    have hup : LeadsUp sets use type.name := by
      rwa [hname, ← hkept.get?_isSome_iff]
    exact (ResourceTypeSetting.namesTell_iff htread).1
      (h _ (mem_types_build_of_offered hbuild hoffered hup))
  · intro h type htype
    obtain ⟨-, d, hd, hon, rfl⟩ := (mem_types_build_iff hbuild type).1 htype
    obtain ⟨s, hs, hson, huse, t, ht, htread⟩ :=
      (offered_iff_read hread d.type).1 (offered_iff.2 ⟨d, hd, hon, rfl⟩)
    have hname := (ResourceTypeSetting.toType_eq_ok htread).1
    have hget : g.get? t.name = some (d.type.withoutShortIntervals minMillis) :=
      (get?_eq_some_iff hnodup).2 ⟨htype, hname⟩
    exact (ResourceTypeSetting.namesTell_iff htread).2 (h s hs hson huse t ht (by simp [hget]))

end TypeGraph

end EndpointMonitor
