import EndpointMonitor.Proofs.Location.Identities
import EndpointMonitor.Proofs.Settings.AcceptedSettings
import Mathlib.Data.Set.Operations

/-!
# What identifiers say under accepted settings

An identifier is taken apart at its first two separators. The third part may hold more of them,
but the first two may not, and settings are accepted with separators in the feed and in the
names of endpoints. Without these, an identifier tells its feed, its endpoint and the text of
its location, and no two endpoints have a resource of the same identifier.
-/

namespace EndpointMonitor

theorem Text.cutFirst_eq_some_iff {sep : Char} {s before after : String} :
    Text.cutFirst sep s = some (before, after) ↔
      s.toList = before.toList ++ sep :: after.toList ∧ sep ∉ before.toList := by
  rw [← Text.splitFirst_eq_some_iff, Text.cutFirst]
  cases Text.splitFirst sep s.toList with
  | none => simp
  | some cut => simp [Prod.ext_iff, ← String.toList_inj]

namespace ResourceIdParts

theorem toList_join (p : ResourceIdParts) :
    p.join.toList = p.feed.toList ++ '~' :: (p.endpoint.toList ++ '~' :: p.location.toList) := by
  simp [join]

/-- An identifier is split into parts that it is made of, of which the first two are neither
empty nor hold a separator. -/
theorem split?_eq_some_iff {id : String} {p : ResourceIdParts} : split? id = some p ↔
    id = p.join ∧ ('~' ∉ p.feed.toList ∧ '~' ∉ p.endpoint.toList) ∧
      p.feed ≠ "" ∧ p.endpoint ≠ "" := by
  unfold split?
  simp only [Option.bind_eq_bind, Option.bind_eq_some_iff]
  constructor
  · rintro ⟨⟨feed, rest⟩, hfeed, ⟨endpoint, location⟩, hendpoint, h⟩
    split at h
    · cases h
    · rename_i hfilled
      cases h
      obtain ⟨hid, hfeed⟩ := Text.cutFirst_eq_some_iff.1 hfeed
      obtain ⟨hrest, hendpoint⟩ := Text.cutFirst_eq_some_iff.1 hendpoint
      refine ⟨?_, ⟨hfeed, hendpoint⟩, by simpa using hfilled⟩
      rw [← String.toList_inj, toList_join, hid, hrest]
  · rintro ⟨rfl, ⟨hfeed, hendpoint⟩, hfilled⟩
    have first : Text.cutFirst '~' p.join = some (p.feed, p.endpoint ++ "~" ++ p.location) :=
      Text.cutFirst_eq_some_iff.2 ⟨by simp [toList_join], hfeed⟩
    have second : Text.cutFirst '~' (p.endpoint ++ "~" ++ p.location) =
        some (p.endpoint, p.location) :=
      Text.cutFirst_eq_some_iff.2 ⟨by simp, hendpoint⟩
    exact ⟨_, first, _, second, by simp [hfilled]⟩

/-- Within one feed, names without separators are told apart. -/
theorem endpoint_eq_of_join_eq {feed e f s t : String} (he : '~' ∉ e.toList)
    (hf : '~' ∉ f.toList) (h : join ⟨feed, e, s⟩ = join ⟨feed, f, t⟩) : e = f := by
  rw [← String.toList_inj, toList_join, toList_join, List.append_cancel_left_eq,
    List.cons_inj_right] at h
  exact String.toList_inj.1 (Text.cut_inj he hf h).1

end ResourceIdParts

namespace Settings

variable {s : Settings}

/-- The identifiers that resources of an endpoint may have. -/
def resourceIds (L : Type) [Location L] (s : Settings) (e : RemoteEndpointSetting) :
    Set String :=
  Set.range fun node : L => Location.resourceId s.agent.feedId e.name node

/-- Two sets without a common identifier. -/
def Apart (ids ids' : Set String) : Prop :=
  ∀ id ∈ ids, id ∉ ids'

/-- Identifiers tell what they were made of: the identifier of a resource of an enabled endpoint
is split into the feed, the name of the endpoint and the text of the location, and different
endpoints have no identifier in common. -/
structure IdsTell (s : Settings) : Prop where
  management : ∀ e ∈ s.dmr.enabledEndpoints, ∀ node : ManagementAddress,
    ResourceIdParts.split? (Location.resourceId s.agent.feedId e.name node) =
      some ⟨s.agent.feedId, e.name, node.text⟩
  jolokia : ∀ e ∈ s.jmx.enabledEndpoints, ∀ node : ObjectName,
    ResourceIdParts.split? (Location.resourceId s.agent.feedId e.name node) =
      some ⟨s.agent.feedId, e.name, node.text⟩
  apart : (s.dmr.enabledEndpoints.map (s.resourceIds ManagementAddress) ++
    s.jmx.enabledEndpoints.map (s.resourceIds ObjectName)).Pairwise Apart

/-- The feed has no separator, and no enabled endpoint has one in its name. -/
def Unseparated (s : Settings) : Prop :=
  ∀ e ∈ s.dmr.enabledEndpoints ++ s.jmx.enabledEndpoints,
    '~' ∉ s.agent.feedId.toList ∧ '~' ∉ e.name.toList

theorem ne_empty_of_not_blank {name : String} (h : Text.isBlankText name = false) :
    name ≠ "" := by
  rintro rfl
  cases h

theorem Accepted.named (h : s.Accepted) {e : RemoteEndpointSetting}
    (he : e ∈ s.dmr.enabledEndpoints ++ s.jmx.enabledEndpoints) : e.name ≠ "" := by
  rcases List.mem_append.1 he with he | he
  · exact ne_empty_of_not_blank (h.dmr.named e (List.mem_of_mem_filter he))
  · exact ne_empty_of_not_blank (h.jmx.named e (List.mem_of_mem_filter he))

/-- Enabled endpoints have different names. -/
theorem Accepted.pairwise_name (h : s.Accepted) :
    (s.dmr.enabledEndpoints ++ s.jmx.enabledEndpoints).Pairwise (·.name ≠ ·.name) := by
  have all := h.endpoints
  rw [List.Nodup, List.pairwise_map] at all
  exact all.sublist (List.filter_sublist.append List.filter_sublist)

section

variable {L M : Type} [Location L] [Location M] {e f : RemoteEndpointSetting}

/-- The identifier of a resource is split as it was made exactly if there is no separator before
its location. -/
theorem Accepted.split?_iff (h : s.Accepted)
    (he : e ∈ s.dmr.enabledEndpoints ++ s.jmx.enabledEndpoints) (node : L) :
    ResourceIdParts.split? (Location.resourceId s.agent.feedId e.name node) =
        some ⟨s.agent.feedId, e.name, Location.text node⟩ ↔
      '~' ∉ s.agent.feedId.toList ∧ '~' ∉ e.name.toList := by
  rw [ResourceIdParts.split?_eq_some_iff]
  constructor
  · rintro ⟨-, hplain, -⟩
    exact hplain
  · intro hplain
    exact ⟨rfl, hplain, ne_empty_of_not_blank h.feed, h.named he⟩

theorem apart_resourceIds (hne : e.name ≠ f.name) (he : '~' ∉ e.name.toList)
    (hf : '~' ∉ f.name.toList) : Apart (s.resourceIds L e) (s.resourceIds M f) := by
  rintro _ ⟨node, rfl⟩ ⟨node', heq⟩
  exact hne (ResourceIdParts.endpoint_eq_of_join_eq he hf heq.symm)

end

/-- With different names and no separators in them, endpoints have no identifier in common. -/
theorem Accepted.pairwise_resourceIds (h : s.Accepted) (plain : s.Unseparated) :
    (s.dmr.enabledEndpoints.map (s.resourceIds ManagementAddress) ++
      s.jmx.enabledEndpoints.map (s.resourceIds ObjectName)).Pairwise Apart := by
  have named := h.pairwise_name
  rw [List.pairwise_append] at named ⊢
  obtain ⟨dmr, jmx, both⟩ := named
  have plainName : ∀ e ∈ s.dmr.enabledEndpoints ++ s.jmx.enabledEndpoints, '~' ∉ e.name.toList :=
    fun e he => (plain e he).2
  rw [List.forall_mem_append] at plainName
  obtain ⟨plainDmr, plainJmx⟩ := plainName
  refine ⟨?_, ?_, ?_⟩
  · rw [List.pairwise_map]
    exact dmr.imp_of_mem fun he hf hne => apart_resourceIds hne (plainDmr _ he) (plainDmr _ hf)
  · rw [List.pairwise_map]
    exact jmx.imp_of_mem fun he hf hne => apart_resourceIds hne (plainJmx _ he) (plainJmx _ hf)
  · intro ids hids ids' hids'
    obtain ⟨e, he, rfl⟩ := List.mem_map.1 hids
    obtain ⟨f, hf, rfl⟩ := List.mem_map.1 hids'
    exact apart_resourceIds (both e he f hf) (plainDmr e he) (plainJmx f hf)

/-- Under accepted settings, identifiers tell what they were made of exactly if neither the feed
nor the name of an enabled endpoint holds a separator. -/
theorem idsTell_iff (h : s.validate = .ok s) : s.IdsTell ↔ s.Unseparated := by
  have accepted := validate_eq_ok_iff.1 h
  constructor
  · -- Any location shows it: the separators are looked for in front of the location.
    intro tell e he
    rcases List.mem_append.1 he with hdmr | hjmx
    · exact (accepted.split?_iff he _).1 (tell.management e hdmr default)
    · exact (accepted.split?_iff he _).1 (tell.jolokia e hjmx default)
  · intro plain
    refine ⟨?_, ?_, accepted.pairwise_resourceIds plain⟩
    · intro e he node
      have he' := List.mem_append_left s.jmx.enabledEndpoints he
      exact (accepted.split?_iff he' node).2 (plain e he')
    · intro e he node
      have he' := List.mem_append_right s.dmr.enabledEndpoints he
      exact (accepted.split?_iff he' node).2 (plain e he')

section Separators

/-- Settings with some management and some Jolokia endpoints. -/
def withEndpoints (dmr jmx : List String) : Settings where
  agent := { feedId := "f" }
  dmr := { endpoints := dmr.map fun name => { name, url := "http://h" } }
  jmx := { endpoints := jmx.map fun name => { name, url := "http://h" } }

theorem idsTell_iff_twoEndpoints :
    let s := withEndpoints ["a b"] ["c"]
    s.validate = .ok s ∧ s.Unseparated ∧ s.IdsTell := by
  intro s
  have accepted : s.validate = .ok s := by decide +kernel
  have plain : s.Unseparated := by
    unfold Unseparated
    decide +kernel
  exact ⟨accepted, plain, (idsTell_iff accepted).2 plain⟩

/-- With a separator in its name, an endpoint is taken for another one that is monitored too. -/
theorem not_idsTell_separator :
    let s := withEndpoints ["a", "a~/x=1"] []
    let node : ManagementAddress := ⟨[⟨"y", "2"⟩]⟩
    s.validate = .ok s ∧ ¬ s.IdsTell ∧
      ResourceIdParts.split? (Location.resourceId "f" "a~/x=1" node) =
        some ⟨"f", "a", "/x=1~/y=2"⟩ ∧
      Location.resourceId "f" "a~/x=1" node = Location.resourceId "f" "a"
        (⟨[⟨"x", "1~"⟩, ⟨"y", "2"⟩]⟩ : ManagementAddress) := by
  intro s node
  have split : ResourceIdParts.split? (Location.resourceId "f" "a~/x=1" node) =
      some ⟨"f", "a", "/x=1~/y=2"⟩ := by decide +kernel
  refine ⟨by decide +kernel, ?_, split, by decide +kernel⟩
  intro tell
  have told := tell.management ⟨"a~/x=1", true, "http://h", none, none, 10, none, []⟩
    (by decide +kernel) node
  rw [show s.agent.feedId = "f" from rfl, split] at told
  revert told
  decide

end Separators

end Settings

end EndpointMonitor
