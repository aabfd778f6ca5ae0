import EndpointMonitor.Proofs.Location.ObjectNames
import EndpointMonitor.Proofs.Location.PositionTokens
import EndpointMonitor.Proofs.Location.Wildcards
import EndpointMonitor.Proofs.Text.Replacing

/-!
# Values in names

A template with one token gets the value of its key in place of the token. The keys after it, and
what else a protocol puts into names, are looked for in the text that results, so that the value
itself is read once more. It shows as it is in every name exactly if it cannot be taken for a token,
whatever follows it.
-/

namespace EndpointMonitor

namespace Location

variable {k q v : String} {a b text : List Char} {ps : List Segment}

theorem fillKeys_append (ps qs : List Segment) (text : List Char) :
    fillKeys (ps ++ qs) text = fillKeys qs (fillKeys ps text) :=
  List.foldl_append

theorem endpointToken_eq : endpointToken = keyToken "_ManagedServerName" := by
  decide

theorem keyToken_ne_nil (key : String) : keyToken key ≠ [] := by
  simp [keyToken]

/-- A token needs two percent signs. -/
theorem keyToken_not_occurs (h : text.count '%' ≤ 1) (q : String) :
    ¬ keyToken q <:+: text := by
  intro hoccurs
  have hcount := hoccurs.sublist.count_le '%'
  simp [keyToken] at hcount
  omega

/-- Two percent signs have a token between them. -/
theorem exists_keyToken_occurs (h : 1 < text.count '%') : ∃ q : String, keyToken q <:+: text := by
  obtain ⟨before, rest, rfl, hbefore⟩ :=
    List.eq_append_cons_of_mem (List.count_pos_iff.1 (Nat.zero_lt_of_lt h))
  have hrest : 0 < rest.count '%' := by
    simp [List.count_eq_zero.2 hbefore] at h
    exact List.count_pos_iff.2 h
  obtain ⟨between, after, rfl, -⟩ := List.eq_append_cons_of_mem (List.count_pos_iff.1 hrest)
  exact ⟨String.ofList between, before, after, by simp [keyToken]⟩

/-- A template of one token has no other one. -/
theorem key_eq_of_occurs (hk : '%' ∉ k.toList) (ha : '%' ∉ a) (hb : '%' ∉ b)
    (h : keyToken q <:+: a ++ keyToken k ++ b) : q = k := by
  obtain ⟨before, after, heq⟩ := h
  have hcount := congrArg (List.count '%') heq
  simp only [keyToken, List.count_append, List.count_cons, List.count_nil, beq_self_eq_true,
    if_true, List.count_eq_zero.2 hk, List.count_eq_zero.2 ha, List.count_eq_zero.2 hb] at hcount
  have hbefore : '%' ∉ before := List.count_eq_zero.1 (by omega)
  have hq : '%' ∉ q.toList := List.count_eq_zero.1 (by omega)
  have heq' : before ++ '%' :: (q.toList ++ '%' :: after) = a ++ '%' :: (k.toList ++ '%' :: b) := by
    simpa [keyToken] using heq
  obtain ⟨-, hrest⟩ := Text.cut_inj hbefore ha heq'
  exact String.toList_inj.1 (Text.cut_inj hq hk hrest).1

/-- Keys whose tokens do not occur change nothing. -/
theorem fillKeys_eq_self (h : ∀ p ∈ ps, ¬ keyToken p.key <:+: text) : fillKeys ps text = text := by
  induction ps with
  | nil => rfl
  | cons p ps ih =>
      rw [fillKeys_cons, Text.replaceAll_eq_self (h p (by simp))]
      exact ih fun q hq => h q (by simp [hq])

/-- Tokens are found between percent signs only. -/
theorem fillKeys_frame (ha : '%' ∉ a) (hb : '%' ∉ b) (ps : List Segment) (text : List Char) :
    fillKeys ps (a ++ text ++ b) = a ++ fillKeys ps text ++ b := by
  induction ps generalizing text with
  | nil => rfl
  | cons p ps ih =>
      have hframe : Text.replaceAll (keyToken p.key) p.value.toList (a ++ text ++ b) =
          a ++ Text.replaceAll (keyToken p.key) p.value.toList text ++ b := by
        rw [List.append_assoc, keyToken, List.cons_append, Text.replaceAll_append_left ha,
          ← List.cons_append, Text.replaceAll_append_right hb, List.append_assoc]
      rw [fillKeys_cons, fillKeys_cons, hframe, ih]

/-- The token of a key is replaced when it is the turn of the key. -/
theorem replaceAll_token (ha : '%' ∉ a) (hb : '%' ∉ b) (k : String) (value : List Char) :
    Text.replaceAll (keyToken k) value (a ++ keyToken k ++ b) = a ++ value ++ b := by
  have hrest : Text.replaceAll (keyToken k) value b = b :=
    Text.replaceAll_eq_self (keyToken_not_occurs (by simp [List.count_eq_zero.2 hb]) k)
  have hfront : Text.replaceAll (keyToken k) value (a ++ (keyToken k ++ b)) =
      a ++ Text.replaceAll (keyToken k) value (keyToken k ++ b) :=
    Text.replaceAll_append_left ha (keyToken k ++ b)
  rw [List.append_assoc, hfront, Text.replaceAll_append_target (keyToken_ne_nil k), hrest,
    List.append_assoc]

/-- A template of one token becomes a text with the value in its place, in which the keys after
it are looked for. -/
theorem fillKeys_template (hk : '%' ∉ k.toList) (hname : k ≠ "_ManagedServerName")
    (ha : '%' ∉ a) (hb : '%' ∉ b) (endpoint : List Char) (before after : List Segment)
    (hbefore : ∀ p ∈ before, p.key ≠ k) :
    fillKeys (before ++ ⟨k, v⟩ :: after)
        (Text.replaceAll endpointToken endpoint (a ++ keyToken k ++ b)) =
      a ++ fillKeys after v.toList ++ b := by
  have hother : ∀ q : String, q ≠ k → ¬ keyToken q <:+: a ++ keyToken k ++ b :=
    fun q hq hoccurs => hq (key_eq_of_occurs hk ha hb hoccurs)
  rw [endpointToken_eq, Text.replaceAll_eq_self (hother _ hname.symm), fillKeys_append,
    fillKeys_eq_self fun p hp => hother p.key (hbefore p hp), fillKeys_cons,
    replaceAll_token ha hb, fillKeys_frame ha hb]

end Location

/-- The first part of a key is followed by others, and those before it have other keys. -/
theorem Segment.find?_key_eq_some_iff {ps : List Segment} {k v : String} :
    ps.find? (·.key == k) = some ⟨k, v⟩ ↔
      ∃ before after, ps = before ++ ⟨k, v⟩ :: after ∧ ∀ p ∈ before, p.key ≠ k := by
  simp [List.find?_eq_some_iff_append]

/-- More letters `x` than a text has. -/
def Location.filler (text : List Char) : String :=
  String.ofList (List.replicate (text.count 'x' + 1) 'x')

theorem Location.count_filler (text : List Char) :
    (filler text).toList.count 'x' = text.count 'x' + 1 := by
  simp [filler]

/-- A value with a token gets longer when the key of the token is filled in. -/
theorem Location.count_lt_fillKeys {q : String} {text : List Char} (h : keyToken q <:+: text) :
    text.count 'x' < (fillKeys [⟨q, filler text⟩] text).count 'x' := by
  have hgrows := Text.count_le_of_occurs (filler text).toList (keyToken_ne_nil q) 'x' h
  rw [count_filler] at hgrows
  exact hgrows

namespace Components

variable {L : Type} [Location L] {k v : String}

/-- A value shows as it is: wherever it is the value of the first part of a key, it stands in
place of the token in every name from a template with no other token. -/
def Verbatim (c : Components L) (k v : String) : Prop :=
  ∀ node : L, (c.parts node).find? (·.key == k) = some ⟨k, v⟩ →
    ∀ a b endpoint : String, '%' ∉ a.toList → '%' ∉ b.toList →
      Location.nameFrom (a ++ "%" ++ k ++ "%" ++ b) node endpoint = a ++ v ++ b

/-- The keys are filled in after the endpoint, and a protocol may do something to the result. The
value shows as it is exactly if nothing after its turn changes the text around it. -/
theorem verbatim_iff {c : Components L} (finish : L → List Char → List Char → List Char)
    (hfinish : ∀ template node endpoint,
      (Location.nameFrom template node endpoint).toList = finish node endpoint.toList
        (Location.fillKeys (c.parts node)
          (Text.replaceAll Location.endpointToken endpoint.toList template.toList)))
    (hk : '%' ∉ k.toList) (hname : k ≠ "_ManagedServerName") :
    c.Verbatim k v ↔ ∀ node before after, c.parts node = before ++ ⟨k, v⟩ :: after →
      (∀ p ∈ before, p.key ≠ k) → ∀ a b endpoint : List Char, '%' ∉ a → '%' ∉ b →
        finish node endpoint (a ++ Location.fillKeys after v.toList ++ b) = a ++ v.toList ++ b := by
  have named : ∀ node before after, c.parts node = before ++ ⟨k, v⟩ :: after →
      (∀ p ∈ before, p.key ≠ k) → ∀ a b endpoint : String, '%' ∉ a.toList → '%' ∉ b.toList →
        (Location.nameFrom (a ++ "%" ++ k ++ "%" ++ b) node endpoint).toList =
          finish node endpoint.toList
            (a.toList ++ Location.fillKeys after v.toList ++ b.toList) := by
    intro node before after hparts hbefore a b endpoint ha hb
    have htemplate : (a ++ "%" ++ k ++ "%" ++ b).toList =
        a.toList ++ Location.keyToken k ++ b.toList := by
      simp [Location.keyToken]
    rw [hfinish, hparts, htemplate,
      Location.fillKeys_template hk hname ha hb endpoint.toList before after hbefore]
  constructor
  · intro h node before after hparts hbefore a b endpoint ha hb
    have hverbatim := h node (Segment.find?_key_eq_some_iff.2 ⟨before, after, hparts, hbefore⟩)
      (String.ofList a) (String.ofList b) (String.ofList endpoint) (by simpa) (by simpa)
    have hnamed := named node before after hparts hbefore (String.ofList a) (String.ofList b)
      (String.ofList endpoint) (by simpa) (by simpa)
    rw [hverbatim] at hnamed
    simpa using hnamed.symm
  · intro h node hfind a b endpoint ha hb
    obtain ⟨before, after, hparts, hbefore⟩ := Segment.find?_key_eq_some_iff.1 hfind
    apply String.toList_inj.1
    rw [named node before after hparts hbefore a b endpoint ha hb,
      h node before after hparts hbefore _ _ _ ha hb]
    simp

/-- A value with the token of a key that can follow does not show as it is, if what a protocol does
at the end takes nothing away. -/
theorem Verbatim.not_occurs {c : Components L}
    (finish : L → List Char → List Char → List Char)
    (hfinish : ∀ template node endpoint,
      (Location.nameFrom template node endpoint).toList = finish node endpoint.toList
        (Location.fillKeys (c.parts node)
          (Text.replaceAll Location.endpointToken endpoint.toList template.toList)))
    (hkeeps : ∀ node endpoint text, text.count 'x' ≤ (finish node endpoint text).count 'x')
    (hk : '%' ∉ k.toList) (hname : k ≠ "_ManagedServerName") (h : c.Verbatim k v) {q : String}
    (hnode : ∀ w, ∃ node, c.parts node = [⟨k, v⟩, ⟨q, w⟩]) :
    ¬ Location.keyToken q <:+: v.toList := by
  intro hoccurs
  obtain ⟨node, hparts⟩ := hnode (Location.filler v.toList)
  have hsame := (verbatim_iff finish hfinish hk hname).1 h node [] _ hparts (by simp) [] [] []
    (by simp) (by simp)
  simp only [List.nil_append, List.append_nil] at hsame
  have hlonger := Nat.lt_of_lt_of_le (Location.count_lt_fillKeys hoccurs) (hkeeps node [] _)
  rw [hsame] at hlonger
  exact Nat.lt_irrefl _ hlonger

end Components

variable {k v : String}

/-! ### Management addresses -/

namespace ManagementAddress

theorem toList_nameFrom (template : String) (node : ManagementAddress) (endpoint : String) :
    (Location.nameFrom template node endpoint).toList =
      substitutePositions node.arguments endpoint.toList
        (Location.fillKeys node.segments
          (Text.replaceAll Location.endpointToken endpoint.toList template.toList)) :=
  String.toList_ofList

theorem arguments_replicate (n : ℕ) (w : String) (ps : List Segment) :
    arguments ⟨List.replicate n ⟨w, w⟩ ++ ps⟩ =
      List.replicate (2 * n) w.toList ++ arguments ⟨ps⟩ := by
  induction n with
  | zero => rfl
  | succ n ih =>
      have hdouble : 2 * (n + 1) = 2 * n + 1 + 1 := by omega
      simp only [arguments] at ih ⊢
      rw [List.replicate_succ, List.cons_append, List.flatMap_cons, ih, hdouble,
        List.replicate_succ, List.replicate_succ]
      rfl

/-- The value of a management address shows as it is exactly if no context makes a token of it. -/
theorem verbatim_iff (hk : '%' ∉ k.toList) (hname : k ≠ "_ManagedServerName") :
    components.Verbatim k v ↔ Inert v.toList := by
  have hiff := Components.verbatim_iff (c := components) (v := v)
    (fun node => substitutePositions node.arguments) toList_nameFrom hk hname
  constructor
  · intro h
    have single : v.toList.count '%' ≤ 1 := by
      by_contra hcount
      obtain ⟨q, hq⟩ := Location.exists_keyToken_occurs (Nat.lt_of_not_le hcount)
      exact h.not_occurs (fun node => substitutePositions node.arguments) toList_nameFrom
        (fun _ => count_le_substitutePositions _) hk hname (fun w => ⟨⟨[⟨k, v⟩, ⟨q, w⟩]⟩, rfl⟩) hq
    refine ⟨single, fun rest hsuffix hopens => ?_⟩
    -- Every argument and the endpoint are too long for the value.
    obtain ⟨front, hfront⟩ := hsuffix
    obtain ⟨after, hafter, hplain, position, hcompleted⟩ := hopens.exists_completion
    let w := Location.filler (k.toList ++ v.toList)
    have hcount : w.toList.count 'x' = (k.toList ++ v.toList).count 'x' + 1 :=
      Location.count_filler _
    have hwk : w ≠ k := by
      intro hw
      rw [hw, List.count_append] at hcount
      omega
    let before : List Segment := List.replicate (position + 1) ⟨w, w⟩
    let node : ManagementAddress := ⟨before ++ [⟨k, v⟩, ⟨w, w⟩]⟩
    have harguments : node.arguments = List.replicate (2 * (position + 1)) w.toList ++
        [k.toList, v.toList, w.toList, w.toList] :=
      arguments_replicate (position + 1) w [⟨k, v⟩, ⟨w, w⟩]
    have hat : node.arguments[position]? = some w.toList := by
      rw [harguments, List.getElem?_append_left (by rw [List.length_replicate]; omega),
        List.getElem?_replicate, if_pos (by omega)]
    have hlast : node.arguments.getLast? = some w.toList := by
      simp [harguments]
    have hpercent : '%' ∉ front := by
      rw [← hfront] at single
      simp only [List.count_append, List.count_cons_self] at single
      exact List.count_eq_zero.1 (by omega)
    have hsame := hiff.1 h node before [⟨w, w⟩] rfl (by simp [before, hwk]) [] after w.toList
      (by simp) hafter
    rw [Location.fillKeys_eq_self fun p _ => Location.keyToken_not_occurs single p.key, ← hfront,
      List.nil_append, List.append_assoc, substitutePositions_append hpercent,
      List.append_cancel_left_eq, List.cons_append] at hsame
    have hfound := (hcompleted node.arguments w.toList hat hlast).sublist.count_le 'x'
    rw [hsame, hcount, ← hfront] at hfound
    simp [List.count_eq_zero.2 hplain] at hfound
    omega
  · intro h
    rw [hiff]
    intro node before after _ _ a b endpoint ha hb
    rw [Location.fillKeys_eq_self fun p _ => Location.keyToken_not_occurs h.single p.key,
      h.substitutePositions_eq ha hb]

end ManagementAddress

/-! ### Object names -/

namespace ObjectName

theorem substituteKeys_eq_fillKeys (ps : List Segment) (text : List Char) :
    substituteKeys ps text = Location.fillKeys ps text := by
  induction ps generalizing text with
  | nil => rfl
  | cons p ps ih =>
      by_cases hmem : '%' ∈ text
      · rw [substituteKeys, if_pos (by simpa using hmem), ih, Location.fillKeys_cons]
      · have hcount : text.count '%' ≤ 1 := by simp [List.count_eq_zero.2 hmem]
        rw [substituteKeys, if_neg (by simpa using hmem),
          Location.fillKeys_eq_self fun q _ => Location.keyToken_not_occurs hcount q.key]

theorem toList_nameFrom (template : String) (node : ObjectName) (endpoint : String) :
    (Location.nameFrom template node endpoint).toList =
      Location.fillKeys node.properties
        (Text.replaceAll Location.endpointToken endpoint.toList template.toList) :=
  String.toList_ofList.trans (substituteKeys_eq_fillKeys _ _)

/-- The value of an object name shows as it is exactly if it has no token of a key that comes after
its own. -/
theorem verbatim_iff (hk : '%' ∉ k.toList) (hname : k ≠ "_ManagedServerName") :
    components.Verbatim k v ↔ ∀ q, k < q → ¬ Location.keyToken q <:+: v.toList := by
  constructor
  · intro h q hq
    exact h.not_occurs (fun _ _ text => text) toList_nameFrom (fun _ _ _ => Nat.le_refl _)
      hk hname fun w => ⟨⟨"", [⟨k, v⟩, ⟨q, w⟩], false, by simpa using hq⟩, rfl⟩
  · intro h
    rw [Components.verbatim_iff (fun _ _ text => text) toList_nameFrom hk hname]
    intro node before after hparts _ a b endpoint _ _
    have hsorted := node.sorted
    rw [show node.properties = _ from hparts, List.pairwise_append, List.pairwise_cons] at hsorted
    rw [Location.fillKeys_eq_self fun p hp => h p.key (hsorted.2.1.1 p hp)]

end ObjectName

/-! ### Platform paths -/

namespace PlatformPath

/-- A text that no context makes a token of. -/
structure Inert (cs : List Char) : Prop where
  single : cs.count '%' ≤ 1
  closed : ¬ ['%', 's'] <:+: cs
  last : ¬ ['%'] <:+ cs

/-- Put in the name of the last segment. -/
def substituteLast (p : PlatformPath) (text : List Char) : List Char :=
  match p.segments.getLast? with
  | some last => Text.replaceAll ['%', 's'] last.value.toList text
  | none => text

theorem toList_nameFrom (template : String) (node : PlatformPath) (endpoint : String) :
    (Location.nameFrom template node endpoint).toList = node.substituteLast
      (Location.fillKeys node.segments
        (Text.replaceAll Location.endpointToken endpoint.toList template.toList)) := by
  change (nameFrom template node endpoint).toList = _
  unfold nameFrom substituteLast
  cases node.segments.getLast? <;> exact String.toList_ofList

theorem count_le_substituteLast (p : PlatformPath) (text : List Char) :
    text.count 'x' ≤ (p.substituteLast text).count 'x' := by
  unfold substituteLast
  split
  · exact Text.count_le_replaceAll (by simp) (by simp) text
  · exact Nat.le_refl _

theorem Inert.not_occurs {cs after : List Char} (h : Inert cs) (hafter : '%' ∉ after) :
    ¬ ['%', 's'] <:+: cs ++ after := by
  rintro ⟨front, back, heq⟩
  rw [List.append_assoc] at heq
  rcases List.append_eq_append_iff.1 heq with ⟨more, hcs, hmore⟩ | ⟨more, -, hrest⟩
  · match more with
    | [] => exact hafter (by rw [← show _ = after from hmore]; simp)
    | [c] =>
        simp only [List.cons_append, List.nil_append, List.cons.injEq] at hmore
        exact h.last ⟨front, by rw [hcs, hmore.1]⟩
    | c :: d :: more =>
        simp only [List.cons_append, List.nil_append, List.cons.injEq] at hmore
        exact h.closed ⟨front, more, by rw [hcs, hmore.1, hmore.2.1]; simp⟩
  · exact hafter (by rw [hrest]; simp)

/-- The value of a platform path shows as it is exactly if no context makes a token of it. -/
theorem verbatim_iff (hk : '%' ∉ k.toList) (hname : k ≠ "_ManagedServerName") :
    components.Verbatim k v ↔ Inert v.toList := by
  have hiff := Components.verbatim_iff (c := components) (v := v)
    (fun node _ text => node.substituteLast text) toList_nameFrom hk hname
  constructor
  · intro h
    have single : v.toList.count '%' ≤ 1 := by
      by_contra hcount
      obtain ⟨q, hq⟩ := Location.exists_keyToken_occurs (Nat.lt_of_not_le hcount)
      exact h.not_occurs (fun node _ text => node.substituteLast text) toList_nameFrom
        (fun node _ => node.count_le_substituteLast) hk hname
        (fun w => ⟨⟨[⟨k, v⟩, ⟨q, w⟩]⟩, rfl⟩) hq
    have closed : ∀ after, '%' ∉ after → 'x' ∉ after → ¬ ['%', 's'] <:+: v.toList ++ after := by
      intro after hafter hplain hoccurs
      -- The name of a last segment is too long for the value.
      let w := Location.filler v.toList
      let node : PlatformPath := ⟨[⟨k, v⟩, ⟨k, w⟩]⟩
      have hsame := hiff.1 h node [] [⟨k, w⟩] rfl (by simp) [] after [] (by simp) hafter
      rw [Location.fillKeys_eq_self fun p _ => Location.keyToken_not_occurs single p.key,
        List.nil_append] at hsame
      have hgrows := Text.count_le_of_occurs w.toList (by simp) 'x' hoccurs
      have hcount : w.toList.count 'x' = v.toList.count 'x' + 1 := Location.count_filler _
      change Text.replaceAll ['%', 's'] w.toList (v.toList ++ after) = _ at hsame
      rw [hsame, hcount, List.count_append, List.count_eq_zero.2 hplain] at hgrows
      omega
    refine ⟨single, by simpa using closed [] (by simp) (by simp), ?_⟩
    rintro ⟨front, hfront⟩
    exact closed ['s'] (by simp) (by simp) ⟨front, [], by rw [← hfront]; simp⟩
  · intro h
    rw [hiff]
    intro node before after _ _ a b endpoint ha hb
    rw [Location.fillKeys_eq_self fun p _ => Location.keyToken_not_occurs h.single p.key]
    unfold substituteLast
    split
    · rw [List.append_assoc, Text.replaceAll_append_left ha,
        Text.replaceAll_eq_self (h.not_occurs hb)]
    · rfl

end PlatformPath

/-- When a value shows as it is in the names of each protocol. -/
theorem Location.values_verbatim_iff (hk : '%' ∉ k.toList) (hname : k ≠ "_ManagedServerName") :
    (ManagementAddress.components.Verbatim k v ↔ ManagementAddress.Inert v.toList) ∧
    (ObjectName.components.Verbatim k v ↔ ∀ q, k < q → ¬ keyToken q <:+: v.toList) ∧
    (PlatformPath.components.Verbatim k v ↔ PlatformPath.Inert v.toList) :=
  ⟨ManagementAddress.verbatim_iff hk hname, ObjectName.verbatim_iff hk hname,
    PlatformPath.verbatim_iff hk hname⟩

theorem Location.values_verbatim_iff_store :
    ('%' ∉ "store".toList ∧ "store" ≠ "_ManagedServerName") ∧
    (ManagementAddress.components.Verbatim "store" "50%" ↔ ManagementAddress.Inert "50%".toList) ∧
    (ObjectName.components.Verbatim "store" "50%" ↔
      ∀ q, "store" < q → ¬ keyToken q <:+: "50%".toList) ∧
    (PlatformPath.components.Verbatim "store" "50%" ↔ PlatformPath.Inert "50%".toList) :=
  ⟨⟨by decide, by decide⟩, values_verbatim_iff (by decide) (by decide)⟩

/-- Values with the token of a later key, of the last part and of the last segment. -/
theorem Location.not_values_verbatim :
    (Location.nameFrom "%a%" (⟨"d", [⟨"a", "%b%"⟩, ⟨"b", "x"⟩], false, by decide⟩ : ObjectName) "e"
        = "x" ∧ ¬ ObjectName.components.Verbatim "a" "%b%") ∧
    (Location.nameFrom "%a%" (⟨[⟨"a", "50%-"⟩]⟩ : ManagementAddress) "e" = "5050%-" ∧
      ¬ ManagementAddress.components.Verbatim "a" "50%-") ∧
    (Location.nameFrom "%a%" (⟨[⟨"a", "%s"⟩, ⟨"b", "x"⟩]⟩ : PlatformPath) "e" = "x" ∧
      ¬ PlatformPath.components.Verbatim "a" "%s") := by
  have later : Location.nameFrom "%a%"
      (⟨"d", [⟨"a", "%b%"⟩, ⟨"b", "x"⟩], false, by decide⟩ : ObjectName) "e" = "x" := by
    simp [Location.nameFrom, ObjectName.nameFrom, ObjectName.substituteKeys, Text.replaceAll,
      Location.endpointToken, Location.keyToken]
  have lastPart : Location.nameFrom "%a%" (⟨[⟨"a", "50%-"⟩]⟩ : ManagementAddress) "e" =
      "5050%-" := by
    simp [Location.nameFrom, ManagementAddress.nameFrom,
      ManagementAddress.substitutePositions, ManagementAddress.arguments, Text.replaceAll,
      Location.endpointToken, Location.keyToken]
  have lastSegment : Location.nameFrom "%a%" (⟨[⟨"a", "%s"⟩, ⟨"b", "x"⟩]⟩ : PlatformPath) "e" =
      "x" := by
    simp [Location.nameFrom, PlatformPath.nameFrom, Text.replaceAll,
      Location.endpointToken, Location.keyToken]
  refine ⟨⟨later, fun h => ?_⟩, ⟨lastPart, fun h => ?_⟩, ⟨lastSegment, fun h => ?_⟩⟩
  · have hname := h ⟨"d", [⟨"a", "%b%"⟩, ⟨"b", "x"⟩], false, by decide⟩ (by decide) "" "" "e"
      (by decide) (by decide)
    exact absurd (later.symm.trans hname) (by decide)
  · have hname := h ⟨[⟨"a", "50%-"⟩]⟩ (by decide) "" "" "e" (by decide) (by decide)
    exact absurd (lastPart.symm.trans hname) (by decide)
  · have hname := h ⟨[⟨"a", "%s"⟩, ⟨"b", "x"⟩]⟩ (by decide) "" "" "e" (by decide) (by decide)
    exact absurd (lastSegment.symm.trans hname) (by decide)

end EndpointMonitor
