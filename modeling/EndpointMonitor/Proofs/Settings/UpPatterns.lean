import EndpointMonitor.Proofs.Pattern.GroupReading
import EndpointMonitor.Proofs.Pattern.Matching
import EndpointMonitor.Settings.UpPattern

/-!
# Up patterns match all of a value

A pattern is put between anchors as text. If it closes no group that it has not opened, the group
around it is the one that was meant: the pattern is valid, and what is compiled matches exactly the
texts that the pattern spans. Otherwise it is not valid, and yet it may be accepted: then it ends
the group that is meant to hold it, and opens another one for the closing parenthesis.

The form of what is compiled is put together from the anchors and the form of the pattern, which
joins literals and takes nested parts out. This does not change what the parts match one after
another, so the form of the pattern has to span the text from one anchor to the other.
-/

namespace EndpointMonitor

namespace Pattern

namespace Form

open EndpointMonitor.Pattern.Expr

variable {text : Array Char} {i k : Nat} {part : Form} {parts rest : List Form}

theorem exprs_eq_map (parts : List Form) : exprs parts = parts.map expr := by
  induction parts with
  | nil => rfl
  | cons part parts ih => rw [exprs, ih, List.map_cons]

/-- The parts match one after another. -/
def SpansAll (text : Array Char) (parts : List Form) (i k : Nat) : Prop :=
  Spans text (sequence (exprs parts)) i k

theorem spansAll_cons_iff : SpansAll text (part :: parts) i k ↔
    ∃ j, Spans text part.expr i j ∧ SpansAll text parts j k :=
  spans_sequence_cons_iff

theorem spansAll_append_iff : SpansAll text (parts ++ rest) i k ↔
    ∃ j, SpansAll text parts i j ∧ SpansAll text rest j k := by
  simp only [SpansAll, exprs_eq_map, List.map_append]
  exact spans_sequence_append_iff

theorem spansAll_joinPart_iff : SpansAll text (joinPart part rest) i k ↔
    SpansAll text (part :: rest) i k := by
  unfold joinPart
  split
  · rw [spansAll_cons_iff]
    constructor
    · intro h
      have hbounds := h.bounds
      exact ⟨i, .empty (by omega), h⟩
    · rintro ⟨j, hnil, h⟩
      exact (spans_empty_iff.1 hnil).1 ▸ h
  · rename_i s t rest
    simp only [spansAll_cons_iff, expr, List.map_append, spans_sequence_append_iff]
    constructor
    · rintro ⟨l, ⟨j, hs, ht⟩, h⟩
      exact ⟨j, hs, l, ht, h⟩
    · rintro ⟨j, hs, l, ht, h⟩
      exact ⟨l, ⟨j, hs, ht⟩, h⟩
  · rfl

theorem spansAll_foldr_joinPart_iff : SpansAll text (parts.foldr joinPart rest) i k ↔
    SpansAll text (parts ++ rest) i k := by
  induction parts generalizing i with
  | nil => rfl
  | cons part parts ih =>
      rw [List.foldr_cons, spansAll_joinPart_iff, spansAll_cons_iff, List.cons_append,
        spansAll_cons_iff]
      simp only [ih]

theorem spansAll_joinParts_iff : SpansAll text (joinParts part rest) i k ↔
    SpansAll text (part :: rest) i k := by
  unfold joinParts
  split
  · rw [spansAll_foldr_joinPart_iff, spansAll_append_iff, spansAll_cons_iff]
    rfl
  · exact spansAll_joinPart_iff

/-- Joining parts does not change what they match one after another. -/
theorem spans_ofParts_iff : Spans text (ofParts parts).expr i k ↔ SpansAll text parts i k := by
  have joined : ∀ {i k},
      SpansAll text (parts.foldr joinParts []) i k ↔ SpansAll text parts i k := by
    induction parts with
    | nil => exact Iff.rfl
    | cons part parts ih =>
        intro i k
        rw [List.foldr_cons, spansAll_joinParts_iff, spansAll_cons_iff, spansAll_cons_iff]
        simp only [ih]
  rw [← joined]
  unfold ofParts
  split
  · rename_i hparts
    rw [hparts]
    rfl
  · rename_i part hparts
    rw [hparts]
    rfl
  · rfl

section Anchors

/-- Only the start of a text has nothing before it. -/
theorem spans_textStart_iff : Spans text (look .textStart).expr i k ↔ i = 0 ∧ k = 0 := by
  constructor
  · intro h
    cases h with
    | look hi htest =>
        by_contra hne
        have hlt : i - 1 < text.size := by omega
        simp only [Look.holds, before, Array.getElem?_eq_getElem hlt] at htest
        split_ifs at htest with hzero
        · exact hne ⟨hzero, hzero⟩
        · cases htest
  · rintro ⟨rfl, rfl⟩
    exact .look (Nat.zero_le _) rfl

/-- Only the end of a text has nothing after it. -/
theorem spans_textEnd_iff :
    Spans text (look .textEnd).expr i k ↔ i = text.size ∧ k = text.size := by
  constructor
  · intro h
    cases h with
    | look hi htest =>
        have hle : text.size ≤ i := by simpa [Look.holds] using htest
        omega
  · rintro ⟨rfl, rfl⟩
    exact .look (Nat.le_refl _) (by simp [Look.holds])

/-- A form between the anchors of a text spans nothing but the whole text. -/
theorem spans_anchored_iff {form : Form} :
    Spans text (ofParts [look .textStart, form, look .textEnd]).expr i k ↔
      i = 0 ∧ k = text.size ∧ Spans text form.expr 0 text.size := by
  simp only [spans_ofParts_iff, spansAll_cons_iff, spans_textStart_iff, spans_textEnd_iff]
  constructor
  · rintro ⟨_, ⟨rfl, rfl⟩, _, hform, _, ⟨rfl, rfl⟩, hnil⟩
    obtain ⟨rfl, -⟩ := spans_empty_iff.1 hnil
    exact ⟨rfl, rfl, hform⟩
  · rintro ⟨rfl, rfl, hform⟩
    exact ⟨0, ⟨rfl, rfl⟩, _, hform, _, ⟨rfl, rfl⟩, .empty (Nat.le_refl _)⟩

/-- So it occurs in a text exactly if the form spans the whole text. -/
theorem occursIn_anchored_iff {form : Form} :
    (ofParts [look .textStart, form, look .textEnd]).expr.occursIn text = true ↔
      Spans text form.expr 0 text.size := by
  simp only [occursIn_iff, spans_anchored_iff]
  exact ⟨fun ⟨_, _, _, _, h⟩ => h, fun h => ⟨0, text.size, rfl, rfl, h⟩⟩

end Anchors

end Form

open Reader Meaning

/-- A pattern in a group between the anchors of a line. -/
def Ast.anchored (body : Ast) : Ast :=
  .concat [.atom (.anchor .lineStart), .group false [] body, .atom (.anchor .lineEnd)]

theorem Ast.depth_anchored (body : Ast) : body.anchored.depth = body.depth + 2 := by
  simp [Ast.anchored, Ast.depth, Ast.depths]

/-- A pattern that opens what it closes is read between the anchors as it is read alone. -/
theorem Reader.read_enclosed {cs : List Char} {ast : Ast}
    (hclosed : ¬ (OpenPattern.start cs).ClosesUnopened)
    (h : Ast.read ('^' :: '(' :: '?' :: ':' :: (cs ++ closing)) = some ast) :
    ∃ body, Ast.read cs = some body ∧ ast = body.anchored := by
  -- Two items are read before the pattern: the anchor, and the parenthesis of the group.
  have hwithin : ((OpenPattern.start cs).within
      ⟨false, [], false, [], [.atom (.anchor .lineStart)]⟩).finish ((cs ++ closing).length + 3) =
        some ast := h
  exact OpenPattern.finish_within hclosed hwithin (Nat.lt_succ_self _)

/-- The flags in the group are those of the start, under which the anchors are those of the text. -/
theorem Meaning.form_anchored (body : Ast) : Meaning.form .initial body.anchored =
    (Meaning.form .initial body).map fun p =>
      (.ofParts [.look .textStart, p.1, .look .textEnd], .initial) := by
  have hflags : Flags.initial.apply [] = Flags.initial := rfl
  have hstart : lookOf .initial .lineStart = .textStart := rfl
  have hend : lookOf .initial .lineEnd = .textEnd := rfl
  cases hform : Meaning.form .initial body <;>
    simp [Ast.anchored, Meaning.form, Meaning.forms, atomForm, hflags, hstart, hend, hform]

namespace Regex

variable {source text : String} {form : Form}

theorem form?_eq_some_iff : form? source = some form ↔
    ∃ ast last, Ast.read source.toList = some ast ∧ ast.depth ≤ Ast.depthLimit ∧
      Meaning.form .initial ast = some (form, last) := by
  simp [form?, Option.bind_eq_some_iff, guard]

theorem compile_eq_some_iff {r : Regex} : compile source = some r ↔
    ∃ form, form? source = some form ∧ form.fits = true ∧ r = ⟨source, form.expr⟩ := by
  simp [compile, Option.bind_eq_some_iff, guard, @eq_comm _ r]

/-- A pattern is valid if it is well-formed, has a meaning, and is not nested too deep. Whether it
is also small enough to be compiled is another matter. -/
def IsValid (source : String) : Prop :=
  (form? source).isSome = true

/-- Some match of the pattern spans all of the text. -/
def SpansWhole (source text : String) : Prop :=
  ∃ form, form? source = some form ∧ form.expr.Spans text.toList.toArray 0 text.toList.length

end Regex

end Pattern

namespace UpPattern

open Pattern Pattern.Reader

variable {pattern : String} {up : UpPattern}

theorem toList_anchored (pattern : String) :
    (anchored pattern).toList = '^' :: '(' :: '?' :: ':' :: (pattern.toList ++ closing) := by
  simp [anchored, closing]

theorem compile_eq_ok_iff :
    compile pattern = .ok up ↔ Regex.compile (anchored pattern) = some up.regex := by
  unfold compile
  cases Regex.compile (anchored pattern) with
  | none => simp
  | some regex =>
      cases up
      simp

/-- A pattern that closes what it has not opened is not valid. -/
theorem not_isValid (h : (OpenPattern.start pattern.toList).ClosesUnopened) :
    ¬ Regex.IsValid pattern := by
  intro hvalid
  obtain ⟨form, hform⟩ := Option.isSome_iff_exists.1 hvalid
  obtain ⟨ast, -, hread, -⟩ := Regex.form?_eq_some_iff.1 hform
  rw [Ast.read, h.finish_eq_none] at hread
  cases hread

/-- What is compiled for a pattern that opens what it closes is its own form between anchors. -/
theorem exists_form (hclosed : ¬ (OpenPattern.start pattern.toList).ClosesUnopened)
    (h : compile pattern = .ok up) : ∃ form, Regex.form? pattern = some form ∧
      up.regex.expr = (Form.ofParts [.look .textStart, form, .look .textEnd]).expr := by
  obtain ⟨whole, hwhole, -, hup⟩ := Regex.compile_eq_some_iff.1 (compile_eq_ok_iff.1 h)
  obtain ⟨ast, last, hread, hdepth, hmeaning⟩ := Regex.form?_eq_some_iff.1 hwhole
  rw [toList_anchored] at hread
  obtain ⟨body, hbody, rfl⟩ := read_enclosed hclosed hread
  rw [Ast.depth_anchored] at hdepth
  rw [Meaning.form_anchored] at hmeaning
  obtain ⟨⟨form, last⟩, hform, hparts⟩ := Option.map_eq_some_iff.1 hmeaning
  cases hparts
  exact ⟨form, Regex.form?_eq_some_iff.2 ⟨body, last, hbody, by omega, hform⟩,
    congrArg Regex.expr hup⟩

theorem isMatch_iff {form : Form} (text : String)
    (hexpr : up.regex.expr = (Form.ofParts [.look .textStart, form, .look .textEnd]).expr) :
    up.isMatch text = true ↔ form.expr.Spans text.toList.toArray 0 text.toList.length := by
  rw [isMatch, Regex.isMatch, hexpr, Form.occursIn_anchored_iff, List.size_toArray]

/-- The pattern of a configuration counts as UP what it spans from one end to the other. It is
accepted only if it is valid, and refused with its own text. -/
structure MatchesWhole (pattern : String) : Prop where
  valid : ∀ up, compile pattern = .ok up → Regex.IsValid pattern
  whole : ∀ up, compile pattern = .ok up →
    ∀ text, up.isMatch text = true ↔ Regex.SpansWhole pattern text
  refused : ∀ fault, compile pattern = .error fault →
    fault = .invalid (.invalidUpPattern pattern)

theorem fault_eq {fault : ConfigError} (h : compile pattern = .error fault) :
    fault = .invalid (.invalidUpPattern pattern) := by
  unfold compile at h
  split at h <;> cases h
  rfl

/-- If a pattern that is accepted opens what it closes, it matches all of a value. -/
theorem matchesWhole_of_opened
    (hclosed : ∀ up, compile pattern = .ok up →
      ¬ (OpenPattern.start pattern.toList).ClosesUnopened) : MatchesWhole pattern where
  valid up hup := by
    obtain ⟨form, hform, -⟩ := exists_form (hclosed up hup) hup
    exact Option.isSome_iff_exists.2 ⟨form, hform⟩
  whole up hup text := by
    obtain ⟨form, hform, hexpr⟩ := exists_form (hclosed up hup) hup
    rw [isMatch_iff text hexpr, Regex.SpansWhole]
    constructor
    · intro hspans
      exact ⟨form, hform, hspans⟩
    · rintro ⟨form', hform', hspans⟩
      rw [hform] at hform'
      cases hform'
      exact hspans
  refused _ := fault_eq

/-- A valid pattern matches all of a value. -/
theorem matchesWhole_of_isValid (hvalid : Regex.IsValid pattern) : MatchesWhole pattern :=
  matchesWhole_of_opened fun _ _ hunopened => not_isValid hunopened hvalid

/-- A pattern matches all of a value unless it closes a group that it has not opened and is accepted
nevertheless. -/
theorem matchesWhole_iff (pattern : String) : MatchesWhole pattern ↔
    ((OpenPattern.start pattern.toList).ClosesUnopened → ∀ up, compile pattern ≠ .ok up) := by
  constructor
  · intro h hunopened up hup
    exact not_isValid hunopened (h.valid up hup)
  · intro hrefused
    exact matchesWhole_of_opened fun up hup hunopened => hrefused hunopened up hup

/-- The pattern closes the group around it and opens one that is closed behind it, so each of the
anchors is on one side of its bar. -/
theorem not_matchesWhole_unopened : ¬ MatchesWhole "UP)|(?:OK" := by
  have haccepted : (compile "UP)|(?:OK").toOption.isSome = true := by decide +kernel
  have hinvalid : Regex.form? "UP)|(?:OK" = none := by decide +kernel
  intro h
  cases hcompile : compile "UP)|(?:OK" with
  | error fault =>
      rw [hcompile] at haccepted
      cases haccepted
  | ok up =>
      have hvalid := h.valid up hcompile
      rw [Regex.IsValid, hinvalid] at hvalid
      cases hvalid

/-- What stands behind the first option counts as well. -/
example : (compile "UP)|(?:OK").toOption.map (·.isMatch "UP and more") = some true := by
  decide +kernel

end UpPattern

end EndpointMonitor
