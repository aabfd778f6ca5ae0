import EndpointMonitor.Pattern.ByteSequence
import EndpointMonitor.Pattern.Form
import Std.Data.HashMap

/-!
# The size of a pattern

A pattern is carried out by a machine with a state for each byte, each fork and each test. The
machine is built twice, once for reading forwards and once for reading backwards, and a pattern
is refused if either machine takes more room than there is. Only what the machines take is
counted here. States for the bytes of a set are shared as far as a memory of limited size shows
that they are the same, so that its places are part of the count.
-/

namespace EndpointMonitor.Pattern

/-- A machine under construction: the number of its states, and the room that they take beyond the
room of a state. -/
structure Machine where
  states : Nat
  extra : Nat

namespace Machine

/-- The machine without states. -/
def new : Machine :=
  ⟨0, 0⟩

/-- The room that is taken. -/
def room (m : Machine) : Nat :=
  32 * m.states + m.extra

/-- The room that there is. -/
def limit : Nat :=
  10485760

/-- Take more room for the states that there are. -/
def widen (extra : Nat) (m : Machine) : Machine :=
  ⟨m.states, m.extra + extra⟩

/-- The machine, if there is room for it. -/
def check (m : Machine) : Option Machine :=
  if m.room ≤ limit then some m else none

/-- Add states that take some room beyond that of states. -/
def grow (count extra : Nat) (m : Machine) : Option Machine :=
  check ⟨m.states + count, m.extra + extra⟩

/-- The room for a link that starts at a fork. -/
def link : Nat :=
  4

/-- The room for a byte range that leads from a state to another one. -/
def step : Nat :=
  8

/-- Build something several times, with some room for each joint. -/
def copies (one : Machine → Option Machine) (joint : Nat) : Nat → Machine → Option Machine
  | 0, m => some m
  | n + 1, m =>
    match one m with
    | some m => copies one joint n (m.widen joint)
    | none => none

end Machine

namespace Machine

/-- Mix a number into a hash. -/
def mix (hash : UInt64) (n : Nat) : UInt64 :=
  (hash ^^^ UInt64.ofNat n) * 1099511628211

/-- The place for a key among a number of places. -/
def place (places : UInt64) (key : List Nat) : UInt64 :=
  key.foldl mix 14695981039346656037 % places

/-- A machine, and a memory of the states that have been added for some keys. Each place of the
memory holds what was put there last. -/
structure Memory where
  machine : Machine
  known : Std.HashMap UInt64 (List Nat × Nat)

/-- The state for a key: one that is known, or a new one that takes some room. -/
def state (places : UInt64) (extra : Nat) (key : List Nat) (m : Memory) : Option (Nat × Memory) :=
  let p := place places key
  match (m.known[p]?).filter (·.1 = key) with
  | some (_, id) => some (id, m)
  | none => do
    let machine ← m.machine.grow 1 extra
    let id := m.machine.states
    return (id, ⟨machine, m.known.insert p (key, id)⟩)

/-- Sequences that start with the same range of bytes, by turns: the range, and what follows. -/
def byFirst (sequences : List (List ByteRange)) : List (ByteRange × List (List ByteRange)) :=
  (sequences.splitBy fun s t => s.head? = t.head?).filterMap fun group =>
    (group.head?.bind List.head?).map fun range => (range, group.map List.tail)

/-- The state that reads some sequences of at most so many bytes and goes on to a target. -/
def reader (target : Nat) : Nat → List (List ByteRange) → Memory → Option (Nat × Memory)
  | 0, _, m => some (target, m)
  | bytes + 1, sequences, m =>
    if sequences.all List.isEmpty then some (target, m)
    else do
      let steps := byFirst sequences
      let (key, m) ← steps.foldlM (fun (key, m) (range, rests) => do
        let (id, m) ← reader target bytes rests m
        return (id :: range.last :: range.first :: key, m)) ([], m)
      state 10000 (step * steps.length) key.reverse m

/-- Read the characters of a set forwards: the state after them, and the states that read their
bytes. -/
def forwards (members : CodeSet) (m : Machine) : Option Machine := do
  let started ← m.grow 1 0
  let (_, memory) ← reader m.states 4 (ByteSequence.ofSet members) ⟨started, ∅⟩
  return memory.machine

/-- Read the characters of a set backwards: a fork, the state after them, and for each sequence
the states that lead to it from its last byte to its first. -/
def backwards (members : CodeSet) (m : Machine) : Option Machine := do
  let started ← m.grow 2 0
  let start : Memory := ⟨started, ∅⟩
  let memory ← (ByteSequence.ofSet members).foldlM (fun memory sequence => do
    let (_, memory) ← sequence.foldlM (fun (target, memory) range =>
      state 1000 0 [target, range.first, range.last] memory) (m.states + 1, memory)
    return { memory with machine := memory.machine.widen link }) start
  return memory.machine

/-- The room for words that share their starts: a fork at each place, with a link for each word
that ends there and for each bundle of the words between two such ends, and in each bundle a step
for each next byte. Words that end where nothing goes on yet end together. -/
def wordStates : (longest : Nat) → List (List Nat) → Machine → Option Machine
  | 0, _, m => some m
  | longest + 1, words, m =>
    if words.all List.isEmpty then some m
    else do
      let later := words.dropWhile List.isEmpty
      let ends := later.countP List.isEmpty + if later.length < words.length then 1 else 0
      let bundles := (later.splitBy fun s t => s.isEmpty == t.isEmpty).filter fun bundle =>
        !bundle.all List.isEmpty
      let m ← bundles.foldlM (fun m bundle => do
        let bytes := (bundle.filterMap List.head?).eraseDups
        let m ← bytes.foldlM (fun m byte =>
          wordStates longest ((bundle.filter (·.head? = some byte)).map List.tail) m) m
        m.grow 1 (if bytes.length = 1 then 0 else step * bytes.length)) m
      m.grow 1 (link * (bundles.length + ends))

/-- The bytes of a text in the order in which they are read. -/
def bytes (reversed : Bool) (cs : List Char) : List Nat :=
  let bytes := (String.ofList cs).toUTF8.toList.map UInt8.toNat
  if reversed then bytes.reverse else bytes

end Machine

namespace Form

/-- The text of a literal. -/
def literal? : Form → Option (List Char)
  | .literal cs => some cs
  | _ => none

mutual

/-- Whether the states of a form end in a fork. -/
def endsInFork (reversed : Bool) : Form → Bool
  | .repetition least none _ body => 0 < least || (minLength? body).any (0 < ·)
  | .repetition least (some most) _ body => least == most && endsInFork reversed body
  | .capture body => reversed && endsInFork reversed body
  | .concat parts => lastEndsInFork reversed parts
  | _ => false

/-- Whether the states of the last of some forms end in a fork. -/
def lastEndsInFork (reversed : Bool) : List Form → Bool
  | [] => false
  | [form] => endsInFork reversed form
  | _ :: rest => lastEndsInFork reversed rest

end

/-- The room for a link from the end of a form. -/
def joint (reversed : Bool) (form : Form) : Nat :=
  if endsInFork reversed form then Machine.link else 0

open Machine in
/-- Repeat what `one` builds, from whose end a link takes the room of `joint`. If a match may have
no byte, a repetition without end is one that is left out or done at least once. -/
def addRepetition (one : Machine → Option Machine) (joint : Nat) (mayBeEmpty : Bool) (least : Nat)
    (most : Option Nat) (m : Machine) : Option Machine := do
  let again (m : Machine) : Option Machine := (m.widen (joint + link)).grow 1 0
  let maybe (m : Machine) : Option Machine := do one (← (m.widen (joint + 2 * link)).grow 1 0)
  match least, most with
  | 0, none =>
    if mayBeEmpty then ((← again (← one m)).widen (3 * link)).grow 2 0
    else return (← one (← m.grow 1 0)).widen (joint + link)
  | least + 1, none => again (← one (← copies one joint least m))
  | 0, some 1 => (← maybe m).grow 1 0
  | 0, some most => copies maybe 0 most (← m.grow 2 0)
  | least + 1, some most =>
    let m ← one (← copies one joint least m)
    if least + 1 = most then return m
    else copies maybe 0 (most - least - 1) (← (m.widen joint).grow 1 0)

mutual

/-- Build the states of a form. -/
def build (reversed : Bool) : Form → Machine → Option Machine
  | .empty, m => m.grow 1 0
  | .literal cs, m => m.grow (cs.map byteCount).sum 0
  | .set _ members, m =>
    if members.isAscii then m.grow 2 (Machine.step * members.ranges.length)
    else if reversed then Machine.backwards members m
    else Machine.forwards members m
  | .look _, m => m.grow 1 0
  | .repetition least most _ body, m =>
    addRepetition (build reversed body) (joint reversed body)
      (!(minLength? body).any (0 < ·)) least most m
  | .capture body, m =>
    if reversed then build reversed body m
    else do ((← build reversed body (← m.grow 1 0)).widen (joint reversed body)).grow 1 0
  | .concat parts, m => buildParts reversed parts m
  | .alternation options, m =>
    match options.mapM literal? with
    | some words =>
      let words := words.map (Machine.bytes reversed)
      do Machine.wordStates ((words.map List.length).foldl max 0 + 1) words (← m.grow 1 0)
    | none => buildOptions reversed 0 options m

/-- Build the states of forms one after the other. -/
def buildParts (reversed : Bool) : List Form → Machine → Option Machine
  | [], m => some m
  | [form], m => build reversed form m
  | form :: rest, m => do
    let m ← build reversed form m
    buildParts reversed rest (m.widen (joint reversed form))

/-- Build the states of options, of which some have been built. The fork and the state after them
come after the second one. -/
def buildOptions (reversed : Bool) (built : Nat) : List Form → Machine → Option Machine
  | [], m => some m
  | form :: rest, m => do
    let m ← build reversed form m
    let m := m.widen (Machine.link + joint reversed form)
    buildOptions reversed (built + 1) rest (← m.grow (if built = 1 then 2 else 0) 0)

end

/-- Build the states that look for a form in a text, unless every match is bound to the start. A
machine for reading forwards notes where the match starts and ends. -/
def buildSearch (reversed : Bool) (form : Form) : Option Machine := do
  let bound := startsWith (if reversed then .textEnd else .textStart) form
  let m ← Machine.new.grow (if bound then 1 else 3)
    (if bound then 0 else 2 * Machine.link + Machine.step)
  let m ← build reversed (if reversed then form else .capture form) m
  (m.widen (if reversed then joint reversed form else 0)).grow 1 0

/-- Whether there is room for both machines of a form. -/
def fits (form : Form) : Bool :=
  (buildSearch true (reverse form)).isSome && (buildSearch false form).isSome

end Form

end EndpointMonitor.Pattern
