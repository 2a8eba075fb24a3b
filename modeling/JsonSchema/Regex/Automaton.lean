import JsonSchema.Regex.Shape
import Std.Data.TreeMap

/-! # The size of an automaton

The expressions that may be used are those whose automata take a limited amount of memory. An
automaton reads bytes; it has states that pass on, that read one byte of a range, that read a byte of
several ranges, and that choose among states. There is one automaton for reading forward, which also
records the places of groups, and one for reading backward. Only the number of states and of their
branches matters, so an automaton is laid out without keeping it. Sets of characters beyond ASCII share
states through tables with a fixed number of slots, where a newer entry takes the slot of an older one;
which entries meet in a slot depends on the numbers of states.
-/

namespace JsonSchema.Regex

/-- The order in which an automaton reads a text. -/
inductive Direction where
  | forward
  | backward
  deriving DecidableEq

namespace Automaton

/-- The greatest amount of memory in bytes: ten mebibytes. -/
def memoryLimit : Nat := 10 * Nat.pow 2 20

/-- The memory of a state without its branches. -/
def stateSize : Nat := 32

/-- The memory of a branch that reads a byte. -/
def readingSize : Nat := 8

/-- The memory of a branch that reads nothing. -/
def choiceSize : Nat := 4

/-- The states that have been laid out, numbered from zero on, and the memory of their branches. -/
structure Extent where
  states : Nat
  branches : Nat
  deriving DecidableEq

/-- The memory of what has been laid out. -/
def Extent.memory (extent : Extent) : Nat := extent.states * stateSize + extent.branches

/-- A step of laying out, unless memory runs out. -/
abbrev Step := Extent → Option Extent

/-- One more state with the memory of its branches. -/
def state (branches : Nat) : Step := fun extent =>
  let extent := { states := extent.states + 1, branches := extent.branches + branches : Extent }
  if extent.memory ≤ memoryLimit then some extent else none

/-- A step taken several times. -/
def times (step : Step) : Nat → Step
  | 0, extent => some extent
  | n + 1, extent => (step extent).bind (times step n)

/-- One step after another. -/
def andThen (first second : Step) : Step := fun extent => (first extent).bind second

/-- A state that chooses among some number of others. -/
def choice (count : Nat) : Step := state (count * choiceSize)

/-- A state that reads a byte of one or of several ranges. -/
def reading (ranges : Nat) : Step := state (if ranges = 1 then 0 else ranges * readingSize)

/-! ## Sets of characters -/

/-- A number for a slot, made of several numbers with the multiplication of Fowler, Noll and Vo. -/
def slotOf (values : List Nat) (slots : Nat) : Nat :=
  (values.foldl (fun h value => (h ^^^ value.toUInt64) * 1099511628211) (14695981039346656037 : UInt64)).toNat % slots

/-- A table of states with a fixed number of slots: what a state was made from, and its number. -/
abbrev SlotTable := Std.TreeMap Nat (List Nat × Nat)

/-- What is known while a set is laid out. -/
structure SetState where
  extent : Extent
  known : SlotTable

/-- The number of the state that is made from some numbers: a known one, or a new one with its branches. -/
def SetState.intern (state : SetState) (slots : Nat) (key : List Nat) (branches : Nat) : Option (Nat × SetState) :=
  let slot := slotOf key slots
  let fresh :=
    (Automaton.state branches state.extent).map fun extent =>
      (state.extent.states, { extent, known := state.known.insert slot (key, state.extent.states) : SetState })
  match state.known[slot]? with
  | some (found, number) => if found == key then some (number, state) else fresh
  | none => fresh

/-- The number of slots for states that read forward. -/
def forwardSlots : Nat := 10000

/-- The number of slots for states that read backward. -/
def backwardSlots : Nat := 1000

/-- Sequences by the range that they start with, with what follows it. -/
def byFirst (sequences : List (List ByteRange)) : List (ByteRange × List (List ByteRange)) :=
  (sequences.splitBy fun a b => a.head? == b.head?).filterMap fun group =>
    match group with
    | (range :: _) :: _ => some (range, group.map List.tail)
    | _ => none

/-- Lays out states for sequences, the last ones first, and gives the number of the first one. Sequences have at
most `depth` ranges, and `target` is where they lead. -/
def layTree (target : Nat) : Nat → List (List ByteRange) → SetState → Option (Nat × SetState)
  | 0, _, state => some (target, state)
  | depth + 1, sequences, state => do
    let (key, state) ← (byFirst sequences).foldlM (fun (key, state) (range, rest) => do
      let (next, state) ←
        if rest.all List.isEmpty then some (target, state) else layTree target depth rest state
      return (key ++ [range.1, range.2, next], state)) (([] : List Nat), state)
    state.intern forwardSlots key (key.length / 3 * readingSize)

/-- Lays out a set for reading forward. -/
def layForward (sequences : List (List ByteRange)) : Step := fun extent => do
  let target := extent.states
  let extent ← state 0 extent
  let (_, state) ← layTree target 4 sequences ⟨extent, {}⟩
  return state.extent

/-- Lays out one sequence for reading backward, from a state on. -/
def laySequence (target : Nat) (sequence : List ByteRange) (state : SetState) : Option SetState := do
  let (_, state) ← sequence.foldlM (fun (next, state) range =>
    state.intern backwardSlots [next, range.1, range.2] 0) (target, state)
  return state

/-- Lays out a set for reading backward. -/
def layBackward (sequences : List (List ByteRange)) : Step := fun extent => do
  let target := extent.states + 1
  let extent ← andThen (choice sequences.length) (state 0) extent
  let state ← sequences.foldlM (fun state sequence => laySequence target sequence state) ⟨extent, {}⟩
  return state.extent

/-- Lays out a set of characters. -/
def layMembers (direction : Direction) (ranges : Unicode.Ranges) : Step :=
  if ranges.all fun range => range.2 < 128 then andThen (state 0) (reading ranges.length)
  else
    let sequences := ranges.flatMap byteSequences
    match direction with
    | .forward => layForward sequences
    | .backward => layBackward sequences

/-! ## Literals -/

/-- Divides a list of literals at the empty ones. -/
def chunksOf : List (List Nat) → List (List (List Nat))
  | [] => [[]]
  | literal :: rest =>
    match chunksOf rest with
    | [] => [[literal]]
    | chunk :: chunks => if literal.isEmpty then [] :: chunk :: chunks else (literal :: chunk) :: chunks

/-- Lays out a tree of literals, none of them longer than `depth`: at each place the bytes that go on, in chunks
between which the place is an end. -/
def layLiterals : Nat → List (List Nat) → Step
  | 0, _ => some
  | depth + 1, literals => fun extent =>
    let chunks := match chunksOf literals with
      | [] :: chunks => [] :: chunks.dropWhile List.isEmpty
      | chunks => chunks
    let ends := (chunks.length - 1)
    let chunks := chunks.filter fun chunk => !chunk.isEmpty
    if chunks.isEmpty then some extent
    else do
      let extent ← chunks.foldlM (fun extent chunk => do
        let firsts := (chunk.filterMap List.head?).eraseDups
        let extent ← firsts.foldlM (fun extent byte =>
          layLiterals depth ((chunk.filter (·.head? == some byte)).map List.tail) extent) extent
        reading firsts.length extent) extent
      choice (chunks.length + ends) extent

/-- The bytes of a literal. -/
def literal? : Shape → Option (List Nat)
  | .literal bytes => some bytes
  | _ => none

/-! ## Shapes -/

/-- Lays out a repetition of what a step lays out. -/
def layRepeated (step : Step) (isNonempty : Bool) (least : Nat) (most : Option Nat) : Step :=
  let exactly (n : Nat) : Step := if n = 0 then state 0 else times step n
  match most with
  | none =>
    if least = 0 then
      if isNonempty then andThen (choice 2) step
      else andThen step (andThen (choice 2) (andThen (choice 2) (state 0)))
    else andThen (times step least) (choice 2)
  | some most =>
    if least = most then exactly least
    else if least = 0 ∧ most = 1 then andThen (choice 2) (andThen step (state 0))
    else andThen (exactly least) (andThen (state 0) (times (andThen (choice 2) step) (most - least)))

mutual

/-- Lays out a shape. -/
def lay (direction : Direction) : Shape → Step
  | .empty => state 0
  | .literal bytes => times (reading 1) bytes.length
  | .members ranges => layMembers direction ranges
  | .condition _ => state 0
  | .repeated body least most _ =>
    layRepeated (lay direction body) (body.least?.any (0 < ·)) least most
  | .captured body =>
    match direction with
    | .forward => andThen (state 0) (andThen (lay direction body) (state 0))
    | .backward => lay direction body
  | .sequence parts => layAll direction parts
  | .choice parts =>
    match parts.mapM literal? with
    | some literals =>
      andThen (state 0) (layLiterals ((literals.map List.length).foldl max 0 + 1)
        (match direction with | .forward => literals | .backward => literals.map List.reverse))
    | none => layChoice direction parts.length parts

/-- Lays out shapes one after the other, in the order in which they are read. -/
def layAll (direction : Direction) : List Shape → Step
  | [] => some
  | part :: rest =>
    match direction with
    | .forward => andThen (lay direction part) (layAll direction rest)
    | .backward => andThen (layAll direction rest) (lay direction part)

/-- Lays out alternatives; the state that chooses among all `count` of them comes after the first two. -/
def layChoice (direction : Direction) (count : Nat) : List Shape → Step
  | [] => some
  | [first] => lay direction first
  | first :: second :: rest =>
    andThen (lay direction first) (andThen (lay direction second)
      (andThen (choice count) (andThen (state 0) (layRest direction rest))))

/-- Lays out the alternatives after the first two. -/
def layRest (direction : Direction) : List Shape → Step
  | [] => some
  | part :: rest => andThen (lay direction part) (layRest direction rest)

end

/-- Lays out what a match may be preceded by: any bytes, unless it must start at an end of the text. -/
def layLead (isAnchored : Bool) : Step :=
  if isAnchored then state 0 else andThen (choice 2) (andThen (state 0) (reading 1))

/-- Lays out an automaton; reading forward, the whole match is recorded. -/
def layWhole (direction : Direction) (shape : Shape) : Step :=
  match direction with
  | .forward => andThen (layLead (shape.isAnchored .start)) (andThen (lay direction (.captured shape)) (state 0))
  | .backward => andThen (layLead (shape.isAnchored .finish)) (andThen (lay direction shape) (state 0))

/-- Whether the automata of a shape fit into memory. -/
def fits (shape : Shape) : Bool :=
  (layWhole .forward shape ⟨0, 0⟩).isSome && (layWhole .backward shape ⟨0, 0⟩).isSome

end Automaton

end JsonSchema.Regex
