/-! # Punycode

A label of a domain name beyond ASCII is written as its ASCII characters, and for every other one how far
to go on in the list of all pairs of a character and a position.
-/

namespace JsonSchema.Url

namespace Punycode

/-- The character of a digit. -/
def digit (n : Nat) : Char := Char.ofNat (if n < 26 then 97 + n else 22 + n)

/-- The value of a digit. -/
def digit? (c : Char) : Option Nat :=
  if 'a' ≤ c ∧ c ≤ 'z' then some (c.toNat - 97)
  else if '0' ≤ c ∧ c ≤ '9' then some (c.toNat - 22)
  else none

/-- The weight above which the digits of a number go on, at a place given by the thirty-sixes before it. -/
def threshold (bias place : Nat) : Nat := min 26 (max 1 (place - bias))

/-- Halves a distance until it is small, and tells how often. -/
def shrink (delta rounds : Nat) : Nat → Nat × Nat
  | 0 => (delta, rounds)
  | fuel + 1 => if 455 < delta then shrink (delta / 35) (rounds + 1) fuel else (delta, rounds)

/-- The bias after a distance that led to one of some number of characters. -/
def adapt (delta count : Nat) (isFirst : Bool) : Nat :=
  let delta := if isFirst then delta / 700 else delta / 2
  let (rest, rounds) := shrink (delta + delta / count) 0 delta
  36 * rounds + 36 * rest / (rest + 38)

/-- The digits of a number, the least one first. -/
def encodeNumber (bias n place : Nat) : Nat → List Char
  | 0 => []
  | fuel + 1 =>
    let t := threshold bias place
    if n < t then [digit n]
    else digit (t + (n - t) % (36 - t)) :: encodeNumber bias ((n - t) / (36 - t)) (place + 36) fuel

/-- What is known while a label is written: the distance, the bias and how many characters are written. -/
structure State where
  delta : Nat
  bias : Nat
  written : Nat

/-- Passes the characters of a label, writing a distance for each of one kind. -/
def encodePass (target : Nat) (basic : Nat) : List Char → State → List Char × State
  | [], state => ([], state)
  | c :: rest, state =>
    if c.toNat < target then encodePass target basic rest { state with delta := state.delta + 1 }
    else if c.toNat = target then
      let digits := encodeNumber state.bias state.delta 36 (state.delta + 1)
      let bias := adapt state.delta (state.written + 1) (state.written == basic)
      let (more, state) := encodePass target basic rest ⟨0, bias, state.written + 1⟩
      (digits ++ more, state)
    else encodePass target basic rest state

/-- Writes the characters of each kind in turn, given the code points from the least on. -/
def encodeKinds (label : List Char) (basic : Nat) : List Nat → Nat → State → List Char
  | [], _, _ => []
  | target :: rest, next, state =>
    let state := { state with delta := state.delta + (target - next) * (state.written + 1) }
    let (digits, state) := encodePass target basic label state
    digits ++ encodeKinds label basic rest (target + 1) { state with delta := state.delta + 1 }

/-- The written form of a label. -/
def encode (label : List Char) : List Char :=
  let basic := label.filter (·.toNat < 128)
  let others := ((label.map Char.toNat).filter (128 ≤ ·)).eraseDups.mergeSort
  basic ++ (if basic.isEmpty then [] else ['-']) ++ encodeKinds label basic.length others 128 ⟨0, 72, basic.length⟩

/-- Reads a number and gives what follows it. -/
def decodeNumber? (bias place weight : Nat) : List Char → Option (Nat × List Char)
  | [] => none
  | c :: rest => do
    let d ← digit? c
    let t := threshold bias place
    if d < t then return (d * weight, rest)
    let (more, rest) ← decodeNumber? bias (place + 36) (weight * (36 - t)) rest
    return (d * weight + more, rest)

/-- Reads the distances of a label, within `fuel` characters, from a code point and a position on. -/
def decodeFrom? (label : List Char) (point position bias : Nat) (isFirst : Bool) (rest : List Char) :
    Nat → Option (List Char)
  | 0 => if rest.isEmpty then some label else none
  | fuel + 1 =>
    if rest.isEmpty then some label
    else do
      let (delta, rest) ← decodeNumber? bias 36 1 rest
      let size := label.length + 1
      let point := point + (position + delta) / size
      let position := (position + delta) % size
      if Nat.isValidChar point then
        decodeFrom? (label.take position ++ Char.ofNat point :: label.drop position) point (position + 1)
          (adapt delta size isFirst) false rest fuel
      else none

/-- The label of a written form. -/
def decode? (text : List Char) : Option (List Char) :=
  let digits := (text.reverse.takeWhile (· != '-')).reverse
  let basic := (text.take (text.length - digits.length)).dropLast
  decodeFrom? basic 128 0 72 true digits digits.length

end Punycode

end JsonSchema.Url
