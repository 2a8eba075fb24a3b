import JsonSchema.Regex.ByteSequence
import JsonSchema.Regex.CharSet

/-! # Shapes of expressions

The shape of an expression is what an automaton is made from. Characters that follow each other
are one run of bytes, parts that match nothing but the empty text vanish from sequences, alternatives
of single characters are one set, and parts that all alternatives start with are taken out.
-/

namespace JsonSchema.Regex

/-- What a condition on a position says of the whole text. -/
inductive Anchor where
  | start
  | finish
  | other
  deriving DecidableEq

/-- The shape of an expression. -/
inductive Shape where
  | empty
  /-- Bytes, at least one. -/
  | literal (bytes : List Nat)
  | members (ranges : Unicode.Ranges)
  | condition (anchor : Anchor)
  /-- A part that is repeated, and whether few rounds are preferred. -/
  | repeated (body : Shape) (least : Nat) (most : Option Nat) (isLazy : Bool)
  /-- A part whose place in the text is recorded. -/
  | captured (body : Shape)
  | sequence (parts : List Shape)
  | choice (parts : List Shape)

namespace Shape

mutual

/-- Whether two shapes are the same; parts that are recorded never are. -/
def same : Shape → Shape → Bool
  | .empty, .empty => true
  | .literal a, .literal b => a == b
  | .members a, .members b => a == b
  | .condition a, .condition b => a == b
  | .repeated a least most isLazy, .repeated b least' most' isLazy' =>
    least == least' && most == most' && isLazy == isLazy' && same a b
  | .sequence a, .sequence b => sameAll a b
  | .choice a, .choice b => sameAll a b
  | _, _ => false

/-- Whether two lists hold the same shapes. -/
def sameAll : List Shape → List Shape → Bool
  | [], [] => true
  | a :: as, b :: bs => same a b && sameAll as bs
  | _, _ => false

end

/-! ## Lengths -/

/-- The number of bytes of a set's shortest member. -/
def shortestMember? (ranges : Unicode.Ranges) : Option Nat := ranges.head?.map fun range => (bytesOf range.1).length

/-- The number of bytes of a set's longest member. -/
def longestMember? (ranges : Unicode.Ranges) : Option Nat :=
  ranges.getLast?.map fun range => (bytesOf range.2).length

mutual

/-- The number of bytes of the shortest match, if it is known that there is one. -/
def least? : Shape → Option Nat
  | .empty => some 0
  | .literal bytes => some bytes.length
  | .members ranges => shortestMember? ranges
  | .condition _ => some 0
  | .repeated body least _ _ => (least? body).map (· * least)
  | .captured body => least? body
  | .sequence parts => leastTotal? parts
  | .choice parts => leastChoice? parts

/-- The sum of the shortest matches. -/
def leastTotal? : List Shape → Option Nat
  | [] => some 0
  | part :: rest => (least? part).bind fun n => (leastTotal? rest).map (n + ·)

/-- The least of the shortest matches. -/
def leastChoice? : List Shape → Option Nat
  | [] => none
  | [part] => least? part
  | part :: rest => (least? part).bind fun n => (leastChoice? rest).map (min n)

end

mutual

/-- The number of bytes of the longest match, if there is a bound. -/
def most? : Shape → Option Nat
  | .empty => some 0
  | .literal bytes => some bytes.length
  | .members ranges => longestMember? ranges
  | .condition _ => some 0
  | .repeated body _ most _ => most.bind fun n => (most? body).map (· * n)
  | .captured body => most? body
  | .sequence parts => mostTotal? parts
  | .choice parts => mostChoice? parts

/-- The sum of the longest matches. -/
def mostTotal? : List Shape → Option Nat
  | [] => some 0
  | part :: rest => (most? part).bind fun n => (mostTotal? rest).map (n + ·)

/-- The greatest of the longest matches. -/
def mostChoice? : List Shape → Option Nat
  | [] => none
  | [part] => most? part
  | part :: rest => (most? part).bind fun n => (mostChoice? rest).map (max n)

end

/-- Whether a shape matches the empty text alone. -/
def isEmptyOnly (shape : Shape) : Bool := shape.most? == some 0

/-! ## Construction -/

/-- The shape of a set. -/
def ofRanges (ranges : Unicode.Ranges) : Shape :=
  match ranges with
  | [(first, last)] => if first = last then .literal (bytesOf first) else .members ranges
  | _ => .members ranges

/-- The shape of a set of characters. -/
def ofSet (set : CharSet) : Shape := ofRanges set.ranges

/-- A repeated shape: more than one round of the empty text is none. -/
def rounds (body : Shape) (least : Nat) (most : Option Nat) (isLazy : Bool) : Shape :=
  let (least, most) :=
    if body.isEmptyOnly then (min least 1, some (min (most.getD 1) 1)) else (least, most)
  if least = 0 ∧ most = some 0 then .empty
  else if least = 1 ∧ most = some 1 then body
  else .repeated body least most isLazy

/-- Joins literals that follow each other. -/
def joinLiterals : List Shape → List Shape
  | [] => []
  | .empty :: rest => joinLiterals rest
  | .literal bytes :: rest =>
    match joinLiterals rest with
    | .literal more :: rest => .literal (bytes ++ more) :: rest
    | rest => .literal bytes :: rest
  | part :: rest => part :: joinLiterals rest

/-- Shapes one after the other. -/
def follow (parts : List Shape) : Shape :=
  match joinLiterals (parts.flatMap fun | .sequence inner => inner | part => [part]) with
  | [] => .empty
  | [part] => part
  | parts => .sequence parts

/-- The character that a literal is, if it is one. -/
def literalChar? : Shape → Option Nat
  | .literal bytes =>
    let first := bytes.headD 0
    let char := if first < 0x80 then first else
      let mark := if first < 0xE0 then 0xC0 else if first < 0xF0 then 0xE0 else 0xF0
      bytes.tail.foldl (fun n byte => n * 64 + (byte - 0x80)) (first - mark)
    if bytesOf char = bytes then some char else none
  | _ => none

/-- The members of a set. -/
def members? : Shape → Option Unicode.Ranges
  | .members ranges => some ranges
  | _ => none

/-- The set that alternatives make up, if all are characters or all are sets. -/
def joinSets? (parts : List Shape) : Option Unicode.Ranges :=
  match parts.mapM literalChar? with
  | some chars => some (Unicode.Ranges.normalize (chars.map fun c => (c, c)))
  | none => (parts.mapM members?).map fun sets => Unicode.Ranges.normalize sets.flatten

/-- How many parts two sequences have in common at their starts. -/
def commonLength : List Shape → List Shape → Nat
  | a :: as, b :: bs => if same a b then commonLength as bs + 1 else 0
  | _, _ => 0

/-- The parts of a sequence. -/
def parts? : Shape → Option (List Shape)
  | .sequence parts => some parts
  | _ => none

/-- How many parts all sequences have in common at their starts. -/
def sharedLength : List (List Shape) → Nat
  | [] => 0
  | first :: rest => rest.foldl (fun n parts => min n (commonLength first parts)) first.length

/-- One of several shapes, within `fuel` parts that are taken out of the alternatives. -/
def oneOfWithin (parts : List Shape) : Nat → Shape
  | 0 => .choice parts
  | fuel + 1 =>
    match parts.flatMap fun | .choice inner => inner | part => [part] with
    | [] => .members []
    | [part] => part
    | parts =>
      match joinSets? parts with
      | some ranges => ofRanges ranges
      | none =>
        match parts.mapM parts? with
        | none => .choice parts
        | some sequences =>
          let shared := sharedLength sequences
          if shared = 0 then .choice parts
          else
            let endings := sequences.map fun sequence => follow (sequence.drop shared)
            follow ((sequences.headD []).take shared ++ [oneOfWithin endings fuel])

mutual

/-- The number of parts of a shape. -/
def size : Shape → Nat
  | .repeated body _ _ _ => size body + 1
  | .captured body => size body + 1
  | .sequence parts => sizeAll parts + 1
  | .choice parts => sizeAll parts + 1
  | _ => 1

/-- The number of parts of several shapes. -/
def sizeAll : List Shape → Nat
  | [] => 0
  | part :: rest => size part + sizeAll rest

end

/-- One of several shapes. -/
def oneOf (parts : List Shape) : Shape := oneOfWithin parts (sizeAll parts + 1)

/-! ## Anchors -/

mutual

/-- Whether every match starts at the start of the text, or ends at its end. -/
def isAnchored (anchor : Anchor) : Shape → Bool
  | .condition found => found == anchor
  | .repeated body least _ _ => least != 0 && isAnchored anchor body
  | .captured body => isAnchored anchor body
  | .sequence parts =>
    match anchor with
    | .start => isFirstAnchored anchor parts
    | _ => isLastAnchored anchor parts
  | .choice parts => areAnchored anchor parts
  | _ => false

/-- Whether a part is anchored with none before it that takes up text. -/
def isFirstAnchored (anchor : Anchor) : List Shape → Bool
  | [] => false
  | part :: rest => isAnchored anchor part || (part.isEmptyOnly && isFirstAnchored anchor rest)

/-- Whether a part is anchored with none behind it that takes up text. -/
def isLastAnchored (anchor : Anchor) : List Shape → Bool
  | [] => false
  | part :: rest => isLastAnchored anchor rest || (rest.all isEmptyOnly && isAnchored anchor part)

/-- Whether all alternatives are anchored. -/
def areAnchored (anchor : Anchor) : List Shape → Bool
  | [] => true
  | part :: rest => isAnchored anchor part && areAnchored anchor rest

end

end Shape

end JsonSchema.Regex
