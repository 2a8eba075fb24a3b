import JsonSchema.Unicode.CaseFolding
import JsonSchema.Unicode.Property

/-! # Character sets

A character set is described by how it is written: ranges and named properties combined by set
operations. `CharSet.contains` gives the meaning of a description, and `CharSet.ranges` the same set
as ranges.
-/

namespace JsonSchema.Regex

open Unicode (Ranges rangesOf casedCodePoints caseVariants)

/-- A description of a set of characters. -/
inductive CharSet where
  | range (first last : Nat)
  | property (named : Unicode.Property)
  | complement (set : CharSet)
  | union (left right : CharSet)
  | intersection (left right : CharSet)
  | difference (left right : CharSet)
  | symmetricDifference (left right : CharSet)
  /-- The characters that differ in case only from a member. -/
  | folded (set : CharSet)
  deriving DecidableEq, Hashable

namespace CharSet

/-- Whether a code point belongs to the described set. -/
def contains : CharSet → Nat → Bool
  | .range first last, n => first ≤ n && n ≤ last
  | .property named, n => named.contains n
  | .complement set, n => !set.contains n
  | .union left right, n => left.contains n || right.contains n
  | .intersection left right, n => left.contains n && right.contains n
  | .difference left right, n => left.contains n && !right.contains n
  | .symmetricDifference left right, n => left.contains n != right.contains n
  | .folded set, n => (Unicode.caseVariants n).any set.contains

/-- The members of ranges and all characters that differ from one of them in case only. -/
def foldedRanges (ranges : Ranges) : Ranges :=
  let variants := (casedCodePoints.filter ranges.contains).flatMap caseVariants
  Ranges.normalize (ranges ++ variants.map fun n => (n, n))

/-- The described set as ranges in ascending order that do not touch. -/
def ranges : CharSet → Ranges
  | .range first last => if first ≤ last then [(first, last)] else []
  | .property named => rangesOf named.runs
  | .complement set => set.ranges.complement
  | .union left right => left.ranges.union right.ranges
  | .intersection left right => left.ranges.intersection right.ranges
  | .difference left right => left.ranges.difference right.ranges
  | .symmetricDifference left right =>
    (left.ranges.union right.ranges).difference (left.ranges.intersection right.ranges)
  | .folded set => foldedRanges set.ranges

/-- The set of one character. -/
def single (c : Char) : CharSet := .range c.toNat c.toNat

/-- No character. -/
def empty : CharSet := .range 1 0

/-- The union of several sets. -/
def unionOf : List CharSet → CharSet
  | [] => empty
  | [set] => set
  | set :: rest => .union set (unionOf rest)

/-- A set given by the first and last characters of its ranges. -/
def ofRanges (ranges : List (Char × Char)) : CharSet :=
  unionOf (ranges.map fun (first, last) => .range first.toNat last.toNat)

/-- The ASCII digits. -/
def asciiDigit : CharSet := ofRanges [('0', '9')]

/-- The ASCII characters of words. -/
def asciiWord : CharSet := ofRanges [('0', '9'), ('A', 'Z'), ('_', '_'), ('a', 'z')]

/-- The ASCII blanks: tab to carriage return, and space. -/
def asciiSpace : CharSet := .union (.range 9 13) (single ' ')

/-- The sets that are named between colons inside a bracket. -/
def ofPosixName? (name : String) : Option CharSet :=
  match name with
  | "alnum" => some (ofRanges [('0', '9'), ('A', 'Z'), ('a', 'z')])
  | "alpha" => some (ofRanges [('A', 'Z'), ('a', 'z')])
  | "ascii" => some (.range 0 127)
  | "blank" => some (.union (.range 9 9) (single ' '))
  | "cntrl" => some (.union (.range 0 31) (.range 127 127))
  | "digit" => some asciiDigit
  | "graph" => some (.range 33 126)
  | "lower" => some (ofRanges [('a', 'z')])
  | "print" => some (.range 32 126)
  | "punct" => some (ofRanges [('!', '/'), (':', '@'), ('[', Char.ofNat 96), (Char.ofNat 123, '~')])
  | "space" => some asciiSpace
  | "upper" => some (ofRanges [('A', 'Z')])
  | "word" => some asciiWord
  | "xdigit" => some (ofRanges [('0', '9'), ('A', 'F'), ('a', 'f')])
  | _ => none

end CharSet

end JsonSchema.Regex
