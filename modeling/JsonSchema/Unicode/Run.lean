/-! # Runs of code points

A table of a character property is a list of runs; each run holds every `step`-th code point from
its first to its last one. Tables are written in hexadecimal: `41-5A` is a run of neighbours, `AA` a
run of one, and `100-12E/2` has every second code point. Sets of characters are also kept as ranges
in ascending order that do not touch, which makes two descriptions of one set equal.
-/

namespace JsonSchema.Unicode

/-- Evenly spaced code points. -/
structure Run where
  first : Nat
  last : Nat
  step : Nat
  deriving DecidableEq

/-- Whether a code point belongs to a run. -/
def Run.contains (run : Run) (n : Nat) : Bool :=
  run.first ≤ n && n ≤ run.last && (n - run.first) % run.step == 0

/-- Whether a code point belongs to one of several runs. -/
def inRuns (runs : List Run) (n : Nat) : Bool := runs.any (·.contains n)

/-! ## Written tables -/

/-- The value of a hexadecimal digit in capitals. -/
def digitValue (c : Char) : Nat := if c.isDigit then c.toNat - 48 else c.toNat - 55

/-- The number that hexadecimal digits in capitals stand for. -/
def numberOfDigits (digits : List Char) : Nat := digits.foldl (fun n c => 16 * n + digitValue c) 0

/-- The words of a text, divided at white space. -/
def words (text : String) : List (List Char) :=
  let divided := text.toList.foldr
    (fun c words => if c.isWhitespace then [] :: words else match words with
      | [] => [[c]]
      | word :: words => (c :: word) :: words) [[]]
  divided.filter fun word => !word.isEmpty

/-- The run that a word stands for. -/
def Run.ofWord (word : List Char) : Run :=
  let first := numberOfDigits (word.takeWhile Char.isAlphanum)
  match word.dropWhile Char.isAlphanum with
  | '-' :: rest =>
    let step := match rest.dropWhile Char.isAlphanum with
      | '/' :: step => numberOfDigits step
      | _ => 1
    ⟨first, numberOfDigits (rest.takeWhile Char.isAlphanum), step⟩
  | _ => ⟨first, first, 1⟩

/-- The runs of a written table. -/
def runs (table : String) : List Run := (words table).map Run.ofWord

/-- A set of characters with its names in reduced form. -/
structure NamedSet where
  names : List String
  runs : List Run

/-! ## Ranges -/

/-- Ranges of code points, each given by its first and last one. -/
abbrev Ranges := List (Nat × Nat)

/-- The greatest code point. -/
def lastCodePoint : Nat := 0x10FFFF

/-- The ranges of a run. -/
def Run.ranges (run : Run) : Ranges :=
  if run.step = 1 then [(run.first, run.last)]
  else (List.range ((run.last - run.first) / run.step + 1)).map fun k =>
    (run.first + k * run.step, run.first + k * run.step)

namespace Ranges

/-- Whether a code point is in one of the ranges. -/
def contains (ranges : Ranges) (n : Nat) : Bool := ranges.any fun (first, last) => first ≤ n && n ≤ last

/-- Joins ranges that touch, given a range before them. -/
def joinFrom (first last : Nat) : Ranges → Ranges
  | [] => [(first, last)]
  | (a, b) :: rest =>
    if a ≤ last + 1 then joinFrom first (max last b) rest else (first, last) :: joinFrom a b rest

/-- Puts a range in front of the ones that do not start before it. -/
def insert (range : Nat × Nat) : Ranges → Ranges
  | [] => [range]
  | next :: rest => if range.1 ≤ next.1 then range :: next :: rest else next :: insert range rest

/-- The same set in ascending ranges that do not touch. -/
def normalize (ranges : Ranges) : Ranges :=
  match ranges.foldr insert [] with
  | [] => []
  | (first, last) :: rest => joinFrom first last rest

/-- The code points from one on that are in no range. -/
def gapsFrom (start : Nat) : Ranges → Ranges
  | [] => if start ≤ lastCodePoint then [(start, lastCodePoint)] else []
  | (first, last) :: rest =>
    if start < first then (start, first - 1) :: gapsFrom (last + 1) rest else gapsFrom (last + 1) rest

/-- All other code points. -/
def complement (ranges : Ranges) : Ranges := gapsFrom 0 ranges

/-- The code points of either set. -/
def union (left right : Ranges) : Ranges := normalize (left ++ right)

/-- The code points of both sets. -/
def intersection (left right : Ranges) : Ranges := complement (union (complement left) (complement right))

/-- The code points of the first set that are not in the second. -/
def difference (left right : Ranges) : Ranges := complement (union (complement left) right)

/-- The ranges as runs. -/
def toRuns (ranges : Ranges) : List Run := ranges.map fun (first, last) => ⟨first, last, 1⟩

end Ranges

/-- The code points of runs as ranges. -/
def rangesOf (runs : List Run) : Ranges := Ranges.normalize (runs.flatMap Run.ranges)

end JsonSchema.Unicode
