import JsonSchema.Unicode.Composition

/-! # Composed form

A text is brought to its composed form in three steps: characters are taken apart as far as possible, the marks
behind a character are put in the order of their combining classes, and then each mark is joined to the
character before it where the two have a composition and no mark of an equal or greater class stands between
them. Syllables of Hangul are taken apart and composed by arithmetic.
-/

namespace JsonSchema.Unicode

/-- The combining class of a character. -/
def combiningClass (n : Nat) : Nat :=
  if n < 0x300 then 0
  else match combiningClasses.find? fun entry => inRuns entry.2 n with
    | some (number, _) => number
    | none => 0

/-! ## Hangul -/

/-- The first syllable of Hangul. -/
def firstSyllable : Nat := 0xAC00

/-- The number of syllables of Hangul. -/
def syllableCount : Nat := 11172

/-- The letters that a syllable of Hangul starts with: the first of them. -/
def firstLead : Nat := 0x1100

/-- The vowels of Hangul: the first of them. -/
def firstVowel : Nat := 0x1161

/-- The code point before the letters that a syllable of Hangul ends with. -/
def beforeTails : Nat := 0x11A7

/-- The number of letters that a syllable starts with. -/
def leadCount : Nat := 19

/-- The number of vowels. -/
def vowelCount : Nat := 21

/-- The number of endings, none included. -/
def tailCount : Nat := 28

/-- The letters of a syllable of Hangul. -/
def lettersOfSyllable (n : Nat) : List Nat :=
  let index := n - firstSyllable
  let tail := index % tailCount
  [firstLead + index / (vowelCount * tailCount), firstVowel + index % (vowelCount * tailCount) / tailCount] ++
    (if tail = 0 then [] else [beforeTails + tail])

/-- Whether a character is a syllable of Hangul. -/
def isSyllable (n : Nat) : Bool := firstSyllable ≤ n && n < firstSyllable + syllableCount

/-- The syllable that two letters, or a syllable and its ending, make up. -/
def syllable? (first second : Nat) : Option Nat :=
  if firstLead ≤ first ∧ first < firstLead + leadCount ∧ firstVowel ≤ second ∧ second < firstVowel + vowelCount then
    some (firstSyllable + ((first - firstLead) * vowelCount + (second - firstVowel)) * tailCount)
  else if isSyllable first ∧ (first - firstSyllable) % tailCount = 0 ∧ beforeTails < second ∧
      second < beforeTails + tailCount then
    some (first + (second - beforeTails))
  else none

/-! ## Decomposition -/

/-- The parts of a character, taken apart within `fuel` steps. -/
def decomposeWithin (n : Nat) : Nat → List Nat
  | 0 => [n]
  | fuel + 1 =>
    if isSyllable n then lettersOfSyllable n
    else match compositions.find? (·.whole == n) with
      | some composition => decomposeWithin composition.first fuel ++ [composition.second]
      | none => [n]

/-- How often a character can be taken apart. -/
def decompositionDepth : Nat := 4

/-- The parts of a character. -/
def decompose (n : Nat) : List Nat := if n < 0xC0 then [n] else decomposeWithin n decompositionDepth

/-- A text with its marks in order. -/
def sortMarks (points : List Nat) : List Nat :=
  (points.splitBy fun _ next => combiningClass next != 0).flatMap fun group =>
    group.mergeSort fun a b => combiningClass a ≤ combiningClass b

/-! ## Composition -/

/-- The character that two others make up. -/
def pair? (first second : Nat) : Option Nat :=
  match syllable? first second with
  | some n => some n
  | none => (compositions.find? fun composition => composition.first == first && composition.second == second).map (·.whole)

/-- Joins what follows to a starting character, given the marks in between that did not join. -/
def joinFrom (start : Nat) (marks : List Nat) : List Nat → List Nat
  | [] => start :: marks
  | c :: rest =>
    let isBlocked := marks.getLast?.any fun mark => combiningClass c ≤ combiningClass mark
    match if isBlocked then none else pair? start c with
    | some whole => joinFrom whole marks rest
    | none =>
      if combiningClass c = 0 then start :: marks ++ joinFrom c [] rest else joinFrom start (marks ++ [c]) rest

/-- Joins characters after leading marks. -/
def join : List Nat → List Nat
  | [] => []
  | c :: rest => if combiningClass c = 0 then joinFrom c [] rest else c :: join rest

/-- The composed form of a text. -/
def compose (points : List Nat) : List Nat :=
  if points.all (· < 0x300) then points else join (sortMarks (points.flatMap decompose))

end JsonSchema.Unicode
