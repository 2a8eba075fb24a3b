import JsonSchema.Pointer
import JsonSchema.Unicode.Direction
import JsonSchema.Unicode.Mark
import JsonSchema.Unicode.Normalization
import JsonSchema.Url.NameMapping
import JsonSchema.Url.Punycode

/-! # International domain names

A domain name is brought to ASCII label by label. Characters are mapped to lower case and to their plain
forms and composed, and a label that is not ASCII then is written in Punycode behind `xn--`. A label that is
written so already must be the form of a label that needs it. Labels do not start with a mark, joiners
stand only where they change how letters join, and in a name with letters from right to left no label mixes
directions.
-/

namespace JsonSchema.Url.DomainName

open Unicode (inRuns combiningClass compose)

/-! ## Mapping -/

/-- What a code point becomes; there is nothing for one that may not stand in a name. -/
def mapPoint? (n : Nat) : Option (List Nat) :=
  if n < 0x80 then some [if 0x41 ≤ n ∧ n ≤ 0x5A then n + 0x20 else n]
  else match images.find? (·.1.contains n) with
    | some (_, .shifted difference) => some [((n : Int) + difference).toNat]
    | some (_, .text points) => some points
    | none => if inRuns ignored n then some [] else if inRuns disallowed n then none else some [n]

/-- A text in its plain, composed form. -/
def plain? (points : List Nat) : Option (List Nat) := (points.mapM mapPoint?).map fun parts => compose parts.flatten

/-! ## Joiners -/

/-- The combining class of the signs that silence a vowel. -/
def viramaClass : Nat := 9

/-- The joiner that keeps letters apart. -/
def nonJoiner : Nat := 0x200C

/-- The joiner that binds letters. -/
def joiner : Nat := 0x200D

/-- Whether the next letter in some direction is of a kind, characters through which letters join aside. -/
def nextJoins (kinds : List Unicode.Run) (points : List Nat) : Bool :=
  (points.dropWhile (inRuns Unicode.joinsThrough)).head?.any (inRuns kinds)

/-- Whether each joiner of a label has its place, given the characters before in reverse: behind a virama, or, for
the one that keeps letters apart, between letters that would join. -/
def joinersFit (before : List Nat) : List Nat → Bool
  | [] => true
  | c :: rest =>
    let isBehindVirama := before.head?.any (combiningClass · == viramaClass)
    let fits :=
      if c = joiner then isBehindVirama
      else if c = nonJoiner then
        isBehindVirama ||
          (nextJoins (Unicode.joinsBoth ++ Unicode.joinsLeft) before &&
            nextJoins (Unicode.joinsBoth ++ Unicode.joinsRight) rest)
      else true
    fits && joinersFit (c :: before) rest

/-! ## Directions -/

/-- Whether a character is a letter from right to left. -/
def isRightToLeft (n : Nat) : Bool := inRuns (Unicode.rightToLeft ++ Unicode.arabicLetter) n

/-- Whether a character has no direction of its own but stands in text of either direction. -/
def isNeutral (n : Nat) : Bool :=
  inRuns (Unicode.europeanSeparator ++ Unicode.commonSeparator ++ Unicode.europeanTerminator ++
    Unicode.otherNeutral ++ Unicode.boundaryNeutral ++ Unicode.nonspacingDirection) n

/-- Whether a character is an Arabic number. -/
def isArabicNumber (n : Nat) : Bool := inRuns Unicode.arabicNumber n

/-- Whether a character is a European number. -/
def isEuropeanNumber (n : Nat) : Bool := inRuns Unicode.europeanNumber n

/-- Whether a character is a letter from left to right. -/
def isLeftToRight (n : Nat) : Bool :=
  !isRightToLeft n && !isArabicNumber n && !isEuropeanNumber n && !isNeutral n

/-- Whether a name has letters or numbers that run from right to left; none of them is in ASCII. -/
def hasRightToLeft (points : List Nat) : Bool :=
  points.any fun n => 0x80 ≤ n && (isRightToLeft n || isArabicNumber n)

/-- Whether a label keeps to one direction: it starts with a letter, holds what stands in text of the letter's
direction, and ends, marks aside, with a letter of the direction or a number. -/
def hasOneDirection (label : List Nat) : Bool :=
  match label with
  | [] => true
  | first :: rest =>
    let last := (label.reverse.dropWhile (inRuns Unicode.nonspacingDirection)).headD first
    if isRightToLeft first then
      rest.all (fun n => !isLeftToRight n) && !isNeutral last &&
        !(label.any isArabicNumber && label.any isEuropeanNumber)
    else isLeftToRight first &&
      rest.all (fun n => !isRightToLeft n && !isArabicNumber n) && !isNeutral last

/-! ## Labels -/

/-- Whether a label in plain form can stand in a name: it does not start with a mark, and its joiners fit. -/
def isLabel (label : List Nat) : Bool :=
  !label.head?.any (inRuns (Unicode.nonspacingMark ++ Unicode.spacingMark ++ Unicode.enclosingMark)) &&
    joinersFit [] label

/-- What a label in Punycode starts with. -/
def codedStart : List Nat := "xn--".toList.map Char.toNat

/-- The greatest length of a label to be written in Punycode. -/
def plainLengthMax : Nat := 1000

/-- The greatest length of a label in Punycode behind its start. -/
def codedLengthMax : Nat := 2000

/-- A label with its plain form and its form in ASCII. -/
structure Label where
  plain : List Nat
  ascii : List Char

/-- The characters of code points. -/
def chars (points : List Nat) : List Char := points.map Char.ofNat

/-- The label that a text in plain form stands for. -/
def Label.of? (text : List Nat) : Option Label :=
  if codedStart.isPrefixOf text then
    let coded := text.drop codedStart.length
    if codedLengthMax < coded.length ∨ coded.any (128 ≤ ·) then none
    else do
      let label := (← Punycode.decode? (chars coded)).map Char.toNat
      if label.any (128 ≤ ·) && plain? label == some label && isLabel label then some ⟨label, chars text⟩ else none
  else if text.all (· < 128) then some ⟨text, chars text⟩
  else if isLabel text && text.length ≤ plainLengthMax then
    some ⟨text, chars codedStart ++ Punycode.encode (chars text)⟩
  else none

/-- The ASCII form of a name. -/
def ascii? (name : List Char) : Option (List Char) := do
  let labels ← (splitList 0x2E (← plain? (name.map Char.toNat))).mapM Label.of?
  if labels.any (hasRightToLeft ·.plain) && !labels.all (hasOneDirection ·.plain) then none
  else some (['.'].intercalate (labels.map (·.ascii)))

end JsonSchema.Url.DomainName
