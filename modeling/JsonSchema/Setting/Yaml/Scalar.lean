import JsonSchema.Pointer
import JsonSchema.Setting.Number

/-! # YAML scalars

Places in a text, and the scalars that stand there: plain ones, ones in quotes and ones in blocks of
lines. A single break between lines is folded to a blank, and each further one stays.
-/

namespace JsonSchema.Setting.Yaml

/-- A place in a text whose lines end with line feeds, and the settings that have been given names so far. -/
structure Cursor where
  rest : List Char
  /-- The number of characters before it on its line. -/
  column : Nat
  named : List (String × Setting)

/-- Whether a character is a blank within a line. -/
def isBlank (c : Char) : Bool := c == ' ' || c == '\t'

/-- Whether a character is a blank or ends a line. -/
def isSpace (c : Char) : Bool := isBlank c || c == '\n'

/-- Whether a text starts with a blank, the end of a line or nothing at all. -/
def endsToken (text : List Char) : Bool := (text.head?.map isSpace).getD true

/-- Whether a character divides or surrounds the items of a flow collection. -/
def isFlowMark (c : Char) : Bool := c == ',' || c == '[' || c == ']' || c.toNat == 0x7B || c.toNat == 0x7D

/-- A text without the blanks at its end. -/
def trimEnd (text : List Char) : List Char := (text.reverse.dropWhile isBlank).reverse

/-- The breaks between lines as they are folded. -/
def foldBreaks (count : Nat) : List Char := if count = 1 then [' '] else List.replicate (count - 1) '\n'

namespace Cursor

/-- The place a number of characters on. -/
def drop (cursor : Cursor) (count : Nat) : Cursor :=
  let passed := cursor.rest.take count
  let column := if passed.contains '\n' then (passed.reverse.takeWhile (· != '\n')).length else cursor.column + count
  { cursor with rest := cursor.rest.drop count, column }

/-- The place behind characters of some kind. -/
def dropWhile (cursor : Cursor) (isPassed : Char → Bool) : Cursor :=
  cursor.drop (cursor.rest.takeWhile isPassed).length

/-- The place behind spaces and at most `fuel` comments; a comment follows a space or starts a line. -/
def skipWithin : Nat → Cursor → Cursor
  | 0, cursor => cursor
  | fuel + 1, cursor =>
    let next := cursor.dropWhile isSpace
    if next.rest.head? == some '#' && (next.column = 0 || next.rest.length < cursor.rest.length) then
      skipWithin fuel (next.dropWhile (· != '\n'))
    else next

/-- The place behind spaces and comments. -/
def skip (cursor : Cursor) : Cursor := skipWithin (cursor.rest.length + 1) cursor

/-- Whether a line ends between two places. -/
def crossesLine (first second : Cursor) : Bool :=
  (first.rest.take (first.rest.length - second.rest.length)).contains '\n'

/-- Whether a marker stands at a place. -/
def isAtMarker (cursor : Cursor) (marker : String) : Bool :=
  cursor.column = 0 && marker.toList.isPrefixOf cursor.rest && endsToken (cursor.rest.drop marker.length)

/-- Whether a document ends at a place. -/
def isAtEnd (cursor : Cursor) : Bool :=
  cursor.rest.isEmpty || cursor.isAtMarker "---" || cursor.isAtMarker "..."

end Cursor

/-! ## Plain scalars -/

/-- Whether a plain scalar can start here. -/
def startsPlain (inFlow : Bool) : List Char → Bool
  | [] => false
  | c :: rest =>
    if c == '-' || c == '?' || c == ':' then
      !endsToken rest && !(inFlow && (rest.head?.map isFlowMark).getD false)
    else !isSpace c && !isFlowMark c && !"#&*!|>'\"%@\x60".toList.contains c

/-- The part of a plain scalar on one line. -/
def plainLine (inFlow : Bool) : List Char → List Char
  | [] => []
  | c :: rest =>
    if c == '\n' || inFlow && isFlowMark c then []
    else if c == ':' && (endsToken rest || inFlow && (rest.head?.map isFlowMark).getD false) then []
    else if isBlank c && rest.head? == some '#' then []
    else c :: plainLine inFlow rest

/-- A plain scalar; it goes on with lines that are indented by more than `parent`. -/
def readPlain (inFlow : Bool) (parent : Int) : Nat → Cursor → List Char × Cursor
  | 0, cursor => ([], cursor)
  | fuel + 1, cursor =>
    let line := plainLine inFlow cursor.rest
    let behind := cursor.drop line.length
    let next := behind.dropWhile isSpace
    let breaks := ((behind.rest.takeWhile isSpace).filter (· == '\n')).length
    let goesOn := 0 < breaks && !next.isAtEnd && (inFlow || parent < next.column)
      && next.rest.head? != some '#' && !(trimEnd (plainLine inFlow next.rest)).isEmpty
    if goesOn then
      let (more, behind) := readPlain inFlow parent fuel next
      (trimEnd line ++ foldBreaks breaks ++ more, behind)
    else (trimEnd line, behind)

/-- The value of a plain scalar, if it has one that can be used. -/
def plainValue? (text : List Char) : Option Scalar :=
  let based (base : Nat) (isDigit : Char → Bool) (digits : List Char) : Option Int :=
    if digits.isEmpty || !digits.all isDigit then none
    else (some (Toml.digitsValue base digits : Int)).filter Word.fitsSigned
  let integer := match text with
    | '0' :: 'x' :: digits => based 16 Toml.isHex digits
    | '0' :: 'o' :: digits => based 8 Toml.isOctal digits
    | _ => integer? text
  let word := String.ofList text
  match integer with
  | some value => some (.integer value)
  | none =>
    if ["", "~", "null"].contains word then some .absent
    else if word = "true" then some (.boolean true)
    else if word = "false" then some (.boolean false)
    else if [".inf", ".Inf", ".INF", "+.inf", "+.Inf", "+.INF", "-.inf", "-.Inf", "-.INF", ".nan", "NaN",
      ".NAN"].contains word then none
    else if text.any Char.isDigit then some (((float? text).map Scalar.float).getD (.text word))
    else some (.text word)

/-! ## Scalars in quotes -/

/-- The folded breaks at the start of a text, and how many characters they take. -/
def readBreaks? (text : List Char) : Option (List Char × Nat) :=
  let spaces := text.takeWhile isSpace
  let breaks := (spaces.filter (· == '\n')).length
  if breaks = 0 then none else some (foldBreaks breaks, spaces.length)

/-- The characters of an escape behind its backslash, and how many characters it takes. -/
def readEscape? (text : List Char) : Option (List Char × Nat) :=
  let coded (count : Nat) (digits : List Char) : Option (List Char × Nat) :=
    (Toml.readCodePoint? count digits).map fun (c, _) => ([c], count + 1)
  match text with
  | [] => none
  | 'x' :: rest => coded 2 rest
  | 'u' :: rest => coded 4 rest
  | 'U' :: rest => coded 8 rest
  | '\n' :: rest =>
    let spaces := rest.takeWhile isSpace
    some (List.replicate (spaces.filter (· == '\n')).length '\n', spaces.length + 1)
  | c :: _ =>
    let codes : List (Char × Nat) := [('0', 0), ('a', 7), ('b', 8), ('t', 9), ('\t', 9), ('n', 10), ('v', 11),
      ('f', 12), ('r', 13), ('e', 27), (' ', 32), ('"', 34), ('/', 47), ('\\', 92), ('N', 0x85), ('_', 0xA0),
      ('L', 0x2028), ('P', 0x2029)]
    (assoc? c codes).map fun n => ([Char.ofNat n], 1)

/-- A scalar in double or single quotes behind the opening one. -/
def readQuoted? (quote : Char) : Nat → Cursor → Option (List Char × Cursor)
  | 0, _ => none
  | fuel + 1, cursor =>
    let goOn (read : List Char) (count : Nat) : Option (List Char × Cursor) :=
      (readQuoted? quote fuel (cursor.drop count)).map fun (cs, cursor) => (read ++ cs, cursor)
    match cursor.rest, readBreaks? cursor.rest with
    | _, some (breaks, count) => goOn breaks count
    | [], none => none
    | c :: rest, none =>
      if c == quote then
        if quote == '\'' && rest.head? == some quote then goOn [quote] 2 else some ([], cursor.drop 1)
      else if c == '\\' && quote == '"' then
        match readEscape? rest with
        | some (cs, count) => goOn cs (count + 1)
        | none => none
      else goOn [c] 1

/-! ## Blocks of lines -/

/-- How the breaks at the end of a block are kept. -/
inductive Chomping where
  | clip
  | strip
  | keep
  deriving DecidableEq

/-- The chomping and the indentation that the header of a block asks for. -/
def readHeader? (header : List Char) : Option (Chomping × Option Nat) :=
  let chomping (c : Char) : Option Chomping := if c == '+' then some .keep else if c == '-' then some .strip else none
  let digit (c : Char) : Option Nat := if c.isDigit && c != '0' then some (c.toNat - 48) else none
  let marks := header.takeWhile (!isBlank ·)
  let behind := (header.drop marks.length).dropWhile isBlank
  if !behind.isEmpty && behind.head? != some '#' then none
  else
    match marks with
    | [] => some (.clip, none)
    | [c] => ((chomping c).map fun found => (found, none)) <|> (digit c).map fun n => (.clip, some n)
    | [c, d] =>
      (do return (← chomping c, some (← digit d))) <|> (do return (← chomping d, some (← digit c)))
    | _ => none

/-- The lines of a block as one text. Where they are folded, a break between two lines that both start without
a blank is folded; `empties` empty lines stand before the first of the lines, which `previous` tells about. -/
def joinLines (folded : Bool) (previous : Option Bool) (empties : Nat) : List (List Char) → List Char
  | [] => []
  | line :: rest =>
    if line.isEmpty then joinLines folded previous (empties + 1) rest
    else
      let startsBlank := (line.head?.map isBlank).getD false
      let between := match previous with
        | none => List.replicate empties '\n'
        | some previousBlank =>
          if folded && !previousBlank && !startsBlank then foldBreaks (empties + 1)
          else List.replicate (empties + 1) '\n'
      between ++ line ++ joinLines folded (some startsBlank) 0 rest

/-- A block behind its first character; its lines are indented by more than `parent`. -/
def readBlock? (folded : Bool) (parent : Int) (cursor : Cursor) : Option (List Char × Cursor) := do
  let header := cursor.rest.takeWhile (· != '\n')
  let (chomping, asked) ← readHeader? header
  let start := cursor.drop (header.length + 1)
  let lines := if start.rest.isEmpty then [] else splitList '\n' start.rest
  let indentOf (line : List Char) : Nat := (line.takeWhile (· == ' ')).length
  let isEmptyLine (line : List Char) : Bool := line.all (· == ' ')
  let least := (parent + 1).toNat
  let indent := match asked with
    | some more => parent.toNat + more
    | none => max (max least 1) (((lines.find? (!isEmptyLine ·)).map indentOf).getD 0)
  let taken := lines.takeWhile fun line => isEmptyLine line || indent ≤ indentOf line
  let isWhole := taken.length < lines.length
  let content := taken.map (·.drop indent)
  let body := (content.reverse.dropWhile List.isEmpty).reverse
  let size := taken.foldl (fun size line => size + line.length + 1) 0
  let isEnded := isWhole || body.length < content.length
  let ending := match chomping with
    | .strip => []
    | .clip => if body.isEmpty || !isEnded then [] else ['\n']
    | .keep => List.replicate (if isWhole then content.length - body.length + 1 else content.length - body.length) '\n'
  return (joinLines folded none 0 body ++ ending, start.drop (min size start.rest.length))

end JsonSchema.Setting.Yaml
