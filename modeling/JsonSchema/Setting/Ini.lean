import JsonSchema.Entries
import JsonSchema.Setting

/-! # Settings in INI files

Lines of keys and values below headings in brackets. All values are texts; those of a heading make a table,
and those above the first heading stand on their own. A key reaches to the next equals sign or colon and a
value to the end of its line; a backslash escapes what follows it.
-/

namespace JsonSchema.Setting.Ini

/-- Why a text is no INI file. -/
inductive Cause where
  | inlineComment
  | missingKey
  /-- The text ends before one of some characters; none stands for the end itself. -/
  | endBefore (expected : List (Option Char))
  | unknownCodePoint
  | brokenCodePoint (found : Option Char)

/-- The written form of a character or of the end of the text. -/
def describe : Option Char → String
  | none => "None"
  | some '\n' => "Some('\\n')"
  | some '\r' => "Some('\\r')"
  | some '\'' => "Some('\\'')"
  | some c => "Some('" ++ c.toString ++ "')"

/-- The wording of a cause. -/
def Cause.message : Cause → String
  | .inlineComment => "doesn't support inline comment"
  | .missingKey => "missing key"
  | .endBefore expected =>
    "expecting \"[" ++ ", ".intercalate (expected.map describe) ++ "]\" but found EOF."
  | .unknownCodePoint => "unknown character in \\xHH form"
  | .brokenCodePoint found => "expecting \"\\\\n\" but found \"" ++ describe found ++ "\"."

/-- A place in a text: what is left, and the line and the column of its first character. -/
structure Cursor where
  rest : List Char
  /-- Counted from zero. -/
  line : Nat
  /-- The number of characters on the line up to this one. -/
  column : Nat

/-- A cause and where it arises. -/
structure Fault where
  line : Nat
  column : Nat
  cause : Cause

/-- The wording of a fault. -/
def Fault.message (fault : Fault) : String :=
  toString fault.line ++ ":" ++ toString fault.column ++ " " ++ fault.cause.message

/-- The fault at a place. -/
def Cursor.fail {α : Type} (cursor : Cursor) (cause : Cause) : Except Fault α :=
  .error ⟨cursor.line + 1, cursor.column + 1, cause⟩

/-- The place where some characters are left, one character on. -/
def Cursor.moveTo (cursor : Cursor) (rest : List Char) : Cursor :=
  match rest with
  | [] => { cursor with rest := [] }
  | '\n' :: _ => ⟨rest, cursor.line + 1, 0⟩
  | _ => ⟨rest, cursor.line, cursor.column + 1⟩

/-- The place behind the first character. -/
def Cursor.next (cursor : Cursor) : Cursor := cursor.moveTo cursor.rest.tail

/-- The place behind a number of characters. -/
def Cursor.skip (cursor : Cursor) : Nat → Cursor
  | 0 => cursor
  | count + 1 => cursor.next.skip count

/-- The place behind characters of some kind. -/
def Cursor.skipWhile (cursor : Cursor) (isSkipped : Char → Bool) : Cursor :=
  cursor.skip (cursor.rest.takeWhile isSkipped).length

/-- Whether a character is a blank or the end of a line. -/
def isBlank (c : Char) : Bool := c.isWhitespace || c.toNat == 0x0B || c.toNat == 0x0C || c.toNat == 0xA0

/-- Whether a character is a blank within a line. -/
def isInnerBlank (c : Char) : Bool := isBlank c && c != '\n' && c != '\r'

/-- A text without the blanks around it. -/
def trim (text : List Char) : List Char := ((text.dropWhile isBlank).reverse.dropWhile isBlank).reverse

/-- The character of the last of four digits, the first of which comes next; a backslash has to stand before
the end of a line. -/
def readCodePoint (expected : List (Option Char)) : Nat → List Char → Cursor → Except Fault (Option Char × Cursor)
  | 0, digits, cursor =>
    let value := digits.reverse.foldlM (fun n c =>
      if c.isDigit then some (n * 16 + (c.toNat - 48))
      else if 'a' ≤ c.toLower ∧ c.toLower ≤ 'f' then some (n * 16 + (c.toLower.toNat - 87))
      else none) 0
    match value with
    | some n => if Nat.isValidChar n then .ok (some (Char.ofNat n), cursor) else cursor.fail .unknownCodePoint
    | none => cursor.fail .unknownCodePoint
  | count + 1, digits, cursor =>
    let cursor := cursor.next
    match cursor.rest with
    | [] => cursor.fail (.endBefore expected)
    | '\\' :: _ =>
      let cursor := cursor.next
      if cursor.rest.head? == some '\n' then readCodePoint expected count ('\\' :: digits) cursor
      else cursor.fail (.brokenCodePoint cursor.rest.head?)
    | c :: _ => readCodePoint expected count (c :: digits) cursor

/-- The character of an escape and the place of its last character. -/
def readEscape (expected : List (Option Char)) (cursor : Cursor) : Except Fault (Option Char × Cursor) :=
  match cursor.rest with
  | [] => cursor.fail (.endBefore expected)
  | '0' :: _ => .ok (some (Char.ofNat 0), cursor)
  | 'a' :: _ => .ok (some (Char.ofNat 7), cursor)
  | 'b' :: _ => .ok (some (Char.ofNat 8), cursor)
  | 't' :: _ => .ok (some '\t', cursor)
  | 'r' :: _ => .ok (some '\r', cursor)
  | 'n' :: _ => .ok (some '\n', cursor)
  | '\n' :: _ => .ok (none, cursor)
  | 'x' :: _ => readCodePoint expected 4 [] cursor
  | c :: _ => .ok (some c, cursor)

/-- The text up to one of some characters or, where none is among them, the end of the text. -/
def readUntil (expected : List (Option Char)) : Nat → Cursor → Except Fault (List Char × Cursor)
  | 0, cursor => cursor.fail (.endBefore expected)
  | fuel + 1, cursor =>
    if expected.contains cursor.rest.head? then .ok ([], cursor)
    else
      match cursor.rest with
      | [] => cursor.fail (.endBefore expected)
      | '\\' :: _ => do
        let (c, cursor) ← readEscape expected cursor.next
        let (cs, cursor) ← readUntil expected fuel cursor.next
        return (c.toList ++ cs, cursor)
      | c :: _ => do
        let (cs, cursor) ← readUntil expected fuel cursor.next
        return (c :: cs, cursor)

/-- A value up to the end of its line; `inside` are the parts in quotes that stand before it. -/
def readValue (inside : Option (List Char)) : Nat → Cursor → Except Fault (List Char × Cursor)
  | 0, cursor => .ok (inside.getD [], cursor)
  | fuel + 1, cursor =>
    let quoted (quote : Char) : Except Fault (List Char × Cursor) := do
      let (part, cursor) ← readUntil [some quote] (cursor.rest.length + 1) cursor.next
      readValue (some (inside.getD [] ++ part)) fuel cursor.next
    match cursor.rest with
    | '"' :: _ => quoted '"'
    | '\'' :: _ => quoted '\''
    | rest => do
      let (part, cursor) ← readUntil [some '\n', some '\r', none] (rest.length + 1) cursor
      return (match inside with
        | some inside => inside ++ (part.reverse.dropWhile isBlank).reverse
        | none => trim part, cursor)

/-- What has been read of a file: the settings, the heading and the key of the value that comes next. -/
structure Progress where
  settings : List (String × Setting) := []
  heading : Option String := none
  key : List Char := []

/-- The settings with one more value. -/
def Progress.withValue (progress : Progress) (value : List Char) : Progress :=
  let key := String.ofList progress.key
  let value : Setting := .scalar none (.text (String.ofList value))
  let settings := match progress.heading with
    | none => putEntry key value progress.settings
    | some heading =>
      let inner := ((assoc? heading progress.settings).map Setting.members).getD []
      putEntry heading (.table none (putEntry key value inner)) progress.settings
  { progress with settings, key := [] }

/-- Reads a heading, a comment, a key or a value. -/
def readPart (progress : Progress) (c : Char) (cursor : Cursor) : Except Fault (Progress × Cursor) :=
  if c == ';' || c == '#' then
    if 1 < cursor.column then cursor.fail .inlineComment
    else .ok (progress, (cursor.skipWhile (· != '\n')).next)
  else if c == '[' then do
    let (heading, cursor) ← readUntil [some ']'] (cursor.rest.length + 1) cursor.next
    let heading := String.ofList (trim heading)
    return ({ progress with heading, settings := putEntry heading (.table none []) progress.settings }, cursor.next)
  else if c == '=' || c == ':' then
    if progress.key.isEmpty then cursor.fail .missingKey
    else do
      let (value, cursor) ← readValue none (cursor.rest.length + 1) (cursor.next.skipWhile isInnerBlank)
      return (progress.withValue value, cursor)
  else do
    let (key, cursor) ← readUntil [some '=', some ':'] (cursor.rest.length + 1) cursor
    return ({ progress with key := trim key }, cursor)

/-- Reads part after part. -/
def readParts : Nat → Progress → Cursor → Except Fault Progress
  | 0, progress, _ => .ok progress
  | fuel + 1, progress, cursor =>
    let cursor := cursor.skipWhile isBlank
    match cursor.rest with
    | [] => .ok progress
    | c :: _ => do
      let (progress, cursor) ← readPart progress c cursor
      readParts fuel progress cursor

/-- The settings of a file. -/
def read (text : String) : Except Fault Setting := do
  let start : Cursor := ⟨[], 0, 0⟩
  let progress ← readParts (2 * text.length + 2) {} (start.moveTo text.toList)
  return .table none progress.settings

end JsonSchema.Setting.Ini
