import JsonSchema.Binary64

/-! # TOML values

The values of TOML and the written form of its strings. A string is written in the plainest quotes that
need no escapes: double quotes, single quotes, and their triple forms; where none does it is escaped.
A tab needs no escape but gets one between double quotes.
-/

namespace JsonSchema

/-- A floating-point number of TOML. -/
inductive TomlFloat where
  | finite (value : Binary64)
  | infinity (negative : Bool)
  | notANumber

/-- A TOML value. -/
inductive Toml where
  | string (text : String)
  | integer (value : Int)
  | float (value : TomlFloat)
  | boolean (value : Bool)
  /-- A date, a time or both, in its normal form. -/
  | dateTime (text : String)
  | array (items : List Toml)
  | table (members : List (String × Toml))

namespace Toml

/-- The longest run of a character. -/
def longestRun (c : Char) (text : List Char) : Nat :=
  (text.foldl (fun (longest, run) d => if d == c then (max longest (run + 1), run + 1) else (longest, 0)) (0, 0)).1

/-- Whether a character can only be written as an escape. -/
def needsEscape (c : Char) : Bool := c.toNat < 0x20 && c != '\t' && c != '\n' || c.toNat == 0x7F

/-- The escape of a character other than a double quote, if it gets one. -/
def escape (multiline : Bool) (c : Char) : List Char :=
  match c with
  | '\t' => ['\\', 't']
  | '\n' => if multiline then ['\n'] else ['\\', 'n']
  | '\r' => ['\\', 'r']
  | '\\' => ['\\', '\\']
  | _ =>
    if c.toNat = 8 then ['\\', 'b']
    else if c.toNat = 12 then ['\\', 'f']
    else if needsEscape c then
      '\\' :: 'u' :: '0' :: '0' :: [(Nat.digitChar (c.toNat / 16)).toUpper, (Nat.digitChar (c.toNat % 16)).toUpper]
    else [c]

/-- The text between double quotes. In the triple form two quotes in a row stand as they are; `run` of them
stand just before the text. -/
def escapeText (multiline : Bool) (run : Nat) : List Char → List Char
  | [] => []
  | c :: rest =>
    if c = '"' then
      if run < (if multiline then 2 else 0) then '"' :: escapeText multiline (run + 1) rest
      else '\\' :: '"' :: escapeText multiline 0 rest
    else escape multiline c ++ escapeText multiline 0 rest

/-- The written form of a string. -/
def quote (text : String) : String :=
  let chars := text.toList
  let escapes := chars.any needsEscape
  let lines := chars.contains '\n'
  let backslash := chars.contains '\\'
  let doubles := longestRun '"' chars
  let singles := longestRun '\'' chars
  let newline := if lines then "\n" else ""
  let basic := "\"" ++ String.ofList (escapeText false 0 chars) ++ "\""
  let tripleBasic := "\"\"\"" ++ newline ++ String.ofList (escapeText true 0 chars) ++ "\"\"\""
  if !escapes && !backslash && !lines && doubles = 0 then basic
  else if !escapes && singles = 0 && !lines then "'" ++ text ++ "'"
  else if !escapes && !backslash && doubles ≤ 2 then tripleBasic
  else if !escapes && singles ≤ 2 then "'''" ++ newline ++ text ++ "'''"
  else if lines then tripleBasic
  else basic

end Toml

end JsonSchema
