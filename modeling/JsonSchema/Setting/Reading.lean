import JsonSchema.Json.Printer
import JsonSchema.Setting
import JsonSchema.Unicode.Property

/-! # Reading settings

Typed values of settings. Booleans, numbers and texts stand for each other where their meaning is clear:
a text such as `on` is a boolean, a number other than zero is true, and every single value has a text.
-/

namespace JsonSchema

/-- Why a setting cannot be used. -/
inductive SettingError where
  /-- A value under a key from some origin has no meaning of the type. -/
  | wrongType (found expected key : String) (origin : Option String)
  /-- A section or a list is expected, and something else stands there. -/
  | wrongShape (found expected : String)
  | unknownChoice (kind name : String)
  | notAChoice (kind : String)

/-- The wording of a fault. -/
def SettingError.message : SettingError → String
  | .wrongType found expected key origin =>
    "invalid type: " ++ found ++ ", expected " ++ expected ++ " for key `" ++ key ++ "`" ++
      (match origin with | some place => " in " ++ place | none => "")
  | .wrongShape found expected => "invalid type: " ++ found ++ ", expected " ++ expected
  | .unknownChoice kind name => "enum " ++ kind ++ " does not have variant constructor " ++ name
  | .notAChoice kind =>
    "value of enum " ++ kind ++ " should be represented by either string or table with exactly one key"

namespace DecimalDigits

/-- Positional notation, with a fraction only where one is needed. -/
def plain (d : DecimalDigits) : List Char :=
  let text := d.positional
  match text.reverse with
  | '0' :: '.' :: whole => whole.reverse
  | _ => text

end DecimalDigits

namespace TomlFloat

/-- The text of a number without an exponent. -/
def text : TomlFloat → String
  | .finite value => String.ofList (if value.negative then '-' :: value.shortest.plain else value.shortest.plain)
  | .infinity negative => if negative then "-inf" else "inf"
  | .notANumber => "NaN"

/-- Whether a number differs from zero. -/
def isNonzero : TomlFloat → Bool
  | .finite value => value.significand != 0
  | _ => true

/-- The nearest natural number in 64 bits, a half going up. -/
def nearest : TomlFloat → Nat
  | .finite value =>
    if value.negative then 0 else min Word.greatest ((2 * value.magnitude + Binary64.unit) / (2 * Binary64.unit))
  | .infinity negative => if negative then 0 else Word.greatest
  | .notANumber => 0

end TomlFloat

namespace Setting

/-- A character between double quotes; one that cannot be seen on its own is written as its code point. -/
def shown (c : Char) : List Char :=
  match c with
  | '"' => ['\\', '"']
  | '\\' => ['\\', '\\']
  | '\n' => ['\\', 'n']
  | '\r' => ['\\', 'r']
  | '\t' => ['\\', 't']
  | _ =>
    let hidden := Unicode.control ++ Unicode.format ++ Unicode.privateUse ++ Unicode.unassigned ++ Unicode.separators
    if c.toNat = 0 then ['\\', '0']
    else if c != ' ' && Unicode.inRuns (hidden ++ Unicode.graphemeExtend) c.toNat then
      '\\' :: 'u' :: Char.ofNat 0x7B :: Nat.toDigits 16 c.toNat ++ [Char.ofNat 0x7D]
    else [c]

/-- A text between double quotes. -/
def quoted (text : String) : String := "\"" ++ String.ofList (text.toList.flatMap shown) ++ "\""

/-- What stands in a place, in words. -/
def describe : Setting → String
  | .scalar _ .absent => "unit value"
  | .scalar _ (.boolean value) => "boolean `" ++ toString value ++ "`"
  | .scalar _ (.integer value) => "64-bit integer `" ++ integerText value ++ "`"
  | .scalar _ (.float value) => "floating point `" ++ value.text ++ "`"
  | .scalar _ (.text value) => "string " ++ quoted value
  | .list _ _ => "sequence"
  | .table _ _ => "map"

/-- Where a setting comes from. -/
def origin? : Setting → Option String
  | .scalar origin _ => origin
  | .list origin _ => origin
  | .table origin _ => origin

/-- The fault of a setting of another type. -/
def mistyped {α : Type} (setting : Setting) (key expected : String) : Except SettingError α :=
  .error (.wrongType setting.describe expected key setting.origin?)

/-- The fault of a setting of another shape. -/
def misshapen {α : Type} (setting : Setting) (expected : String) : Except SettingError α :=
  match setting with
  | .scalar _ (.integer value) => .error (.wrongShape ("integer `" ++ integerText value ++ "`") expected)
  | _ => .error (.wrongShape setting.describe expected)

/-- The words for true and false. -/
def switch? (word : String) : Option Bool :=
  if word = "true" ∨ word = "on" ∨ word = "yes" then some true
  else if word = "false" ∨ word = "off" ∨ word = "no" then some false
  else none

/-- The boolean in a setting. -/
def boolean (key : String) (setting : Setting) : Except SettingError Bool :=
  match setting with
  | .scalar _ (.boolean value) => .ok value
  | .scalar _ (.integer value) => .ok (value != 0)
  | .scalar _ (.float value) => .ok value.isNonzero
  | .scalar _ (.text value) =>
    let word := value.toLower
    match if word = "1" then some true else if word = "0" then some false else switch? word with
    | some value => .ok value
    | none => setting.mistyped key "a boolean"
  | _ => setting.mistyped key "a boolean"

/-- The natural number in 64 bits that a text denotes. -/
def naturalOfText? (text : String) : Option Nat :=
  let digits := match text.toList with
    | '+' :: rest => rest
    | chars => chars
  let n := digits.foldl (fun n c => n * 10 + (c.toNat - 48)) 0
  if !digits.isEmpty && digits.all Char.isDigit && n < Word.count then some n else none

/-- The natural number in a setting. -/
def natural (key : String) (setting : Setting) : Except SettingError Nat :=
  let expected := "an unsigned 64 bit or less integer"
  match setting with
  | .scalar _ (.integer value) => if 0 ≤ value then .ok value.toNat else setting.mistyped key expected
  | .scalar _ (.boolean value) => .ok value.toNat
  | .scalar _ (.float value) => .ok value.nearest
  | .scalar _ (.text value) =>
    match (switch? value.toLower).map Bool.toNat <|> naturalOfText? value with
    | some n => .ok n
    | none => setting.mistyped key expected
  | _ => setting.mistyped key expected

/-- The text in a setting. -/
def text (key : String) (setting : Setting) : Except SettingError String :=
  match setting with
  | .scalar _ (.text value) => .ok value
  | .scalar _ (.boolean value) => .ok (toString value)
  | .scalar _ (.integer value) => .ok (integerText value)
  | .scalar _ (.float value) => .ok value.text
  | _ => setting.mistyped key "a string"

/-- The text in a setting that may say nothing. -/
def textOrNone (key : String) (setting : Setting) : Except SettingError (Option String) :=
  match setting with
  | .scalar _ .absent => .ok none
  | _ => (setting.text key).map some

/-- The texts in a list. -/
def texts (key : String) (setting : Setting) : Except SettingError (List String) :=
  match setting with
  | .list _ items => items.zipIdx.mapM fun (item, index) => item.text (key ++ "[" ++ decimalText index ++ "]")
  | _ => setting.misshapen "a sequence"

/-- The choice in a setting by its name in any case; the only key of a table counts as a name. -/
def choice {α : Type} (kind : String) (choices : List (String × α)) (setting : Setting) : Except SettingError α :=
  let named (name : String) : Except SettingError α :=
    match choices.find? (·.1.toLower = name.toLower) with
    | some (_, value) => .ok value
    | none => .error (.unknownChoice kind name)
  match setting with
  | .scalar _ (.text name) => named name
  | .table _ [(name, _)] => named name
  | _ => .error (.notAChoice kind)

/-- The members of a section; a list gives them in order. -/
def fields (kind : String) (names : List String) (setting : Setting) : Except SettingError (List (String × Setting)) :=
  match setting with
  | .table _ members => .ok members
  | .list _ items => .ok (names.zip items)
  | _ => setting.misshapen ("struct " ++ kind)

end Setting

end JsonSchema
