import JsonSchema.Regex.Reader

/-! # Patterns

The regular expressions of schemas follow ECMA-262, where the shorthand classes for digits and
word characters are ASCII sets. `Pattern.translate` writes these sets out before the expression is
read; inside a bracketed class only the positive shorthands can be written out. A pattern may match
anywhere in a text.
-/

namespace JsonSchema

/-- A regular expression of a schema. -/
structure Pattern where
  source : String
  expression : Regex.Expression
  deriving DecidableEq

namespace Pattern

/-- What an escaped letter is written out as, if it is a shorthand that can be. -/
def expansion? (inClass : Bool) (escaped : Char) : Option String :=
  match inClass, escaped with
  | false, 'd' => some "[0-9]"
  | false, 'D' => some "[^0-9]"
  | false, 'w' => some "[A-Za-z0-9_]"
  | false, 'W' => some "[^A-Za-z0-9_]"
  | true, 'd' => some "0-9"
  | true, 'w' => some "A-Za-z0-9_"
  | _, _ => none

/-- Writes out the shorthands, given whether the text starts inside a class. -/
def translateFrom (inClass : Bool) : List Char → List Char
  | [] => []
  | ['\\'] => ['\\']
  | '\\' :: escaped :: rest =>
    (match expansion? inClass escaped with
      | some text => text.toList
      | none => ['\\', escaped]) ++ translateFrom inClass rest
  | c :: rest =>
    let next := if !inClass && c == '[' then true else if inClass && c == ']' then false else inClass
    c :: translateFrom next rest

/-- Writes out the shorthands of a source. -/
def translate (source : String) : String := String.ofList (translateFrom false source.toList)

/-- The pattern of a source, unless that is no regular expression. -/
def ofSource? (source : String) : Option Pattern :=
  (Regex.Expression.read? (translate source)).map (⟨source, ·⟩)

/-- Whether some part of a text matches. -/
def isMatch (p : Pattern) (text : String) : Bool := p.expression.isMatch text

end Pattern

end JsonSchema
