import JsonSchema.Entries
import JsonSchema.Toml

/-! # Settings

Untyped settings: single values, lists and tables. Settings from several sources are laid over each
other. A table is merged with the table under the same key, and anything else takes the place of what
was there before. A path leads to a setting through names and indices.
-/

namespace JsonSchema

/-- A value without parts. -/
inductive Scalar where
  | absent
  | boolean (value : Bool)
  | integer (value : Int)
  | float (value : TomlFloat)
  | text (value : String)

/-- A setting; one that came from a single place tells where. -/
inductive Setting where
  | scalar (origin : Option String) (value : Scalar)
  | list (origin : Option String) (items : List Setting)
  | table (origin : Option String) (members : List (String × Setting))

namespace Setting

/-- The setting that says nothing. -/
def absent : Setting := .scalar none .absent

/-- The members of a table; anything else has none. -/
def members : Setting → List (String × Setting)
  | .table _ members => members
  | _ => []

/-- Where a table comes from; anything else comes from nowhere as a table. -/
def tableOrigin? : Setting → Option String
  | .table origin _ => origin
  | _ => none

/-- The items of a list; anything else has none. -/
def items : Setting → List Setting
  | .list _ items => items
  | _ => []

mutual

/-- What stands in a place after a setting was laid over it. -/
def laidOver (new : Setting) (old : Option Setting) : Setting :=
  match new with
  | .table _ members => membersLaidOver members (old.getD (.table none []))
  | .scalar origin value => .scalar origin value
  | .list origin items => .list origin items

/-- A setting after each of some members was laid over the one of its key. -/
def membersLaidOver (members : List (String × Setting)) (old : Setting) : Setting :=
  match members with
  | [] => old
  | (key, new) :: rest =>
    membersLaidOver rest (.table old.tableOrigin? (putEntry key (laidOver new (assoc? key old.members)) old.members))

end

/-- A step of a path. -/
inductive Step where
  | name (key : String)
  | index (position : Int)

/-- The place in a list of some size that an index means; negative ones count from the end. -/
def Step.place (size : Nat) (position : Int) : Nat :=
  if 0 ≤ position then position.toNat else size - position.natAbs

/-- A list with an item at a place; items that say nothing fill the gap before it. -/
def setItem (items : List Setting) (place : Nat) (item : Setting) : List Setting :=
  (items ++ List.replicate (place + 1 - items.length) absent).set place item

/-- What becomes of a setting when another is laid over the place at a path below it. -/
def assign (new : Setting) : List Step → Setting → Setting
  | [], _ => new
  | .name key :: rest, old =>
    let inner := assoc? key old.members
    let new := if rest.isEmpty then laidOver new inner else assign new rest (inner.getD absent)
    .table old.tableOrigin? (putEntry key new old.members)
  | .index position :: rest, old =>
    let place := Step.place old.items.length position
    .list none (setItem old.items place (assign new rest (old.items.getD place absent)))

/-- Whether a character may stand in a name of a path. -/
def isNameChar (c : Char) : Bool := c.isAlphanum || c == ' ' || c == '_' || c == '-'

/-- Reads the name at the start of a text. -/
def readName? (text : List Char) : Option (Step × List Char) :=
  match text.takeWhile isNameChar with
  | [] => none
  | name => some (.name (String.ofList name), text.dropWhile isNameChar)

/-- Reads the index behind an opening bracket, up to the closing one. -/
def readIndex? (text : List Char) : Option (Step × List Char) :=
  let text := text.dropWhile (· == ' ')
  let negative := text.head? == some '-'
  let text := if negative then text.drop 1 else text
  let digits := text.takeWhile Char.isDigit
  match digits.isEmpty, (text.drop digits.length).dropWhile (· == ' ') with
  | false, ']' :: rest =>
    let n : Int := digits.foldl (fun n c => n * 10 + (c.toNat - 48)) 0
    some (.index (if negative then -n else n), rest)
  | _, _ => none

/-- Reads the steps behind the first name. -/
def readSteps? : Nat → List Char → Option (List Step)
  | 0, _ => none
  | fuel + 1, text =>
    let step : Option (Step × List Char) := match text with
      | '.' :: rest => readName? rest
      | '[' :: rest => readIndex? rest
      | _ => none
    match text, step with
    | [], _ => some []
    | _, some (step, rest) => (readSteps? fuel rest).map (step :: ·)
    | _, none => none

/-- The path that a key denotes: names between dots, indices in brackets. Other keys are plain names. -/
def pathOf (key : String) : List Step :=
  match (readName? key.toList).bind fun (step, rest) => (readSteps? (rest.length + 1) rest).map (step :: ·) with
  | some path => path
  | none => [.name key]

/-- All settings of a source, by their keys, laid over a setting. -/
def overlay (source : List (String × Setting)) (old : Setting) : Setting :=
  source.foldl (fun old (key, new) => assign new (pathOf key) old) old

end Setting

end JsonSchema
