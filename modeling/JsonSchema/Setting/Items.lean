import JsonSchema.Setting

/-! # Items between commas

What the notations of settings share: items between commas, tables of members and texts from characters.
-/

namespace JsonSchema.Setting

/-- Reads items up to a closing character, with commas between them; a comma may stand behind the last one.
What `skip` leaves out may stand around each item and each comma. -/
def readItems? {α : Type} (skip : List Char → List Char) (item? : List Char → Option (α × List Char))
    (close : Char) : Nat → List Char → Option (List α × List Char)
  | 0, _ => none
  | fuel + 1, text =>
    match skip text with
    | [] => none
    | c :: rest =>
      if c == close then some ([], rest)
      else do
        let (item, rest) ← item? (c :: rest)
        match skip rest with
        | ',' :: rest =>
          let (items, rest) ← readItems? skip item? close fuel rest
          return (item :: items, rest)
        | d :: rest => if d == close then some ([item], rest) else none
        | [] => none

/-- A table of members; of those with one key the last counts. -/
def tableOf (members : List (String × Setting)) : Setting :=
  .table none (members.foldl (fun entries (key, value) => putEntry key value entries) [])

/-- The text of some characters. -/
def ofChars (cs : List Char) : Setting := .scalar none (.text (String.ofList cs))

end JsonSchema.Setting
