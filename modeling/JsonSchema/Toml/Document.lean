import JsonSchema.Entries
import JsonSchema.Toml.Reader

/-! # TOML documents

A document is a sequence of tables with their keys. A key is given once, and a table is opened once:
a header may reopen a table that only came up on the way to another header, and dotted keys may go on
with tables that only dotted keys have made.
-/

namespace JsonSchema.Toml

/-- What stands under a key of a document while it is read. -/
inductive Section where
  | value (value : Toml)
  /-- A table; an implicit one came up on the way to something else, perhaps through a dotted key. -/
  | table (implicit dotted : Bool) (entries : List (String × Section))
  /-- The tables of an array. -/
  | tables (elements : List (List (String × Section)))

namespace Section

/-- Puts a value under a dotted key. -/
def assign? (value : Toml) : List String → List (String × Section) → Option (List (String × Section))
  | [], _ => none
  | [key], entries =>
    match assoc? key entries with
    | none => some (putEntry key (.value value) entries)
    | some _ => none
  | part :: rest, entries =>
    match assoc? part entries with
    | none => (assign? value rest []).map fun inner => putEntry part (.table true true inner) entries
    | some (.table true dotted inner) =>
      if rest.length = 1 && !dotted then none
      else (assign? value rest inner).map fun inner => putEntry part (.table true dotted inner) entries
    | some (.tables elements) =>
      if rest.length = 1 then none
      else
        (assign? value rest (elements.getLast?.getD [])).map fun inner =>
          putEntry part (.tables (elements.dropLast ++ [inner])) entries
    | some _ => none

/-- Changes what stands at a path of headers; tables on the way are implicit. -/
def modifyAt? (change : Option Section → Option Section) :
    List String → List (String × Section) → Option (List (String × Section))
  | [], _ => none
  | [key], entries => (change (assoc? key entries)).map fun new => putEntry key new entries
  | part :: rest, entries =>
    match assoc? part entries with
    | none => (modifyAt? change rest []).map fun inner => putEntry part (.table true false inner) entries
    | some (.value _) => none
    | some (.table implicit dotted inner) =>
      (modifyAt? change rest inner).map fun inner => putEntry part (.table implicit dotted inner) entries
    | some (.tables elements) =>
      (modifyAt? change rest (elements.getLast?.getD [])).map fun inner =>
        putEntry part (.tables (elements.dropLast ++ [inner])) entries

/-- Opens a table by its header. -/
def openTable? : Option Section → Option Section
  | none => some (.table false false [])
  | some (.table true false entries) => some (.table false false entries)
  | some _ => none

/-- Opens the next table of an array by its header. -/
def openElement? : Option Section → Option Section
  | none => some (.tables [[]])
  | some (.tables elements) => some (.tables (elements ++ [[]]))
  | some _ => none

/-- Puts a value under a dotted key of the table that was opened last. -/
def assignIn? (key : List String) (value : Toml) : Option Section → Option Section
  | some (.table implicit dotted entries) => (assign? value key entries).map (.table implicit dotted)
  | some (.tables elements) =>
    (assign? value key (elements.getLast?.getD [])).map fun inner => .tables (elements.dropLast ++ [inner])
  | _ => none

mutual

/-- The value of what stands under a key. -/
def toToml : Section → Toml
  | .value found => found
  | .table _ _ entries => .table (membersOf entries)
  | .tables elements => .array (elementsOf elements)

/-- The members of a table. -/
def membersOf : List (String × Section) → List (String × Toml)
  | [] => []
  | (key, found) :: rest => (key, toToml found) :: membersOf rest

/-- The tables of an array. -/
def elementsOf : List (List (String × Section)) → List Toml
  | [] => []
  | entries :: rest => .table (membersOf entries) :: elementsOf rest

end

end Section

/-- Reads the items of an array behind its bracket, given how values are read. -/
def readItems? (value? : List Char → Option (Toml × List Char)) :
    Nat → List Char → Option (List Toml × List Char)
  | 0, _ => none
  | fuel + 1, text =>
    match skipLines (fuel + 1) text with
    | ']' :: rest => some ([], rest)
    | text => do
      let (item, rest) ← value? text
      match skipLines (fuel + 1) rest with
      | ',' :: rest =>
        let (items, rest) ← readItems? value? fuel rest
        return (item :: items, rest)
      | ']' :: rest => return ([item], rest)
      | _ => none

/-- The most parts of a key and the most levels of arrays and inline tables. -/
def nestingLimit : Nat := 79

/-- Reads a key and its value. -/
def readPair? (value? : List Char → Option (Toml × List Char)) (text : List Char) :
    Option ((List String × Toml) × List Char) := do
  let (key, rest) ← readKey? nestingLimit text
  let rest ← readChar? '=' rest
  let (value, rest) ← value? (skipBlanks rest)
  return ((key, value), skipBlanks rest)

/-- Reads the members of an inline table up to its closing brace. -/
def readMembers? (value? : List Char → Option (Toml × List Char)) :
    Nat → List Char → List (String × Section) → Option (List (String × Section) × List Char)
  | 0, _, _ => none
  | fuel + 1, text, entries => do
    let ((key, value), rest) ← readPair? value? text
    let entries ← Section.assign? value key entries
    match rest with
    | ',' :: rest => readMembers? value? fuel rest entries
    | c :: rest => if c.toNat = 0x7D then some (entries, rest) else none
    | [] => none

/-- Reads a value that may hold others, down to a bound on the nesting. -/
def readValue? : Nat → List Char → Option (Toml × List Char)
  | 0, text => readScalar? text
  | depth + 1, text =>
    match text with
    | '[' :: rest => (readItems? (readValue? depth) (rest.length + 1) rest).map fun (items, rest) => (.array items, rest)
    | c :: rest =>
      if c.toNat = 0x7B then
        match skipBlanks rest with
        | d :: after =>
          if d.toNat = 0x7D then some (.table [], after)
          else (readMembers? (readValue? depth) (rest.length + 1) rest []).map fun (entries, rest) =>
            (.table (Section.membersOf entries), rest)
        | [] => none
      else readScalar? text
    | [] => none

/-- What has been read of a document: the path of the table opened last, and everything so far. -/
abbrev Progress := List String × List (String × Section)

/-- Reads a header up to its closing brackets. -/
def readHeader? (text : List Char) : Option (List String × List Char) := do
  let (path, rest) ← readKey? nestingLimit text
  return (path, ← readChar? ']' rest)

/-- Reads a line without its end. -/
def readLine? (progress : Progress) (text : List Char) : Option (Progress × List Char) :=
  match text with
  | '[' :: '[' :: rest => do
    let (path, rest) ← readHeader? rest
    let rest ← readChar? ']' rest
    return ((path, ← Section.modifyAt? Section.openElement? path progress.2), rest)
  | '[' :: rest => do
    let (path, rest) ← readHeader? rest
    return ((path, ← Section.modifyAt? Section.openTable? path progress.2), rest)
  | _ => do
    let ((key, value), rest) ← readPair? (readValue? nestingLimit) text
    let entries ← match progress.1 with
      | [] => Section.assign? value key progress.2
      | path => Section.modifyAt? (Section.assignIn? key value) path progress.2
    return ((progress.1, entries), rest)

/-- Reads lines up to the end of the text. -/
def readLines? : Nat → Progress → List Char → Option Progress
  | 0, _, _ => none
  | fuel + 1, progress, text =>
    match skipLines (text.length + 1) text with
    | [] => some progress
    | text => do
      let (progress, rest) ← readLine? progress text
      match skipComment rest with
      | [] => some progress
      | rest => readLines? fuel progress (← lineEnd? rest)

/-- The members of the document that a text denotes. -/
def read? (text : String) : Option (List (String × Toml)) :=
  let chars := match text.toList with
    | c :: rest => if c.toNat = 0xFEFF then rest else c :: rest
    | [] => []
  (readLines? (chars.length + 1) ([], []) chars).map fun (_, entries) => Section.membersOf entries

end JsonSchema.Toml
