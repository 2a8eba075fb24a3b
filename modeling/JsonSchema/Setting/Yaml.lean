import JsonSchema.Json.Printer
import JsonSchema.Setting.Yaml.Scalar

/-! # Settings in YAML

Documents of nested mappings and sequences, by indentation or in brackets. The value of a plain scalar is
read from its text. A mapping has each key once; keys that are numbers or booleans count by their texts.
-/

namespace JsonSchema.Setting.Yaml

/-- The name and the tag of what follows them. -/
structure Properties where
  name : Option String := none
  tag : Option String := none

/-- Reads names and tags, and the blanks between them. -/
def readProperties : Nat → Properties → Cursor → Properties × Cursor
  | 0, properties, cursor => (properties, cursor)
  | fuel + 1, properties, cursor =>
    let word := (cursor.rest.drop 1).takeWhile fun c => !isSpace c && !isFlowMark c
    let next := (cursor.drop (word.length + 1)).dropWhile isBlank
    match cursor.rest with
    | '&' :: _ => readProperties fuel { properties with name := String.ofList word } next
    | '!' :: _ => readProperties fuel { properties with tag := String.ofList word } next
    | _ => (properties, cursor)

/-- The value of a plain scalar of a type. -/
def valueOfType (type : String) (text : List Char) : Scalar :=
  let word := String.ofList text
  match type with
  | "!bool" => if word = "true" then .boolean true else if word = "false" then .boolean false else .absent
  | "!int" => ((integer? text).map Scalar.integer).getD .absent
  | "!float" => (((float? text).filter fun _ => text.any Char.isDigit).map Scalar.float).getD .absent
  | "!null" => .absent
  | _ => .text word

/-- The setting of a plain scalar. -/
def plainSetting? (properties : Properties) (text : List Char) : Option Setting :=
  match properties.tag with
  | some type => some (.scalar none (valueOfType type text))
  | none => (plainValue? text).map (.scalar none)

/-- The setting of a scalar that is a text. -/
def textSetting (text : List Char) : Setting := .scalar none (.text (String.ofList text))

/-- A setting under the name that it is given, if any. -/
def withName (properties : Properties) (value : Setting) (cursor : Cursor) : Setting × Cursor :=
  match properties.name with
  | some name => (value, { cursor with named := putEntry name value cursor.named })
  | none => (value, cursor)

/-- The setting whose name stands behind an asterisk. -/
def readAlias? (cursor : Cursor) : Option (Setting × Cursor) :=
  let word := (cursor.rest.drop 1).takeWhile fun c => !isSpace c && !isFlowMark c
  (assoc? (String.ofList word) cursor.named).map fun value => (value, cursor.drop (word.length + 1))

/-- The key that a plain scalar denotes. -/
def keyOf? (text : List Char) : Option String :=
  match plainValue? text with
  | some .absent => none
  | some (.integer value) => some (integerText value)
  | _ => some (String.ofList text)

/-- A scalar that can be a key. -/
def readKeyText? (inFlow : Bool) (cursor : Cursor) : Option (String × Cursor) :=
  let quoted (quote : Char) : Option (String × Cursor) :=
    (readQuoted? quote (cursor.rest.length + 1) (cursor.drop 1)).map fun (cs, cursor) => (String.ofList cs, cursor)
  match cursor.rest with
  | '"' :: _ => quoted '"'
  | '\'' :: _ => quoted '\''
  | text =>
    if startsPlain inFlow text then
      let (cs, behind) :=
        if inFlow then readPlain true (-1) (text.length + 1) cursor
        else (trimEnd (plainLine false text), cursor.drop (plainLine false text).length)
      (keyOf? cs).map fun key => (key, behind)
    else none

/-- A key and its colon, all on one line. -/
def readKey? (cursor : Cursor) : Option (String × Cursor) := do
  let (key, behind) ← readKeyText? false (readProperties 2 {} cursor).2
  let behind := behind.dropWhile isBlank
  match behind.rest with
  | ':' :: rest => if endsToken rest && !cursor.crossesLine behind then some (key, behind.drop 1) else none
  | _ => none

/-- A key and its colon in braces or in a pair in brackets. -/
def readFlowKey? (cursor : Cursor) : Option (String × Cursor) := do
  let (key, behind) ← readKeyText? true cursor
  let isQuoted := cursor.rest.head? == some '"' || cursor.rest.head? == some '\''
  match behind.skip.rest with
  | ':' :: rest =>
    if endsToken rest || isQuoted || (rest.head?.map isFlowMark).getD false then some (key, behind.skip.drop 1) else none
  | _ => none

/-! ## Collections in brackets -/

mutual

/-- A value in brackets or braces; nothing stands for nothing. -/
def readFlow? : Nat → Cursor → Option (Setting × Cursor)
  | 0, _ => none
  | fuel + 1, cursor => do
    let (properties, cursor) := readProperties 2 {} cursor.skip
    let cursor := cursor.skip
    let (value, cursor) ← match cursor.rest with
      | '*' :: _ => readAlias? cursor
      | '"' :: _ => (readQuoted? '"' (cursor.rest.length + 1) (cursor.drop 1)).map fun (cs, next) => (textSetting cs, next)
      | '\'' :: _ => (readQuoted? '\'' (cursor.rest.length + 1) (cursor.drop 1)).map fun (cs, next) => (textSetting cs, next)
      | '[' :: _ => (readFlowItems? fuel (cursor.drop 1)).map fun (items, next) => (.list none items, next)
      | c :: _ =>
        if c.toNat = 0x7B then
          (readFlowMembers? fuel [] (cursor.drop 1)).map fun (members, next) => (.table none members, next)
        else if startsPlain true cursor.rest then
          let (cs, next) := readPlain true (-1) (cursor.rest.length + 1) cursor
          (plainSetting? properties cs).map fun value => (value, next)
        else if isFlowMark c then (plainSetting? properties []).map fun value => (value, cursor)
        else none
      | [] => none
    return withName properties value cursor

/-- The items of a sequence up to its closing bracket; a pair is a mapping of its own. -/
def readFlowItems? : Nat → Cursor → Option (List Setting × Cursor)
  | 0, _ => none
  | fuel + 1, cursor =>
    let cursor := cursor.skip
    match cursor.rest with
    | ']' :: _ => some ([], cursor.drop 1)
    | ',' :: _ => none
    | _ => do
      let (item, next) ← match readFlowKey? cursor with
        | some (key, next) => (readFlow? fuel next).map fun (value, next) => (.table none [(key, value)], next)
        | none => readFlow? fuel cursor
      match next.skip.rest with
      | ',' :: _ =>
        let (items, next) ← readFlowItems? fuel (next.skip.drop 1)
        return (item :: items, next)
      | ']' :: _ => return ([item], next.skip.drop 1)
      | _ => none

/-- The members of a mapping up to its closing brace. -/
def readFlowMembers? : Nat → List (String × Setting) → Cursor → Option (List (String × Setting) × Cursor)
  | 0, _, _ => none
  | fuel + 1, members, cursor =>
    let cursor := cursor.skip
    match cursor.rest with
    | [] => none
    | c :: _ =>
      if c.toNat = 0x7D then some (members, cursor.drop 1)
      else do
        let (key, value, next) ← match readFlowKey? cursor with
          | some (key, next) => (readFlow? fuel next).map fun (value, next) => (key, value, next)
          | none => (readKeyText? true cursor).map fun (key, next) => (key, absent, next)
        let members ← match assoc? key members with
          | some _ => none
          | none => some (putEntry key value members)
        match next.skip.rest with
        | ',' :: _ => readFlowMembers? fuel members (next.skip.drop 1)
        | d :: _ => if d.toNat = 0x7D then some (members, next.skip.drop 1) else none
        | [] => none

end

/-! ## Collections by indentation -/

/-- Whether an item of a sequence starts here. -/
def startsItem (text : List Char) : Bool := text.head? == some '-' && endsToken (text.drop 1)

/-- A scalar that is not a key, behind its name and tag. -/
def readScalar? (properties : Properties) (parent : Int) (cursor : Cursor) : Option (Setting × Cursor) :=
  let fuel := cursor.rest.length + 1
  let asText (read : List Char × Cursor) : Setting × Cursor := (textSetting read.1, read.2)
  match cursor.rest with
  | '"' :: _ => (readQuoted? '"' fuel (cursor.drop 1)).map asText
  | '\'' :: _ => (readQuoted? '\'' fuel (cursor.drop 1)).map asText
  | '|' :: _ => (readBlock? false parent (cursor.drop 1)).map asText
  | '>' :: _ => (readBlock? true parent (cursor.drop 1)).map asText
  | '*' :: _ => readAlias? cursor
  | '[' :: _ => readFlow? fuel cursor
  | c :: _ =>
    if c.toNat = 0x7B then readFlow? fuel cursor
    else if startsPlain false cursor.rest then
      let (cs, next) := readPlain false parent fuel cursor
      (plainSetting? properties cs).map fun value => (value, next)
    else none
  | [] => none

mutual

/-- A value behind what announces it. It is indented by more than `parent`, save that a sequence may stand at
the indentation of the mapping that it belongs to (`inMapping`). A collection starts on a line of its own
unless it may be `compact`. -/
def readNode? (parent : Int) (compact inMapping : Bool) : Nat → Cursor → Option (Setting × Cursor)
  | 0, _ => none
  | fuel + 1, cursor => do
    let start := cursor.skip
    let isInside (place : Cursor) : Bool :=
      !place.isAtEnd && (!cursor.crossesLine place || parent < place.column
        || inMapping && parent = place.column && startsItem place.rest)
    if !isInside start then return (absent, cursor)
    let (properties, behind) := readProperties 2 {} start
    let content := behind.skip
    let compact := compact || cursor.crossesLine content
    if start.rest.length ≠ content.rest.length ∧ (readKey? start).isSome ∧ !behind.crossesLine content then
      if compact then readEntries? start.column fuel [] start else none
    else if !isInside content then
      let value ← plainSetting? properties []
      return withName properties value behind
    else
      let (value, next) ←
        if startsItem content.rest then
          if compact then (readItems? content.column fuel content).map fun (items, next) => (.list none items, next)
          else none
        else if (readKey? content).isSome then
          if compact then readEntries? content.column fuel [] content else none
        else readScalar? properties parent content
      return withName properties value next

/-- The entries of a mapping at a column. -/
def readEntries? (column : Nat) : Nat → List (String × Setting) → Cursor → Option (Setting × Cursor)
  | 0, _, _ => none
  | fuel + 1, entries, cursor => do
    let (key, behind) ← readKey? cursor
    let (value, behind) ← readNode? column false true fuel behind
    let entries ← match assoc? key entries with
      | some _ => none
      | none => some (putEntry key value entries)
    let next := behind.skip
    if !next.isAtEnd && next.column = column then readEntries? column fuel entries next
    else return (.table none entries, behind)

/-- The items of a sequence at a column. -/
def readItems? (column : Nat) : Nat → Cursor → Option (List Setting × Cursor)
  | 0, _ => none
  | fuel + 1, cursor => do
    let (item, behind) ← readNode? column true false fuel (cursor.drop 1)
    let next := behind.skip
    if !next.isAtEnd && next.column = column && startsItem next.rest then
      let (items, behind) ← readItems? column fuel next
      return (item :: items, behind)
    else return ([item], behind)

end

/-! ## Documents -/

/-- The documents of a text. -/
def readDocuments? : Nat → Cursor → Option (List Setting)
  | 0, _ => none
  | fuel + 1, cursor =>
    let start := cursor.skip
    if start.rest.isEmpty then some []
    else if start.isAtMarker "..." then readDocuments? fuel (start.drop 3)
    else if start.column = 0 && start.rest.head? == some '%' then readDocuments? fuel (start.dropWhile (· != '\n'))
    else do
      let isMarked := start.isAtMarker "---"
      let start := if isMarked then start.drop 3 else start
      let (value, behind) ← readNode? (-1) (!isMarked) false (4 * start.rest.length + 4) { start with named := [] }
      if behind.skip.isAtEnd then (readDocuments? fuel behind).map (value :: ·) else none

/-- Each end of a line as a line feed. -/
def unifyBreaks : List Char → List Char
  | [] => []
  | '\r' :: '\n' :: rest => '\n' :: unifyBreaks rest
  | c :: rest => (if c == '\r' then '\n' else c) :: unifyBreaks rest

/-- The settings of the documents in a text. -/
def read? (text : String) : Option (List Setting) :=
  let chars := unifyBreaks text.toList
  readDocuments? (chars.length + 1) ⟨chars, 0, []⟩

end JsonSchema.Setting.Yaml
