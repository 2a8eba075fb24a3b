import JsonSchema.Regex.Automaton
import JsonSchema.Regex.Expression

/-! # Reading regular expressions

`Expression.read?` reads the usual notation of regular expressions over Unicode text: groups,
flags, classes with set operations, named properties and counted repetition. Look-around and
back-references are no part of it. An empty class cannot be written, a bracket in first place stands
for itself, and a hyphen at either end of a class does so too. Nesting is limited, and so is the memory
of the automata for an expression. Where white space is insignificant, it is so between the signs of an
escape, of a property's name and of a count as well.
-/

namespace JsonSchema.Regex.Reader

/-- How the text that follows is read. -/
structure Flags where
  ignoreCase : Bool := false
  multiLine : Bool := false
  dotAll : Bool := false
  unicode : Bool := true
  extended : Bool := false
  carriageReturns : Bool := false
  /-- Whether repetitions prefer few rounds unless marked. -/
  isLazy : Bool := false
  deriving DecidableEq

/-- What one sign stands for. -/
inductive Sign where
  | char (c : Char)
  | set (members : CharSet)
  | assertion (condition : Assertion)

/-- A part of an expression with its shape and the height of its syntax tree. -/
structure Piece where
  expression : Expression
  shape : Shape
  height : Nat
  /-- Whether a repetition may follow. -/
  repeatable : Bool

/-- A condition as the anchor that it is. -/
def anchorOf : Assertion → Anchor
  | .textStart => .start
  | .textEnd => .finish
  | _ => .other

/-- A part that is no more than a sign or a set. -/
def Piece.leaf (expression : Expression) : Piece :=
  let shape := match expression with
    | .set members => Shape.ofSet members
    | .assertion condition => .condition (anchorOf condition)
    | _ => .empty
  ⟨expression, shape, 0, true⟩

/-- A part that is repeated. -/
def Piece.repeat (piece : Piece) (least : Nat) (most : Option Nat) (isLazy : Bool) : Piece :=
  ⟨.repeated piece.expression least most, piece.shape.rounds least most isLazy, piece.height + 1, true⟩

/-- The greatest height of a syntax tree. -/
def heightLimit : Nat := 250

/-- The greatest number of repetitions that can be written. -/
def countMax : Nat := Nat.pow 2 32 - 1

/-- Skips a comment up to the end of its line. -/
def skipComment (rest : List Char) : List Char := rest.dropWhile (· != '\n')

/-- Skips blanks and comments, within `fuel` of them. -/
def skipWithin (rest : List Char) : Nat → List Char
  | 0 => rest
  | fuel + 1 =>
    match rest with
    | [] => []
    | c :: more =>
      if Unicode.isWhiteSpace c.toNat then skipWithin more fuel
      else if c = '#' then skipWithin (skipComment more) fuel
      else c :: more

/-- Skips blanks and comments where the flags make them insignificant. -/
def skip (flags : Flags) (rest : List Char) : List Char :=
  if flags.extended then skipWithin rest rest.length else rest

/-! ## Signs -/

/-- The value of a hexadecimal digit. -/
def hexDigit? (c : Char) : Option Nat :=
  if '0' ≤ c ∧ c ≤ '9' then some (c.toNat - 48)
  else if 'a' ≤ c ∧ c ≤ 'f' then some (c.toNat - 87)
  else if 'A' ≤ c ∧ c ≤ 'F' then some (c.toNat - 55)
  else none

/-- The character of a code point. -/
def char? (n : Nat) : Option Char := if n.isValidChar then some (Char.ofNat n) else none

/-- The value of hexadecimal digits. -/
def hexValue? (digits : List Char) : Option Nat :=
  digits.foldlM (fun n c => (hexDigit? c).map (n * 16 + ·)) 0

/-- Takes characters up to one of a kind, passing over what is insignificant between them, within `fuel` characters.
There must be one of the kind. -/
def takeUntil (flags : Flags) (isEnd : Char → Bool) (rest : List Char) : Nat → Option (List Char × List Char)
  | 0 => none
  | fuel + 1 =>
    match skip flags rest with
    | [] => none
    | c :: rest =>
      if isEnd c then some ([], c :: rest)
      else (takeUntil flags isEnd rest fuel).map fun (taken, rest) => (c :: taken, rest)

/-- Takes what stands before a closing brace, and passes over the brace. -/
def takeBraced (flags : Flags) (rest : List Char) : Option (List Char × List Char) :=
  (takeUntil flags (· == '}') rest (rest.length + 1)).map fun (taken, rest) => (taken, rest.drop 1)

/-- Reads a code point of a fixed number of digits. -/
def readFixedHex (flags : Flags) (rest : List Char) : Nat → List Char → Option (Char × List Char)
  | 0, digits => ((hexValue? digits).bind char?).map (·, rest)
  | count + 1, digits =>
    match skip flags rest with
    | [] => none
    | c :: rest => readFixedHex flags rest count (digits ++ [c])

/-- Reads a code point between braces. -/
def readBracedHex (flags : Flags) (rest : List Char) : Option (Char × List Char) := do
  let (digits, rest) ← takeBraced flags rest
  if digits.isEmpty then none
  else
    let c ← (hexValue? digits).bind char?
    return (c, rest)

/-- Reads a code point after its letter. -/
def readHex (count : Nat) (flags : Flags) (rest : List Char) : Option (Char × List Char) :=
  match skip flags rest with
  | '{' :: rest => readBracedHex flags rest
  | rest => readFixedHex flags rest count []

/-- Reads a code point of two digits; without Unicode it is a byte, which must be an ASCII character. -/
def readHexByte (flags : Flags) (rest : List Char) : Option (Char × List Char) :=
  match skip flags rest with
  | '{' :: rest => readBracedHex flags rest
  | rest => (readFixedHex flags rest 2 []).filter fun (c, _) => flags.unicode || c.toNat < 128

/-- Adds the characters that differ in case only, where case is ignored; without Unicode these are ASCII. -/
def foldCase (flags : Flags) (set : CharSet) : CharSet :=
  if !flags.ignoreCase then set
  else if flags.unicode then .folded set
  else .union set (.intersection (.folded set) (.range 0 127))

/-- A set that is allowed under the flags: without Unicode it may hold ASCII characters only. -/
def allowed? (flags : Flags) (set : CharSet) : Option CharSet :=
  if flags.unicode then some set
  else if (List.range 128).any fun n => set.contains (n + 128) then none
  else some set

/-- A set or its complement. -/
def signed (negated : Bool) (set : CharSet) : CharSet := if negated then .complement set else set

/-- The property that a text between braces names, and whether its complement is meant: a kind and a value may be
joined by a sign of equality, a colon or a sign of inequality. -/
def namedProperty? (text : List Char) : Option (Unicode.Property × Bool) :=
  let name := String.ofList text
  match name.splitOn "!=" with
  | [kind, value] => (Unicode.Property.ofPair? kind value).map (·, true)
  | _ =>
    match name.splitOn ":" with
    | [kind, value] => (Unicode.Property.ofPair? kind value).map (·, false)
    | _ =>
      match name.splitOn "=" with
      | [kind, value] => (Unicode.Property.ofPair? kind value).map (·, false)
      | _ => (Unicode.Property.ofName? name).map (·, false)

/-- Reads a named property after its letter. -/
def readProperty (flags : Flags) (negated : Bool) (rest : List Char) : Option (CharSet × List Char) := do
  if flags.unicode then
    let ((property, isComplement), rest) ← match skip flags rest with
      | [] => none
      | '{' :: rest => (takeBraced flags rest).bind fun (name, rest) => (namedProperty? name).map (·, rest)
      | c :: rest => if c = '\\' then none else (namedProperty? [c]).map (·, rest)
    return (signed (negated != isComplement) (foldCase flags (.property property)), rest)
  else none

/-- The sets of the class letters. -/
def shorthand? (flags : Flags) (c : Char) : Option CharSet :=
  let digit := if flags.unicode then .property (.named .category "nd") else .asciiDigit
  let space := if flags.unicode then .property (.named .feature "space") else .asciiSpace
  let word := if flags.unicode then .property .word else .asciiWord
  match c with
  | 'd' => some digit
  | 'D' => some (.complement digit)
  | 's' => some space
  | 'S' => some (.complement space)
  | 'w' => some word
  | 'W' => some (.complement word)
  | _ => none

/-- Whether a backslash before a character leaves its meaning. -/
def isEscapable (c : Char) : Bool :=
  c.toNat < 128 && !c.isAlphanum && c != '<' && c != '>'

/-- The special word boundaries by name. -/
def wordBoundary? (ascii : Bool) (name : String) : Option Assertion :=
  match name with
  | "start" => some (.wordStart ascii)
  | "end" => some (.wordEnd ascii)
  | "start-half" => some (.wordStartHalf ascii)
  | "end-half" => some (.wordEndHalf ascii)
  | _ => none

/-- Whether a character may stand in the name of a word boundary. -/
def isBoundaryName (c : Char) : Bool := c.isAlpha || c == '-'

/-- Reads what may follow the letter of a word boundary: a name between braces. -/
def readWordBoundary (flags : Flags) (rest : List Char) : Option (Assertion × List Char) :=
  let ascii := !flags.unicode
  match rest with
  | '{' :: more =>
    match skip flags more with
    | [] => none
    | c :: _ =>
      if isBoundaryName c then
        match takeUntil flags (fun c => !isBoundaryName c) more (more.length + 1) with
        | some (name, '}' :: after) => (wordBoundary? ascii (String.ofList name)).map (·, after)
        | _ => none
      else some (.wordBoundary ascii, rest)
  | _ => some (.wordBoundary ascii, rest)

/-- Reads a sign after its backslash. -/
def readEscape (flags : Flags) (rest : List Char) : Option (Sign × List Char) :=
  match rest with
  | [] => none
  | c :: rest =>
    match c with
    | 'x' => (readHexByte flags rest).map fun (c, rest) => (.char c, rest)
    | 'u' => (readHex 4 flags rest).map fun (c, rest) => (.char c, rest)
    | 'U' => (readHex 8 flags rest).map fun (c, rest) => (.char c, rest)
    | 'p' => (readProperty flags false rest).map fun (set, rest) => (.set set, rest)
    | 'P' => (readProperty flags true rest).map fun (set, rest) => (.set set, rest)
    | 'a' => some (.char (Char.ofNat 7), rest)
    | 'f' => some (.char (Char.ofNat 12), rest)
    | 't' => some (.char '\t', rest)
    | 'n' => some (.char '\n', rest)
    | 'r' => some (.char '\r', rest)
    | 'v' => some (.char (Char.ofNat 11), rest)
    | 'A' => some (.assertion .textStart, rest)
    | 'z' => some (.assertion .textEnd, rest)
    | 'b' => (readWordBoundary flags rest).map fun (assertion, rest) => (.assertion assertion, rest)
    | 'B' => some (.assertion (.notWordBoundary !flags.unicode), rest)
    | '<' => some (.assertion (.wordStart !flags.unicode), rest)
    | '>' => some (.assertion (.wordEnd !flags.unicode), rest)
    | c =>
      match shorthand? flags c with
      | some set => some (.set set, rest)
      | none => if isEscapable c then some (.char c, rest) else none

/-! ## Classes -/

/-- An operation between two sets of a class. -/
inductive SetOperation where
  | intersection
  | difference
  | symmetricDifference

/-- The set that an operation makes of two sets. -/
def SetOperation.apply (operation : SetOperation) (left right : CharSet) : CharSet :=
  match operation with
  | .intersection => .intersection left right
  | .difference => .difference left right
  | .symmetricDifference => .symmetricDifference left right

/-- A set of a class with the height of its syntax tree. -/
structure SetPiece where
  set : CharSet
  height : Nat

/-- The union of pieces. -/
def SetPiece.unionOf (pieces : List SetPiece) : SetPiece :=
  let height := pieces.foldl (fun height piece => max height piece.height) 0
  ⟨CharSet.unionOf (pieces.map (·.set)), if pieces.length < 2 then height else height + 1⟩

/-- What has been read of a class: the left side of an operation, and the sets since then in reverse. -/
structure ClassState where
  left : Option (SetPiece × SetOperation)
  sets : List SetPiece

/-- One more set. -/
def ClassState.add (state : ClassState) (set : CharSet) : ClassState := { state with sets := ⟨set, 0⟩ :: state.sets }

/-- The set that has been read so far. -/
def ClassState.value (flags : Flags) (state : ClassState) : SetPiece :=
  let right := SetPiece.unionOf state.sets.reverse
  match state.left with
  | none => right
  | some (left, operation) =>
    ⟨operation.apply (foldCase flags left.set) (foldCase flags right.set), max left.height right.height + 1⟩

/-- The state after an operation sign. -/
def ClassState.operate (flags : Flags) (state : ClassState) (operation : SetOperation) : ClassState :=
  ⟨some (state.value flags, operation), []⟩

/-- Reads one sign of a class; without Unicode it stands for ASCII characters only. -/
def readClassSign (flags : Flags) (rest : List Char) : Option (Sign × List Char) := do
  let (sign, rest) ← match rest with
    | [] => none
    | '\\' :: rest => readEscape flags rest
    | c :: rest => some (.char c, rest)
  match sign with
  | .char c => if flags.unicode || c.toNat < 128 then return (sign, rest) else none
  | .set members => return (.set (← allowed? flags members), rest)
  | .assertion _ => none

/-- The set of one sign of a class; assertions have none. -/
def Sign.set? : Sign → Option CharSet
  | .char c => some (.single c)
  | .set members => some members
  | .assertion _ => none

/-- Reads a range of a class or one sign. -/
def readRange (flags : Flags) (rest : List Char) : Option (CharSet × List Char) := do
  let (first, rest) ← readClassSign flags rest
  let rest := skip flags rest
  match rest with
  | '-' :: more =>
    match (skip flags more).head? with
    | none => none
    | some next =>
      if next = ']' ∨ next = '-' then return (← first.set?, rest)
      else
        let (last, after) ← readClassSign flags (skip flags more)
        match first, last with
        | .char first, .char last =>
          if first ≤ last then return (.range first.toNat last.toNat, after) else none
        | _, _ => none
  | [] => none
  | _ => return (← first.set?, rest)

/-- Reads a set named between colons, after its bracket. -/
def readPosix (flags : Flags) (rest : List Char) : Option (CharSet × List Char) :=
  match rest with
  | ':' :: rest =>
    let (negated, rest) := match rest with | '^' :: rest => (true, rest) | _ => (false, rest)
    match rest.dropWhile (· != ':') with
    | ':' :: ']' :: after =>
      (CharSet.ofPosixName? (String.ofList (rest.takeWhile (· != ':')))).map fun set =>
        (signed negated (foldCase flags set), after)
    | _ => none
  | _ => none

/-- Reads hyphens at the start of a class. -/
def readHyphens (flags : Flags) (state : ClassState) (rest : List Char) : Nat → ClassState × List Char
  | 0 => (state, rest)
  | fuel + 1 =>
    match rest with
    | '-' :: more => readHyphens flags (state.add (.single '-')) (skip flags more) fuel
    | _ => (state, rest)

/-- Reads the start of a class after its bracket: negation, and characters that stand for themselves there. -/
def readClassStart (flags : Flags) (rest : List Char) : Bool × ClassState × List Char :=
  let rest := skip flags rest
  let (negated, rest) := match rest with | '^' :: rest => (true, skip flags rest) | _ => (false, rest)
  let (state, rest) := readHyphens flags ⟨none, []⟩ rest rest.length
  match state.sets, rest with
  | [], ']' :: rest => (negated, state.add (.single ']'), skip flags rest)
  | _, _ => (negated, state, rest)

mutual

/-- Reads a class after its bracket, with its height. -/
def readClass (flags : Flags) (rest : List Char) : Nat → Option (SetPiece × List Char)
  | 0 => none
  | fuel + 1 => do
    let (negated, state, rest) := readClassStart flags rest
    let (state, rest) ← readClassItems flags state rest fuel
    let piece := state.value flags
    let set ← allowed? flags (signed negated (foldCase flags piece.set))
    return (⟨set, piece.height + 1⟩, rest)

/-- Reads sets and operations up to the closing bracket. -/
def readClassItems (flags : Flags) (state : ClassState) (rest : List Char) :
    Nat → Option (ClassState × List Char)
  | 0 => none
  | fuel + 1 =>
    match skip flags rest with
    | [] => none
    | ']' :: rest => some (state, rest)
    | '&' :: '&' :: rest => readClassItems flags (state.operate flags .intersection) rest fuel
    | '-' :: '-' :: rest => readClassItems flags (state.operate flags .difference) rest fuel
    | '~' :: '~' :: rest => readClassItems flags (state.operate flags .symmetricDifference) rest fuel
    | '[' :: rest =>
      match readPosix flags rest with
      | some (set, rest) =>
        match allowed? flags set with
        | some set => readClassItems flags (state.add set) rest fuel
        | none => none
      | none =>
        match readClass flags rest fuel with
        | none => none
        | some (piece, rest) => readClassItems flags { state with sets := piece :: state.sets } rest fuel
    | rest =>
      match readRange flags rest with
      | none => none
      | some (set, rest) => readClassItems flags (state.add set) rest fuel

end

/-! ## Repetition -/

/-- Takes decimal digits, passing over what is insignificant after each of them. -/
def takeDigits (flags : Flags) (rest : List Char) : Nat → List Char × List Char
  | 0 => ([], rest)
  | fuel + 1 =>
    match rest with
    | c :: more =>
      if c.isDigit then
        let (digits, rest) := takeDigits flags (skip flags more) fuel
        (c :: digits, rest)
      else ([], rest)
    | [] => ([], [])

/-- Reads a decimal number between blanks. -/
def readCount (flags : Flags) (rest : List Char) : Option Nat × List Char :=
  let isBlank (c : Char) : Bool := Unicode.isWhiteSpace c.toNat
  let rest := rest.dropWhile isBlank
  let (digits, rest) := takeDigits flags rest rest.length
  (if digits.isEmpty then none else some (digits.foldl (fun n c => n * 10 + (c.toNat - 48)) 0),
    skip flags (rest.dropWhile isBlank))

/-- Reads the bounds of a counted repetition after its brace. -/
def readBounds (flags : Flags) (rest : List Char) : Option (Nat × Option Nat × List Char) := do
  let (least, rest) := readCount flags (skip flags rest)
  let least ← least
  let (most, rest) ← match rest with
    | ',' :: rest =>
      match skip flags rest with
      | '}' :: _ => some (none, skip flags rest)
      | rest =>
        match readCount flags rest with
        | (some most, rest) => some (some most, rest)
        | (none, _) => none
    | _ => some (some least, rest)
  match rest with
  | '}' :: rest =>
    if countMax < least ∨ most.any (countMax < ·) ∨ most.any (· < least) then none
    else return (least, most, rest)
  | _ => none

/-- Reads the mark of a repetition whose preference is turned around. -/
def readLazy (flags : Flags) (rest : List Char) : Bool × List Char :=
  match rest with
  | '?' :: rest => (!flags.isLazy, rest)
  | rest => (flags.isLazy, rest)

/-- Repeats the last piece, which must be there to be repeated. -/
def repeatLast? (least : Nat) (most : Option Nat) (isLazy : Bool) : List Piece → Option (List Piece)
  | [] => none
  | piece :: pieces =>
    if piece.repeatable then some (piece.repeat least most isLazy :: pieces) else none

/-! ## Groups -/

/-- One flag by its letter. -/
def Flags.set? (flags : Flags) (c : Char) (on : Bool) : Option Flags :=
  match c with
  | 'i' => some { flags with ignoreCase := on }
  | 'm' => some { flags with multiLine := on }
  | 's' => some { flags with dotAll := on }
  | 'u' => some { flags with unicode := on }
  | 'x' => some { flags with extended := on }
  | 'R' => some { flags with carriageReturns := on }
  | 'U' => some { flags with isLazy := on }
  | _ => none

/-- Reads flag letters up to a colon or a closing parenthesis, none of them twice. -/
def readFlagLetters (flags : Flags) (on : Bool) (seen : List Char) : List Char → Option (Flags × List Char × List Char)
  | [] => none
  | c :: rest =>
    if c = ':' ∨ c = ')' then
      if seen.head? = some '-' then none else some (flags, seen, c :: rest)
    else if seen.contains c then none
    else if c = '-' then readFlagLetters flags false ('-' :: seen) rest
    else
      match flags.set? c on with
      | some flags => readFlagLetters flags on (c :: seen) rest
      | none => none

/-- Whether a character may stand in the name of a group. -/
def isNameChar (first : Bool) (c : Char) : Bool :=
  c == '_' || Unicode.isAlphabetic c.toNat ||
    (!first && (c == '.' || c == '[' || c == ']' ||
      Unicode.isNumber c.toNat))

/-- Reads the name of a group up to its angle bracket; it must be new. -/
def readGroupName (names : List String) (rest : List Char) : Option (List String × List Char) :=
  let name := rest.takeWhile (· != '>')
  match rest.dropWhile (· != '>'), name with
  | _ :: after, first :: others =>
    let text := String.ofList name
    if isNameChar true first && others.all (isNameChar false) && !names.contains text then
      some (text :: names, after)
    else none
  | _, _ => none

/-- The start of a group. -/
inductive GroupStart where
  /-- Flags for the rest of the enclosing group. -/
  | flags (next : Flags)
  /-- A group with flags of its own, and whether it captures what it matches. -/
  | body (inner : Flags) (captures : Bool)

/-- Reads the start of a group after its parenthesis. -/
def readGroupStart (flags : Flags) (names : List String) (rest : List Char) :
    Option (GroupStart × List String × List Char) :=
  match skip flags rest with
  | '?' :: 'P' :: '<' :: rest => (readGroupName names rest).map fun (names, rest) => (.body flags true, names, rest)
  | '?' :: '<' :: rest =>
    match rest with
    | '=' :: _ => none
    | '!' :: _ => none
    | _ => (readGroupName names rest).map fun (names, rest) => (.body flags true, names, rest)
  | '?' :: rest =>
    match readFlagLetters flags true [] rest with
    | some (flags, _, ':' :: rest) => some (.body flags false, names, rest)
    | some (flags, seen, _ :: rest) => if seen.isEmpty then none else some (.flags flags, names, rest)
    | _ => none
  | rest => some (.body flags true, names, rest)

/-- The piece of pieces that follow each other, given in reverse. -/
def concatenate (pieces : List Piece) : Piece :=
  match pieces with
  | [piece] => piece
  | pieces =>
    let height := pieces.foldl (fun h piece => max h piece.height) 0
    let pieces := pieces.reverse
    ⟨.sequence (pieces.map (·.expression)), .follow (pieces.map (·.shape)),
      if pieces.isEmpty then 0 else height + 1, true⟩

/-- The piece of alternatives, given in reverse. -/
def alternate (branches : List Piece) : Piece :=
  match branches with
  | [branch] => branch
  | branches =>
    let height := branches.foldl (fun h piece => max h piece.height) 0
    let branches := branches.reverse
    ⟨.choice (branches.map (·.expression)), .oneOf (branches.map (·.shape)), height + 1, true⟩

/-- A plain character as an expression. -/
def literal (flags : Flags) (c : Char) : Expression :=
  if flags.ignoreCase && (flags.unicode || c.isAlpha) then
    if flags.unicode then .set (.folded (.single c))
    else .set (.union (.single c.toLower) (.single c.toUpper))
  else .set (.single c)

/-- The expression of a sign outside classes. -/
def Sign.expression? (flags : Flags) : Sign → Option Expression
  | .char c => some (literal flags c)
  | .set members => (allowed? flags members).map .set
  | .assertion condition => some (.assertion condition)

/-- Any character, or any that ends no line. -/
def dot? (flags : Flags) : Option Expression :=
  if !flags.unicode then none
  else if flags.dotAll then some (.set (.range 0 Unicode.lastCodePoint))
  else if flags.carriageReturns then some (.set (.complement (.union (.single '\n') (.single '\r'))))
  else some (.set (.complement (.single '\n')))

/-- The start of the text, or of a line. -/
def lineStart (flags : Flags) : Assertion :=
  if flags.multiLine then .lineStart flags.carriageReturns else .textStart

/-- The end of the text, or of a line. -/
def lineEnd (flags : Flags) : Assertion :=
  if flags.multiLine then .lineEnd flags.carriageReturns else .textEnd

/-- What has been read of a group: alternatives and the pieces since then, both in reverse. -/
structure GroupState where
  flags : Flags
  branches : List Piece
  pieces : List Piece
  names : List String

/-- One more piece. -/
def GroupState.add (state : GroupState) (piece : Piece) : GroupState :=
  { state with pieces := piece :: state.pieces }

/-- The piece that has been read. -/
def GroupState.value (state : GroupState) : Piece :=
  alternate (concatenate state.pieces :: state.branches)

/-- Reads alternatives up to a closing parenthesis or the end. -/
def readGroup (state : GroupState) (rest : List Char) : Nat → Option (GroupState × List Char)
  | 0 => none
  | fuel + 1 =>
    match skip state.flags rest with
    | [] => some (state, [])
    | c :: rest =>
      let leaf (expression : Option Expression) : Option (GroupState × List Char) :=
        match expression with
        | some expression => readGroup (state.add (.leaf expression)) rest fuel
        | none => none
      let repetition (least : Nat) (most : Option Nat) (rest : List Char) : Option (GroupState × List Char) :=
        let (isLazy, rest) := readLazy state.flags rest
        match repeatLast? least most isLazy state.pieces with
        | some pieces => readGroup { state with pieces } rest fuel
        | none => none
      match c with
      | ')' => some (state, ')' :: rest)
      | '|' =>
        readGroup { state with branches := concatenate state.pieces :: state.branches, pieces := [] } rest fuel
      | '(' =>
        match readGroupStart state.flags state.names rest with
        | none => none
        | some (.flags flags, names, rest) =>
          readGroup ({ state with flags, names }.add ⟨.empty, .empty, 0, false⟩) rest fuel
        | some (.body flags captures, names, rest) =>
          match readGroup ⟨flags, [], [], names⟩ rest fuel with
          | some (inner, ')' :: rest) =>
            let piece := inner.value
            let shape := if captures then .captured piece.shape else piece.shape
            readGroup ({ state with names := inner.names }.add
              ⟨piece.expression, shape, piece.height + 1, true⟩) rest fuel
          | _ => none
      | '[' =>
        match readClass state.flags rest fuel with
        | none => none
        | some (piece, rest) =>
          readGroup (state.add { Piece.leaf (.set piece.set) with height := piece.height }) rest fuel
      | '*' => repetition 0 none rest
      | '+' => repetition 1 none rest
      | '?' => repetition 0 (some 1) rest
      | '{' =>
        match readBounds state.flags rest with
        | some (least, most, rest) => repetition least most (skip state.flags rest)
        | none => none
      | '.' => leaf (dot? state.flags)
      | '^' => leaf (some (.assertion (lineStart state.flags)))
      | '$' => leaf (some (.assertion (lineEnd state.flags)))
      | '\\' =>
        match readEscape state.flags rest with
        | none => none
        | some (sign, rest) =>
          match sign.expression? state.flags with
          | some expression => readGroup (state.add (.leaf expression)) rest fuel
          | none => none
      | c => leaf (some (literal state.flags c))

end JsonSchema.Regex.Reader

namespace JsonSchema.Regex

/-- The expression that a text denotes. -/
def Expression.read? (text : String) : Option Expression :=
  let chars := text.toList
  match Reader.readGroup ⟨{}, [], [], []⟩ chars (2 * chars.length + 2) with
  | some (state, []) =>
    let piece := state.value
    if piece.height ≤ Reader.heightLimit && Automaton.fits piece.shape then some piece.expression else none
  | _ => none

end JsonSchema.Regex
