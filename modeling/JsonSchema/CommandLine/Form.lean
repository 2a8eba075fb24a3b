import JsonSchema.Entries

/-! # Command forms

A form tells which options and operands a command takes. Arguments are read from left to right: an option
stands behind two dashes with its name or behind one dash with its letter, its value follows as the next
argument or is attached, and everything behind a lone pair of dashes is an operand. Each form knows the
help option and its help text.

An option that waits for its value, or whose value stands in an argument of its own, is settled when the
next option or operand comes; so a request for help counts only if what stands before it is in order.
-/

namespace JsonSchema.CommandLine

/-- An option with a value. -/
structure OptionForm where
  letter : Option Char
  name : String
  summary : String
  required : Bool
  /-- Whether a text is a value of the option. -/
  accepts : String → Bool

/-- The operands of a command; each names a file. -/
structure OperandForm where
  name : String
  summary : String
  repeated : Bool

/-- What a command takes. -/
structure CommandForm where
  /-- The words that call the command. -/
  call : String
  summary : String
  options : List OptionForm
  operand : Option OperandForm
  /-- Commands inside this one, with their summaries. -/
  commands : List (String × String)

/-- Why there is nothing to run. -/
inductive Refusal where
  /-- Help was asked for. -/
  | help (text : String)
  /-- The arguments do not follow the form. -/
  | misuse
  deriving DecidableEq

/-! ## Help -/

/-- The words of a form in angle brackets. -/
def placeholder (name : String) : String := "<" ++ name ++ ">"

namespace OptionForm

/-- The long spelling with its value. -/
def usage (option : OptionForm) : String := "--" ++ option.name ++ " " ++ placeholder option.name.toUpper

/-- All spellings with the value. -/
def spellings (option : OptionForm) : String :=
  match option.letter with
  | some letter => "-" ++ String.singleton letter ++ ", " ++ option.usage
  | none => "    " ++ option.usage

end OptionForm

/-- The spelling of operands. -/
def OperandForm.usage (operand : OperandForm) : String :=
  placeholder operand.name ++ if operand.repeated then "..." else ""

/-- A titled table with aligned columns; no rows give no table. -/
def helpTable (title : String) (rows : List (String × String)) : List String :=
  let width := rows.foldl (fun width (left, _) => max width left.length) 0
  let line : String × String → String := fun (left, right) =>
    "  " ++ left ++ String.ofList (List.replicate (width - left.length + 2) ' ') ++ right ++ "\n"
  if rows.isEmpty then [] else [title ++ ":\n" ++ String.join (rows.map line)]

namespace CommandForm

/-- The line that shows how the command is called. -/
def usage (form : CommandForm) : String :=
  " ".intercalate (["Usage:", form.call] ++
    (if form.options.any (!·.required) then ["[OPTIONS]"] else []) ++
    ((form.options.filter (·.required)).map (·.usage)) ++
    (form.operand.map (·.usage)).toList ++
    (if form.commands.isEmpty then [] else [placeholder "COMMAND"]))

/-- The help text of the command. -/
def help (form : CommandForm) : String :=
  form.summary ++ "\n\n" ++ form.usage ++ "\n\n" ++
    "\n".intercalate (helpTable "Commands" form.commands ++
      helpTable "Arguments" ((form.operand.map fun operand => (operand.usage, operand.summary)).toList) ++
      helpTable "Options" (form.options.map (fun option => (option.spellings, option.summary)) ++
        [("-h, --help", "Print help")]))

end CommandForm

/-! ## Reading arguments -/

/-- What has been read of the arguments of a command. -/
structure Reading where
  /-- Values by the names of their options. -/
  values : List (String × String) := []
  operands : List String := []
  /-- An option that is not settled, with its value if that has come. -/
  waiting : Option (OptionForm × Option String) := none
  /-- Whether only operands may follow. -/
  operandsOnly : Bool := false

namespace Reading

/-- Whether the next argument may be the value of an option. -/
def expectsValue (reading : Reading) : Bool := reading.waiting matches some (_, none)

/-- Gives an option its value; once is enough. -/
def give (reading : Reading) (option : OptionForm) (value : String) : Except Refusal Reading :=
  if (assoc? option.name reading.values).isSome || !option.accepts value then .error .misuse
  else .ok { reading with values := reading.values ++ [(option.name, value)], waiting := none }

/-- Settles the option that is not settled. -/
def settle (reading : Reading) : Except Refusal Reading :=
  match reading.waiting with
  | none => .ok reading
  | some (_, none) => .error .misuse
  | some (option, some value) => reading.give option value

/-- Starts an option, with its value if that is attached. -/
def start (reading : Reading) (option : OptionForm) (attached : Option String) : Except Refusal Reading := do
  let reading ← reading.settle
  match attached with
  | some value => reading.give option value
  | none => return { reading with waiting := some (option, none) }

end Reading

namespace CommandForm

/-- Answers a request for help. -/
def askHelp (form : CommandForm) (reading : Reading) : Except Refusal Reading := do
  let _ ← reading.settle
  throw (.help form.help)

/-- Reads an option by its name, behind its two dashes. -/
def readNamed (form : CommandForm) (text : List Char) (reading : Reading) : Except Refusal Reading :=
  let name := String.ofList (text.takeWhile (· != '='))
  let attached := match text.dropWhile (· != '=') with
    | _ :: value => some (String.ofList value)
    | [] => none
  if name = "help" ∧ attached = none then form.askHelp reading
  else
    match form.options.find? (·.name = name) with
    | some option => reading.start option attached
    | none => .error .misuse

/-- Reads an option by its letter; an equals sign may stand before an attached value. -/
def readLetter (form : CommandForm) (letter : Char) (attached : List Char) (reading : Reading) :
    Except Refusal Reading :=
  if letter = 'h' then form.askHelp reading
  else
    match form.options.find? (·.letter = some letter) with
    | some option =>
      reading.start option (match attached with
        | [] => none
        | '=' :: value => some (String.ofList value)
        | value => some (String.ofList value))
    | none => .error .misuse

/-- Reads an operand; no operand is empty. -/
def readOperand (form : CommandForm) (text : String) (reading : Reading) : Except Refusal Reading := do
  let reading ← reading.settle
  match form.operand with
  | some operand =>
    if text.isEmpty || (!operand.repeated && !reading.operands.isEmpty) then throw .misuse
    else return { reading with operands := reading.operands ++ [text] }
  | none => throw .misuse

/-- Reads one argument. -/
def readArgument (form : CommandForm) (argument : String) (reading : Reading) : Except Refusal Reading :=
  if reading.operandsOnly then form.readOperand argument reading
  else
    match argument.toList, reading.waiting with
    | ['-', '-'], _ => .ok { reading with operandsOnly := true }
    | '-' :: '-' :: text, _ => form.readNamed text reading
    | '-' :: letter :: attached, _ => form.readLetter letter attached reading
    | _, some (option, none) => .ok { reading with waiting := some (option, some argument) }
    | _, _ => form.readOperand argument reading

/-- Reads arguments up to the name of a command inside this one, and gives it with what follows. -/
def readArguments (form : CommandForm) :
    List String → Reading → Except Refusal (Reading × Option (String × List String))
  | [], reading => .ok (reading, none)
  | argument :: rest, reading =>
    if !reading.operandsOnly && !reading.expectsValue && (assoc? argument form.commands).isSome then
      .ok (reading, some (argument, rest))
    else do form.readArguments rest (← form.readArgument argument reading)

/-- Reads all arguments of a command that has no others inside. -/
def read (form : CommandForm) (arguments : List String) : Except Refusal Reading := do
  let (reading, _) ← form.readArguments arguments {}
  let reading ← reading.settle
  let complete := (form.options.all fun option => !option.required || (assoc? option.name reading.values).isSome) &&
    (form.operand.isNone || !reading.operands.isEmpty)
  if complete then return reading else throw .misuse

end CommandForm

end JsonSchema.CommandLine
