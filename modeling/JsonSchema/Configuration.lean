import JsonSchema.Directory
import JsonSchema.OutputFormat
import JsonSchema.Setting.Reading

/-! # Configurations

A configuration holds the choices for evaluation and the directories whose schemas references may use.
Settings that are left out have their standard values, and settings without a meaning are left alone.
The written form of a configuration is a TOML document with every choice.
-/

namespace JsonSchema

/-- What can be configured. -/
structure Configuration where
  output : OutputFormat := .flag
  unknownKeywords : UnknownKeywords := .annotate
  collectAnnotations : CollectAnnotations := .none
  formatMode : FormatMode := .annotate
  /-- Whether the content of strings is checked. -/
  assertContent : Bool := false
  /-- How many evaluations may be nested. -/
  maxDepth : Nat := Options.standardMaxDepth
  /-- The directories of schemas. -/
  directories : List String := []
  /-- The URI that the directories stand for. -/
  baseUri : Option String := none
  deriving DecidableEq

namespace Configuration

/-- The formats of reports by their names. -/
def outputChoices : List (String × OutputFormat) := OutputFormat.all.map fun format => (format.name, format)

/-- The members of the section under a key, if there is one. -/
def fieldsOf (kind key : String) (names : List String) (settings : Setting) :
    Except SettingError (List (String × Setting)) :=
  match assoc? key settings.members with
  | some found => found.fields kind names
  | none => .ok []

/-- What is read under a key, or the standard value. -/
def readOr {α : Type} (standard : α) (key : String) (read : Setting → Except SettingError α)
    (fields : List (String × Setting)) : Except SettingError α :=
  match assoc? key fields with
  | some found => read found
  | none => .ok standard

/-- The configuration that settings describe. -/
def ofSettings (settings : Setting) : Except SettingError Configuration := do
  let validation ← fieldsOf "ValidationConfig" "validation"
    ["output", "unknown_keywords", "collect_annotations", "format_mode", "assert_content", "max_depth"] settings
  let schemas ← fieldsOf "SchemasConfig" "schemas" ["directories", "base_uri"] settings
  let standard : Configuration := {}
  return {
    output := ← readOr standard.output "output" (Setting.choice "OutputFormat" outputChoices) validation
    unknownKeywords := ← readOr standard.unknownKeywords "unknown_keywords"
      (Setting.choice "UnknownKeywords" UnknownKeywords.choices) validation
    collectAnnotations := ← readOr standard.collectAnnotations "collect_annotations"
      (Setting.choice "CollectAnnotations" CollectAnnotations.choices) validation
    formatMode := ← readOr standard.formatMode "format_mode" (Setting.choice "FormatMode" FormatMode.choices) validation
    assertContent := ← readOr standard.assertContent "assert_content"
      (Setting.boolean "validation.assert_content") validation
    maxDepth := ← readOr standard.maxDepth "max_depth" (Setting.natural "validation.max_depth") validation
    directories := ← readOr standard.directories "directories" (Setting.texts "schemas.directories") schemas
    baseUri := ← readOr standard.baseUri "base_uri" (Setting.textOrNone "schemas.base_uri") schemas }

/-! ## Written form -/

/-- A line that gives a key its value. -/
def assignment (key value : String) : String := key ++ " = " ++ value ++ "\n"

/-- A list of strings; two or more stand on lines of their own. -/
def writtenList (texts : List String) : String :=
  match texts with
  | [] => "[]"
  | [text] => "[" ++ Toml.quote text ++ "]"
  | _ => "[\n" ++ String.join (texts.map fun text => "    " ++ Toml.quote text ++ ",\n") ++ "]"

/-- The TOML document of a configuration, unless a number is too large for it. -/
def toToml? (configuration : Configuration) : Option String :=
  let quotedName {α : Type} [DecidableEq α] (choices : List (String × α)) (choice : α) :=
    Toml.quote (nameOfChoice choices choice)
  if configuration.maxDepth < Word.half then
    some ("[validation]\n" ++
      assignment "output" (quotedName outputChoices configuration.output) ++
      assignment "unknown_keywords" (quotedName UnknownKeywords.choices configuration.unknownKeywords) ++
      assignment "collect_annotations" (quotedName CollectAnnotations.choices configuration.collectAnnotations) ++
      assignment "format_mode" (quotedName FormatMode.choices configuration.formatMode) ++
      assignment "assert_content" (toString configuration.assertContent) ++
      assignment "max_depth" (decimalText configuration.maxDepth) ++
      "\n[schemas]\n" ++
      assignment "directories" (writtenList configuration.directories) ++
      match configuration.baseUri with
      | some uri => assignment "base_uri" (Toml.quote uri)
      | none => "")
  else none

/-! ## Options -/

/-- The options without schemas from directories. -/
def plainOptions (configuration : Configuration) : Options :=
  { Options.standard with
    unknownKeywords := configuration.unknownKeywords
    collectAnnotations := configuration.collectAnnotations
    formatMode := configuration.formatMode
    assertContent := configuration.assertContent
    maxDepth := configuration.maxDepth }

/-- The URL of the base, if there is one. -/
def base (configuration : Configuration) : Except LocateError (Option Url) :=
  match configuration.baseUri with
  | none => .ok none
  | some uri => ((Url.parse uri).map some).mapError (LocateError.invalidBase uri)

variable {m : Type → Type} [Monad m]

/-- Loads directories one after the other. -/
def loadDirectories (workspace : Workspace m) (options : Options) (base : Option Url) :
    List String → DialectCache → m (Except LocateError (List SchemaStore) × DialectCache)
  | [], dialects => return (.ok [], dialects)
  | directory :: rest, dialects => do
    match ← Directory.load workspace options directory base dialects with
    | (.error fault, dialects) => return (.error fault, dialects)
    | (.ok store, dialects) =>
      let (stores, dialects) ← loadDirectories workspace options base rest dialects
      return (stores.map (store :: ·), dialects)

/-- The options with the schemas of all directories; the base matters only where there are any. -/
def options (configuration : Configuration) (workspace : Workspace m) (dialects : DialectCache) :
    m (Except LocateError Options × DialectCache) := do
  let plain := configuration.plainOptions
  if configuration.directories.isEmpty then return (.ok plain, dialects)
  match configuration.base with
  | .error fault => return (.error fault, dialects)
  | .ok base =>
    let (stores, dialects) ← loadDirectories workspace plain base configuration.directories dialects
    return (stores.map fun stores => { plain with schemas := some (firstOf (stores.map (·.locate))) }, dialects)

end Configuration

end JsonSchema
