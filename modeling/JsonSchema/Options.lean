import JsonSchema.Content
import JsonSchema.Draft
import JsonSchema.Format

/-! # Options

What can be chosen for the compilation of schemas and the evaluation of instances.
-/

namespace JsonSchema

/-- What becomes of a keyword that the dialect does not know. -/
inductive UnknownKeywords where
  /-- It is left out. -/
  | ignore
  /-- It attaches its value to every instance. -/
  | annotate
  /-- The schema does not compile. -/
  | error
  deriving DecidableEq

/-- Which attached values are reported. -/
inductive CollectAnnotations where
  | none
  | all
  deriving DecidableEq

/-- When a known format is asserted. -/
inductive FormatMode where
  /-- Only where the vocabulary says so. -/
  | annotate
  /-- Always. -/
  | assert
  deriving DecidableEq

/-- The ways to treat unknown keywords by their names. -/
def UnknownKeywords.choices : List (String × UnknownKeywords) :=
  [("ignore", .ignore), ("annotate", .annotate), ("error", .error)]

/-- The sets of reported values by their names. -/
def CollectAnnotations.choices : List (String × CollectAnnotations) := [("none", .none), ("all", .all)]

/-- The ways to treat formats by their names. -/
def FormatMode.choices : List (String × FormatMode) := [("annotate", .annotate), ("assert", .assert)]

/-- The name of a choice among named ones. -/
def nameOfChoice {α : Type} [DecidableEq α] (choices : List (String × α)) (choice : α) : String :=
  ((choices.find? fun (_, other) => other = choice).map (·.1)).getD ""

/-- The choices for compilation and evaluation. -/
structure Options where
  /-- The dialect of schemas that do not name one. -/
  dialect : Dialect
  unknownKeywords : UnknownKeywords
  /-- Where references into other documents are looked up. -/
  schemas : Option Locator
  /-- Where dialects are looked up by their ids. -/
  dialects : Option DialectLibrary
  /-- Vocabularies beside those of the draft. -/
  vocabularies : List Vocabulary
  formats : Formats
  contentTypes : ContentTypes
  collectAnnotations : CollectAnnotations
  formatMode : FormatMode
  /-- Whether the content of strings is checked. -/
  assertContent : Bool
  /-- How many evaluations may be nested. -/
  maxDepth : Nat

namespace Options

/-- The number of evaluations that may be nested by default. -/
def standardMaxDepth : Nat := 512

/-- Draft 2020-12 without further documents. -/
def standard : Options :=
  { dialect := Draft.dialect
    unknownKeywords := .annotate
    schemas := none
    dialects := none
    vocabularies := []
    formats := .standard
    contentTypes := .standard
    collectAnnotations := .none
    formatMode := .annotate
    assertContent := false
    maxDepth := standardMaxDepth }

/-- The vocabulary of an id among those of the options, and else among those of the draft. -/
def vocabulary? (options : Options) (id : Url) : Option Vocabulary :=
  options.vocabularies.find? (·.id == id) <|> Draft.vocabulary? id

end Options

end JsonSchema
