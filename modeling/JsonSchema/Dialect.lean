import JsonSchema.Schema

/-! # Dialects

The keyword table of a dialect results from its vocabularies in order, followed by keywords outside
any vocabulary: a later registration of a name takes the place of the earlier one. A schema document
that describes a dialect selects vocabularies by their ids; an unknown vocabulary is an error when it
is required and is skipped otherwise.

A `DialectLibrary` derives dialects from documents and remembers what it derived: a dialect once
found under an id stays, whatever becomes of the document.
-/

namespace JsonSchema

/-- Registers a keyword in place of one of the same name, or at the end. -/
def registerKeyword (spec : KeywordSpec) : List KeywordSpec → List KeywordSpec
  | [] => [spec]
  | other :: rest => if other.keyword = spec.keyword then spec :: rest else other :: registerKeyword spec rest

/-- The table that results from registrations in order. -/
def keywordTable (specs : List KeywordSpec) : List KeywordSpec :=
  specs.foldl (fun table spec => registerKeyword spec table) []

namespace Dialect

/-- The dialect of some vocabularies and further keywords. -/
def ofVocabularies (id : Url) (vocabularies : List (Vocabulary × Bool)) (keywords : List KeywordSpec)
    (home : Home) : Dialect :=
  ⟨id, vocabularies, keywordTable (vocabularies.flatMap (·.1.keywords) ++ keywords), home⟩

/-- The types that some vocabulary is about, in order of their first mention. -/
def types (dialect : Dialect) : List InstanceType := (dialect.vocabularies.flatMap (·.1.types)).eraseDups

/-- The position and the registration of a keyword. -/
def keyword? (dialect : Dialect) (name : String) : Option (Nat × KeywordSpec) :=
  (dialect.keywords.zipIdx.find? fun (spec, _) => spec.keyword == name).map fun (spec, position) => (position, spec)

/-- The category of a keyword. -/
def category? (dialect : Dialect) (name : String) : Option Category :=
  (dialect.keyword? name).map (·.2.category)

/-- Whether a keyword identifies schemas. -/
def isIdentifier (dialect : Dialect) (name : String) : Bool := dialect.category? name == some .identifier

/-- Whether a keyword applies sub-schemas. -/
def isApplicator (dialect : Dialect) (name : String) : Bool :=
  (dialect.category? name).any (·.appliesSubschemas)

/-- Whether a keyword is reserved. -/
def isReserved (dialect : Dialect) (name : String) : Bool := dialect.category? name == some .reserved

/-- Whether a vocabulary of the given id takes part. -/
def hasVocabulary (dialect : Dialect) (id : String) : Bool := dialect.vocabularies.any (·.1.id.text == id)

/-- The vocabularies among the declared ones that are found, unless a required one is not. -/
def selectVocabularies (find? : Url → Option Vocabulary) :
    List (Url × Bool) → Except Url (List (Vocabulary × Bool))
  | [] => .ok []
  | (id, required) :: rest =>
    match find? id, required with
    | some vocabulary, _ => do return (vocabulary, required) :: (← selectVocabularies find? rest)
    | none, true => .error id
    | none, false => selectVocabularies find? rest

/-- The dialect that a document describes; one that declares no vocabularies has those of the fallback.
The error is the first required vocabulary that is not found. -/
def ofSchema (schema : Schema) (find? : Url → Option Vocabulary) (fallback : Dialect) : Except Url Dialect := do
  let vocabularies ← match schema.root.vocabularies with
    | some declared => selectVocabularies find? declared
    | none => pure fallback.vocabularies
  return ofVocabularies schema.id vocabularies [] (.document schema)

end Dialect

/-- The dialects that were derived so far, by id. -/
abbrev DialectCache := List (Url × Dialect)

/-- A source of dialects that are described by documents. -/
structure DialectLibrary where
  documents : Locator
  vocabulary? : Url → Option Vocabulary
  /-- The dialect whose vocabularies stand in for undeclared ones. -/
  fallback : Dialect

namespace DialectLibrary

/-- The dialect that the document of an id describes now. -/
def derive? (library : DialectLibrary) (id : Url) : Option Dialect := do
  let schema ← library.documents id
  match Dialect.ofSchema schema library.vocabulary? library.fallback with
  | .ok dialect => some dialect
  | .error _ => none

/-- The dialect of an id: the one found before, or else the one derived now, which is kept. -/
def find? (library : DialectLibrary) (id : Url) (cache : DialectCache) : Option Dialect × DialectCache :=
  match assoc? id cache with
  | some dialect => (some dialect, cache)
  | none =>
    match library.derive? id with
    | some dialect => (some dialect, cache ++ [(id, dialect)])
    | none => (none, cache)

end DialectLibrary

end JsonSchema
