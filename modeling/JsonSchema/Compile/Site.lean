import JsonSchema.Compile.Error
import JsonSchema.Options

/-! # Compilation sites

While a document is compiled its nodes and resources are collected in an `Assembly`. A `Site` is the
place of the schema object that is being compiled: its dialect, base URL and resource, and its
locations below all resources around it. Keywords that identify a schema change the site for the
keywords after them; sub-schemas start from the site of the keyword that holds them.
-/

namespace JsonSchema

/-- The part of a document that has been compiled so far. -/
structure Assembly where
  /-- A node is numbered when it is started and filled in when it is finished. -/
  nodes : Array (Option Node)
  resources : Array Resource
  /-- The resources that can be found by id. -/
  ids : List (Url × Nat)
  /-- The ids that may not be declared again. -/
  taken : List Url
  dialects : DialectCache

/-- Steps of compilation, which extend the assembly and may find a fault. -/
abbrev Compile := ExceptT CompileError (StateM Assembly)

/-- The place of a schema object in its document. -/
structure Site where
  dialect : Dialect
  /-- What references are resolved against. -/
  base : Url
  resource : Nat
  /-- The location below each resource around, the innermost first. -/
  paths : List (Nat × Pointer)
  /-- The location in the document. -/
  location : Pointer
  node : Nat
  anchor : Option String
  dynamicAnchor : Option String
  vocabularies : Option (List (Url × Bool))

namespace Site

/-- The site of a document's root. -/
def root (dialect : Dialect) (base : Url) : Site :=
  { dialect, base, resource := 0, paths := [(0, .root)], location := .root, node := 0, anchor := none
    dynamicAnchor := none, vocabularies := none }

/-- The site further down a path. -/
def descend (site : Site) (tokens : List String) : Site :=
  { site with
    paths := site.paths.map fun (resource, path) => (resource, path.append tokens)
    location := site.location.append tokens }

/-- The site of a new node. -/
def start (site : Site) (node : Nat) : Site :=
  { site with node, anchor := none, dynamicAnchor := none, vocabularies := none }

/-- The innermost resource and the location below its root. -/
def innermost (site : Site) : Nat × Pointer := site.paths.head?.getD (site.resource, .root)

end Site

/-- A keyword at its place. -/
structure KeywordSite where
  site : Site
  keyword : String

namespace KeywordSite

/-- The location of the keyword's value in the document. -/
def location (place : KeywordSite) : Pointer := place.site.location.push place.keyword

/-- The fault of a value of the wrong type. -/
def invalidType {α : Type} (place : KeywordSite) (expected : String) : Except CompileError α :=
  .error (.invalidType place.location expected)

/-- The fault of a value of the right type. -/
def invalidValue {α : Type} (place : KeywordSite) (message : String) : Except CompileError α :=
  .error (.invalidValue place.location message)

end KeywordSite

end JsonSchema
