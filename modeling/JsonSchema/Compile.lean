import JsonSchema.Compile.Keyword
import JsonSchema.Keyword.Order

/-! # Compilation

A schema document is compiled depth first. Each schema object selects its dialect, orders its
keywords and compiles them one after the other; nodes are numbered in the order in which they are
started. A node is entered under its location into every resource around it, and under its anchors
into the innermost one.
-/

namespace JsonSchema

namespace Site

/-- The dialect of an id in the library of dialects, if there is one. -/
def libraryDialect? (options : Options) (id : Url) : Compile (Option Dialect) := do
  match options.dialects with
  | none => return none
  | some library =>
    let assembly ← get
    let (found, dialects) := library.find? id assembly.dialects
    set { assembly with dialects }
    return found

/-- The id of a dialect. -/
def dialectId (place : KeywordSite) (text : String) : Except CompileError Url :=
  match Url.parse text with
  | .ok url => .ok url.withoutFragment
  | .error cause => place.invalidValue ("'$schema' must be an absolute URI: " ++ cause.message)

/-- The dialect that a schema names. -/
def namedDialect (site : Site) (options : Options) (value : Json) : Compile Dialect := do
  let place : KeywordSite := ⟨site, StandardKeyword.schema.name⟩
  let text ← place.string value
  let id ← dialectId place text
  if site.dialect.id = id then return site.dialect
  if options.dialect.id = id then return options.dialect
  if let some dialect := ← libraryDialect? options id then return dialect
  if let some dialect := Draft.dialect? id then return dialect
  match options.schemas.bind (· id) with
  | some schema =>
    match Dialect.ofSchema schema options.vocabulary? options.dialect with
    | .ok dialect => return dialect
    | .error unknown => throw (.unknownVocabulary place.location unknown)
  | none => throw (.unknownDialect place.location text)

/-- The site with the dialect that a schema object names, if it names one. -/
def selectDialect (site : Site) (options : Options) (members : List (String × Json)) : Compile Site := do
  match assoc? StandardKeyword.schema.name members with
  | none => return site
  | some value =>
    let dialect ← site.namedDialect options value
    if site.node = 0 then
      modify fun assembly =>
        { assembly with resources := assembly.resources.modify 0 fun resource => { resource with dialect } }
    return { site with dialect }

/-- The members that are keywords of a dialect. -/
def knownMembers (dialect : Dialect) (members : List (String × Json)) : List (KeywordEntry Json) :=
  members.filterMap fun (name, value) => (dialect.keyword? name).map fun (position, spec) => ⟨position, spec, value⟩

/-- The members that are no keywords of a dialect. -/
def unknownMembers (dialect : Dialect) (members : List (String × Json)) : List (String × Json) :=
  members.filter fun (name, _) => (dialect.keyword? name).isNone

/-- Rules for unknown members, ahead of the rules about what is unevaluated. -/
def withUnknown (unknown : List (String × Json)) (rules : List Rule) : List Rule :=
  let (ahead, behind) := rules.span (·.category != .unevaluated)
  ahead ++ unknown.map (fun (name, value) => .unknown name value) ++ behind

/-- Compiles keywords one after the other. -/
def compileKeywords (registered : Bool) (sub : Site → Json → Compile Nat) :
    Site → List (KeywordEntry Json) → Compile (Site × List Rule)
  | site, [] => return (site, [])
  | site, entry :: rest => do
    let (site, rule) ← (KeywordSite.mk site entry.spec.keyword).compile registered sub entry.spec.meaning entry.item
    let (site, rules) ← compileKeywords registered sub site rest
    return (site, rule.toList ++ rules)

/-- Compiles the members of a schema object. -/
def compileMembers (site : Site) (options : Options) (registered : Bool) (sub : Site → Json → Compile Nat)
    (members : List (String × Json)) : Compile (Site × List Rule) := do
  let site ← site.selectDialect options members
  let (final, rules) ← compileKeywords registered sub site (KeywordEntry.inOrder (knownMembers site.dialect members))
  match options.unknownKeywords, unknownMembers site.dialect members with
  | .error, (name, _) :: _ => throw (.unknownKeyword site.location name)
  | .annotate, unknown => return (final, withUnknown unknown rules)
  | _, _ => return (final, rules)

/-- Compiles a value into the shape of a node. -/
def compileShape (site : Site) (options : Options) (registered : Bool) (sub : Site → Json → Compile Nat)
    (value : Json) : Compile (Site × Shape) := do
  match value with
  | .bool accepts => return (site, .boolean accepts)
  | .object members =>
    let (site, rules) ← site.compileMembers options registered sub members
    return (site, .object rules)
  | _ => throw (.invalidType site.location "object or boolean")

/-- Enters a node under its location into a resource. -/
def enterLocation (node : Nat) (resources : Array Resource) (path : Nat × Pointer) : Array Resource :=
  resources.modify path.1 fun resource => { resource with locations := addEntry path.2 node resource.locations }

/-- Enters a node into the innermost resource, under its anchors and perhaps as the root. -/
def enterNode (site : Site) (resource : Resource) : Resource :=
  { resource with
    node := if site.innermost.2.isRoot then site.node else resource.node
    anchors := match site.anchor with
      | some name => putEntry name site.node resource.anchors
      | none => resource.anchors
    dynamicAnchors := match site.dynamicAnchor with
      | some name => putEntry name site.node resource.dynamicAnchors
      | none => resource.dynamicAnchors }

/-- Finishes the node of a site. -/
def finish (site : Site) (value : Json) (shape : Shape) : Compile Unit :=
  let (resource, location) := site.innermost
  modify fun assembly =>
    { assembly with
      resources := (site.paths.foldl (enterLocation site.node) assembly.resources).modify resource site.enterNode
      nodes := assembly.nodes.setIfInBounds site.node (some
        { resource, location, value, anchor := site.anchor, dynamicAnchor := site.dynamicAnchor
          vocabularies := site.vocabularies, shape }) }

/-- Compiles a node, given how the nodes below it are compiled. -/
def compileNode (site : Site) (options : Options) (registered : Bool) (sub : Site → Json → Compile Nat)
    (value : Json) : Compile Nat := do
  let node := (← get).nodes.size
  modify fun assembly => { assembly with nodes := assembly.nodes.push none }
  let (final, shape) ← (site.start node).compileShape options registered sub value
  final.finish value shape
  return node

/-- Compiles a node and the nodes below it down to a bound on the depth of the value. -/
def compileWithin (options : Options) (registered : Bool) : Nat → Site → Json → Compile Nat
  | 0, site, _ => throw (.invalidType site.location "object or boolean")
  | depth + 1, site, value => site.compileNode options registered (compileWithin options registered depth) value

end Site

namespace Assembly

/-- The assembly before a document is compiled; unless registered it cannot be found by its base. -/
def start (dialect : Dialect) (base : Url) (registered : Bool) (dialects : DialectCache) : Assembly :=
  { nodes := #[]
    resources := #[{ id := base, node := 0, parent := none, dialect, anchors := [], dynamicAnchors := []
                     locations := [] }]
    ids := if registered then [(base, 0)] else []
    taken := if registered then [base] else []
    dialects }

/-- The finished document. -/
def document? (assembly : Assembly) : Option Document :=
  (assembly.nodes.toList.mapM id).map fun nodes => ⟨nodes.toArray, assembly.resources, assembly.ids⟩

end Assembly

namespace Schema

/-- Compiles a value as the document with the given base and dialect. -/
def compileDocument (options : Options) (dialect : Dialect) (base : Url) (registered : Bool) (value : Json)
    (dialects : DialectCache) : Except CompileError Schema × DialectCache :=
  let compiled := Site.compileWithin options registered (value.depth + 1) (.root dialect base) value
  let (result, assembly) := compiled.run (.start dialect base registered dialects)
  let schema := do
    let _ ← result
    match assembly.document? with
    | some document => .ok ⟨document, 0⟩
    | none => .error (.invalidValue .root "incomplete schema document")
  (schema, assembly.dialects)

/-- Compiles a value as the document retrieved from a URL, and keeps the dialects found on the way. -/
def compileWith (options : Options) (url : Url) (value : Json) (dialects : DialectCache) :
    Except CompileError Schema × DialectCache :=
  compileDocument options options.dialect url.withoutFragment true value dialects

/-- Compiles a value inside a resource as a document of its own, which cannot be found by id. -/
def compileFragment (options : Options) (schema : Resource) (value : Json) (dialects : DialectCache) :
    Except CompileError Schema × DialectCache :=
  compileDocument options schema.dialect schema.id false value dialects

/-- Compiles a value as the document retrieved from a URL. -/
def compile (options : Options) (url : Url) (value : Json) : Except CompileError Schema :=
  (compileWith options url value []).1

end Schema

end JsonSchema
