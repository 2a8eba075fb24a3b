import JsonSchema.Draft.Library
import JsonSchema.Evaluation.Plan
import JsonSchema.SchemaStore

/-! # References

The target of a reference is a node of the resource that the reference names. The resource is looked
up in the current document, in the document where the evaluation started, among the schemas of the
options and among the documents of the dialects. A pointer to a value that was not compiled as a
schema is compiled at the first use and remembered for the rest of the evaluation.

A dynamic reference that names a dynamic anchor of the resource it leads to is taken to the outermost
resource on the path of evaluation that declares this anchor.
-/

namespace JsonSchema

/-- What an evaluation starts from. -/
structure Run where
  options : Options
  root : Schema

/-- What an evaluation remembers. -/
structure Memory where
  /-- The outcomes of compiling pointer references, by the whole reference. -/
  fragments : List (Url × Option Target)
  dialects : DialectCache

/-- Steps of an evaluation. -/
abbrev Evaluation := StateM Memory

/-- A resource that takes part in the path of evaluation. -/
structure ActiveResource where
  document : Document
  resource : Nat

namespace ActiveResource

/-- The node that declares a dynamic anchor in the resource. -/
def dynamicAnchor? (active : ActiveResource) (name : String) : Option Target :=
  (active.document.resources[active.resource]?.bind fun resource => assoc? name resource.dynamicAnchors).map
    (⟨active.document, ·⟩)

end ActiveResource

/-- The resource that holds a node. -/
def Target.active (target : Target) : ActiveResource :=
  ⟨target.document, (target.document.node target.node).resource⟩

/-- The target that a dynamic reference has beyond the resource it leads to. The active resources are
given from the innermost to the outermost. -/
def dynamicTarget? (active : List ActiveResource) (name : String) : Option Target :=
  active.reverse.findSome? (·.dynamicAnchor? name)

namespace Run

/-- The places where resources of other documents are looked up. -/
def locators (run : Run) : List Locator :=
  run.options.schemas.toList ++ (run.root.info?.map (·.dialect.home.locate)).toList ++
    [run.options.dialect.home.locate]

/-- The resource with an id, as seen from a document. -/
def resource? (run : Run) (document : Document) (id : Url) : Option Schema :=
  document.find? id <|> run.root.document.find? id <|> firstOf run.locators id

/-- Compiles the value that a pointer finds in a resource. -/
def compilePointer (run : Run) (schema : Schema) (fragment : String) : Evaluation (Option Target) := do
  match Pointer.parse fragment, schema.info? with
  | .ok pointer, some info =>
    match pointer.resolve? schema.value with
    | some value =>
      let memory ← get
      let (compiled, dialects) := Schema.compileFragment run.options info value memory.dialects
      set { memory with dialects }
      return compiled.toOption.map fun found => ⟨found.document, found.rootIndex⟩
    | none => return none
  | _, _ => return none

/-- The target of a reference, as seen from a document. -/
def resolve (run : Run) (document : Document) (reference : Url) : Evaluation (Option Target) := do
  let fragment := reference.fragmentText
  match run.resource? document reference.withoutFragment with
  | none => return none
  | some schema =>
    match schema.nodeOfFragment? fragment .standardAndDynamic with
    | some node => return some ⟨schema.document, node⟩
    | none =>
      if "/".isPrefixOf fragment then
        match assoc? reference (← get).fragments with
        | some known => return known
        | none =>
          let compiled ← run.compilePointer schema fragment
          modify fun memory => { memory with fragments := memory.fragments ++ [(reference, compiled)] }
          return compiled
      else return none

/-- The target of a rule, if it is a reference that leads anywhere. -/
def target (run : Run) (document : Document) (active : List ActiveResource) (rule : Rule) :
    Evaluation (Option Target) := do
  match rule with
  | .ref url => run.resolve document url
  | .dynamicRef url anchor =>
    let lexical ← run.resolve document url
    return lexical.map fun found =>
      match anchor with
      | some name =>
        if (found.active.dynamicAnchor? name).isSome then (dynamicTarget? active name).getD found else found
      | none => found
  | _ => return none

end Run

end JsonSchema
