import JsonSchema.Pointer
import JsonSchema.Rule
import JsonSchema.Vocabulary

/-! # Compiled schemas

A compiled document holds its sub-schemas as numbered nodes. The root of the document and every
sub-schema that declares an id are the roots of resources, which form a tree. A `Schema` is one
resource of a document. A dialect is a list of vocabularies with the keyword table that results
from them; it may know the documents that describe it.

A resource indexes the nodes below its root by location, also those of resources embedded in it,
and its own nodes by their anchors.
-/

namespace JsonSchema

/-- The form of a compiled sub-schema. -/
inductive Shape where
  | boolean (accepts : Bool)
  /-- The rules of a schema object in order of application. -/
  | object (rules : List Rule)

/-- A compiled sub-schema. -/
structure Node where
  /-- The innermost resource that holds the node. -/
  resource : Nat
  /-- The location below the root of that resource. -/
  location : Pointer
  /-- The schema as it was written. -/
  value : Json
  anchor : Option String
  dynamicAnchor : Option String
  /-- The vocabularies that the schema declares, each with whether it is required. -/
  vocabularies : Option (List (Url × Bool))
  shape : Shape

/-- The schema that accepts everything. -/
def Node.beyond : Node := ⟨0, .root, .bool true, none, none, none, .boolean true⟩

/-- The rules of a node; a Boolean schema has none. -/
def Node.rules (node : Node) : List Rule :=
  match node.shape with
  | .object rules => rules
  | .boolean _ => []

theorem Node.rules_of_shape {node : Node} {rules : List Rule} (shape : node.shape = .object rules) :
    node.rules = rules := by
  rw [Node.rules, shape]

theorem Node.applied_subset {node : Node} {rules : List Rule} (shape : node.shape = .object rules) :
    rules.filter (·.isApplied) ⊆ node.rules :=
  Node.rules_of_shape shape ▸ List.filter_sublist.subset

/-- The first rule of a node that reports under a keyword. -/
def Node.rule? (node : Node) (keyword : String) : Option Rule := node.rules.find? (·.keyword == keyword)

mutual

/-- A set of keywords with their meanings. -/
structure Dialect where
  id : Url
  /-- The vocabularies, each with whether it is required. -/
  vocabularies : List (Vocabulary × Bool)
  /-- The keywords in order of registration, each name once. -/
  keywords : List KeywordSpec
  home : Home

/-- Where the documents that describe a dialect are found. -/
inductive Home where
  /-- Nowhere. -/
  | none
  /-- Among the documents of Draft 2020-12. -/
  | draft
  /-- In the document that declares the dialect. -/
  | document (schema : Schema)

/-- The root of a document or a sub-schema with an id of its own. -/
structure Resource where
  id : Url
  /-- The root of the resource. -/
  node : Nat
  /-- The resource around it. -/
  parent : Option Nat
  dialect : Dialect
  anchors : List (String × Nat)
  dynamicAnchors : List (String × Nat)
  /-- The nodes below the root by location. -/
  locations : List (Pointer × Nat)

/-- All nodes and resources of a compiled document; the first resource is the whole document. -/
structure Document where
  nodes : Array Node
  resources : Array Resource
  /-- The resources by id. -/
  ids : List (Url × Nat)

/-- A resource of a compiled document. -/
structure Schema where
  document : Document
  resource : Nat

end

/-- Finds compiled schemas by id; a source that fails finds nothing. -/
abbrev Locator := Url → Option Schema

/-- The kinds of fragment that may name a node. -/
inductive FragmentKinds where
  /-- Pointers and anchors. -/
  | standard
  /-- Pointers, anchors and dynamic anchors. -/
  | standardAndDynamic
  /-- Dynamic anchors. -/
  | dynamicOnly
  deriving DecidableEq

/-- Whether pointers and anchors may name a node. -/
def FragmentKinds.allowsStandard : FragmentKinds → Bool
  | .dynamicOnly => false
  | _ => true

/-- Whether dynamic anchors may name a node. -/
def FragmentKinds.allowsDynamic : FragmentKinds → Bool
  | .standard => false
  | _ => true

namespace Resource

/-- The node that a decoded fragment names. -/
def nodeOfFragment? (resource : Resource) (fragment : String) (kinds : FragmentKinds) : Option Nat :=
  if fragment.isEmpty then
    if kinds.allowsStandard then some resource.node else none
  else if "/".isPrefixOf fragment then
    if kinds.allowsStandard then
      match Pointer.parse fragment with
      | .ok pointer => assoc? pointer resource.locations
      | .error _ => none
    else none
  else
    (if kinds.allowsStandard then assoc? fragment resource.anchors else none) <|>
      (if kinds.allowsDynamic then assoc? fragment resource.dynamicAnchors else none)

end Resource

namespace Document

/-- The node of a number; beyond the last one stands a schema that accepts everything. -/
def node (document : Document) (index : Nat) : Node := document.nodes.getD index .beyond

theorem node_mem_or_beyond (document : Document) (index : Nat) :
    document.node index ∈ document.nodes ∨ document.node index = .beyond := by
  unfold node
  by_cases inside : index < document.nodes.size
  · rw [Array.getD, dif_pos inside]
    exact .inl (Array.getElem_mem inside)
  · rw [Array.getD, dif_neg inside]
    exact .inr rfl

/-- The resource with an id. -/
def find? (document : Document) (id : Url) : Option Schema := (assoc? id document.ids).map (⟨document, ·⟩)

end Document

namespace Schema

/-- What is known about the resource itself. -/
def info? (schema : Schema) : Option Resource := schema.document.resources[schema.resource]?

/-- The number of the root node. -/
def rootIndex (schema : Schema) : Nat := (schema.info?.map (·.node)).getD 0

/-- The root node. -/
def root (schema : Schema) : Node := schema.document.node schema.rootIndex

/-- The id of the resource. -/
def id (schema : Schema) : Url := (schema.info?.map (·.id)).getD default

/-- The schema as it was written. -/
def value (schema : Schema) : Json := schema.root.value

/-- The numbers of the resources whose parent is the given one. -/
def nestedIndices (document : Document) (parent : Nat) : List Nat :=
  (List.range document.resources.size).filter fun index =>
    match document.resources[index]? with
    | some resource => resource.parent == some parent
    | none => false

/-- The resources directly inside this one, in order of discovery. -/
def nested (schema : Schema) : List Schema :=
  (nestedIndices schema.document schema.resource).map (⟨schema.document, ·⟩)

/-- The numbers of the nodes below the root, the root first. -/
def nodeIndices (schema : Schema) : List Nat :=
  (((schema.info?.map (·.locations)).getD []).map (·.2)).mergeSort

/-- The resource of the same document with the id of a URL, whatever its fragment. -/
def locate (schema : Schema) : Locator := fun url => schema.document.find? url.withoutFragment

/-- The node that a decoded fragment names. -/
def nodeOfFragment? (schema : Schema) (fragment : String) (kinds : FragmentKinds) : Option Nat :=
  schema.info?.bind (·.nodeOfFragment? fragment kinds)

end Schema

end JsonSchema
