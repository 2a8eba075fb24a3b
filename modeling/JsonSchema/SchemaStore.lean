import JsonSchema.Compile

/-! # Stores of compiled schemas

A store holds compiled schemas by id. Registering a document stores each of its resources under its
own id, and a document may also be stored under the URL from which it was retrieved. What is
registered later takes the place of what stood under the same id.
-/

namespace JsonSchema

/-- Compiled schemas by id. -/
structure SchemaStore where
  entries : List (Url × Schema)

namespace SchemaStore

/-- The store without schemas. -/
def empty : SchemaStore := ⟨[]⟩

/-- The number of ids. -/
def size (store : SchemaStore) : Nat := store.entries.length

/-- Whether the store holds nothing. -/
def isEmpty (store : SchemaStore) : Bool := store.entries.isEmpty

/-- Stores a schema under an id. -/
def insert (store : SchemaStore) (id : Url) (schema : Schema) : SchemaStore := ⟨putEntry id schema store.entries⟩

/-- The schema with the id of a URL, whatever its fragment. -/
def locate (store : SchemaStore) : Locator := fun url => assoc? url.withoutFragment store.entries

/-- A resource and all resources inside it, at any depth; a resource is numbered before those inside it. -/
def familyOf (schema : Schema) : List Schema :=
  let indices := (List.range schema.document.resources.size).foldl (fun family index =>
    match schema.document.resources[index]?.bind (·.parent) with
    | some parent => if family.contains parent then family ++ [index] else family
    | none => family) [schema.resource]
  indices.map (⟨schema.document, ·⟩)

/-- Registers a schema and all resources inside it under their own ids. -/
def register (store : SchemaStore) (schema : Schema) : SchemaStore :=
  (familyOf schema).foldl (fun store member => store.insert member.id member) store

/-- Registers a schema under a further id as well. -/
def registerAs (store : SchemaStore) (url : Url) (schema : Schema) : SchemaStore :=
  (store.insert url.withoutFragment schema).register schema

/-- Compiles a value as retrieved from a URL and registers it under its ids and the URL. The options may
look schemas up in the store itself. -/
def registerValue (store : SchemaStore) (options : Options) (url : Url) (value : Json) (dialects : DialectCache) :
    Except CompileError (Schema × SchemaStore) × DialectCache :=
  let (compiled, dialects) := Schema.compileWith options url value dialects
  (compiled.map fun schema => (schema, store.registerAs url schema), dialects)

end SchemaStore

/-- Asks one locator after the other. -/
def firstOf (locators : List Locator) : Locator := fun url => locators.findSome? (· url)

end JsonSchema
