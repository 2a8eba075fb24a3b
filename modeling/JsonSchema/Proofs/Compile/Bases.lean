import JsonSchema.Proofs.Compile.Layout
import Mathlib.Data.List.Pairwise

/-! # Bases of references

A reference is resolved when it is compiled, against the base of the site. In the finished document this base is the id
of the resource that the node belongs to, and it is what the schemas around the node make of the retrieval base: each
that declares an id resolves it against the base around and hands it on to the schemas below, and to no other
(`Document.HasBase`, `Schema.references_joined_of_compilesUnder`). The proof is by induction over the schemas that stand
in the document, each of which is opened at the site of the one around it.
-/

namespace JsonSchema

open Compile

/-- The base inside a schema, given the base around it: its own id if it declares one. -/
inductive Json.Rebases (value : Json) (around : Url) : Url → Prop
  | plain (plain : value.declaresId = false) : Rebases value around around
  | declared {id : Url} (declares : value.Declares around id) : Rebases value around id

namespace Json

variable {value : Json} {around base other : Url}

theorem Declares.unique (declares : value.Declares around base) (also : value.Declares around other) :
    base = other := by
  obtain ⟨text, url, found, joined, rfl⟩ := declares
  obtain ⟨_, _, foundOther, joinedOther, rfl⟩ := also
  obtain rfl := Json.string.inj (Option.some.inj (found.symm.trans foundOther))
  rw [Except.ok.inj (joined.symm.trans joinedOther)]

theorem Rebases.unique (rebases : value.Rebases around base) (also : value.Rebases around other) : base = other := by
  cases rebases with
  | plain plain =>
    cases also with
    | plain => rfl
    | declared declares => exact absurd declares.declaresId (by simp [plain])
  | declared declares =>
    cases also with
    | plain plain => exact absurd declares.declaresId (by simp [plain])
    | declared also => exact declares.unique also

end Json

namespace Document

/-- The base of a node: the schemas from the root of the document down to it rebase that which the document was
retrieved from. -/
inductive HasBase (document : Document) (retrieved : Url) : Nat → Url → Prop
  | root {base : Url} (rebases : (document.node 0).value.Rebases retrieved base) : HasBase document retrieved 0 base
  | inside {parent index : Nat} {around base : Url} (outer : HasBase document retrieved parent around)
      (child : index ∈ (document.node parent).children) (rebases : (document.node index).value.Rebases around base) :
      HasBase document retrieved index base

/-- Whether the references of a node are what its texts give with a base. -/
def Joins (document : Document) (index : Nat) (base : Url) : Prop :=
  ∀ rule ∈ (document.node index).rules, ∀ reference ∈ rule.reference?, ∃ text,
    (document.node index).value.member? rule.keyword = some (.string text) ∧ base.join text = .ok reference

variable {document : Document} {site opened : Site} {value : Json} {slots : List (List String × Json)}
  {start stop : Extent} {resources more : Nat} {numbers : List Nat} {entries : List ((Nat × Pointer) × Nat)}
  {retrieved : Url}

/-- The site of a schema that is opened has the base inside of the schema. -/
theorem Opens.rebases (opens : document.Opens site value resources opened more) :
    value.Rebases site.base opened.base := by
  cases opens with
  | plain plain => exact .plain plain
  | root declares => exact .declared declares
  | resource declares => exact .declared declares

/-! ## Parents -/

/-- Nodes that were made one after the other are the first ones of them and the children of all. -/
theorem Lays.perm_children (lays : document.Lays site slots start numbers entries stop) :
    (List.range' start.nodes (stop.nodes - start.nodes)).Perm (numbers ++
      (List.range' start.nodes (stop.nodes - start.nodes)).flatMap fun index => (document.node index).children) := by
  induction lays with
  | nil =>
    rw [Nat.sub_self]
    exact .refl _
  | @cons site opened tokens value slots start middle stop resources below numbers entries others opens has inner rest
      ihInner ihRest =>
    have split := range'_split inner.le.1 rest.le.1
    dsimp only at split ihInner
    rw [split, List.flatMap_append, List.flatMap_cons, has.children_eq inner.length_eq, List.cons_append,
      List.cons_append]
    exact ((ihInner.append ihRest).trans (List.perm_append_comm_assoc _ _ _)).cons _

/-- Whether the root is nobody's child, and no other node is that of two. -/
structure HasParents (document : Document) : Prop where
  root : ∀ parent, 0 ∉ (document.node parent).children
  unique : ∀ index parent other, index ∈ (document.node parent).children → index ∈ (document.node other).children →
    parent = other

theorem lt_size_of_mem_children {index parent : Nat} (child : index ∈ (document.node parent).children) :
    parent < document.nodes.size := by
  by_contra beyond
  rw [node, Array.getD, dif_neg beyond] at child
  exact absurd child List.not_mem_nil

theorem hasParents_of_lays {base : Url} {value : Json}
    (lays : document.Lays (.root Draft.dialect base) [([], value)] ⟨0, 1⟩ [0] entries stop)
    (size : document.nodes.size = stop.nodes) : document.HasParents := by
  have perm := lays.perm_children
  have nodup := perm.nodup_iff.mp (List.nodup_range' 1)
  rw [List.singleton_append, List.nodup_cons, List.nodup_flatMap] at nodup
  obtain ⟨absent, -, apart⟩ := nodup
  have inside {index parent : Nat} (child : index ∈ (document.node parent).children) :
      parent ∈ List.range' 0 (stop.nodes - 0) := by
    have bound := lt_size_of_mem_children child
    exact List.mem_range'_1.mpr ⟨Nat.zero_le _, by omega⟩
  constructor
  · exact fun parent child => absent (List.mem_flatMap.mpr ⟨parent, inside child, child⟩)
  · intro index parent other child also
    by_contra different
    have symmetric : Std.Symm (Function.onFun List.Disjoint fun index => (document.node index).children) :=
      ⟨fun _ _ disjoint => List.Disjoint.symm disjoint⟩
    exact apart.forall (inside child) (inside also) different child also

/-- A node has one base only. -/
theorem HasBase.unique (parents : document.HasParents) {index : Nat} {base other : Url}
    (has : document.HasBase retrieved index base) (also : document.HasBase retrieved index other) : base = other := by
  induction has generalizing other with
  | root rebases =>
    cases also with
    | root also => exact rebases.unique also
    | inside _ child => exact absurd child (parents.root _)
  | @inside parent index around base outer child rebases ih =>
    cases also with
    | root => exact absurd child (parents.root _)
    | inside outerOther childOther also =>
      obtain rfl := parents.unique _ _ _ child childOther
      obtain rfl := ih outerOther
      exact rebases.unique also

/-! ## Bases -/

/-- The resource of a node has the base of the node as its id, and the references of the node are resolved against
it. -/
theorem Lays.exists_base (lays : document.Lays site slots start numbers entries stop)
    (based : ∀ number ∈ numbers, ∀ base, (document.node number).value.Rebases site.base base →
      document.HasBase retrieved number base) :
    ∀ index, start.nodes ≤ index → index < stop.nodes → ∃ resource,
      document.resources[(document.node index).resource]? = some resource ∧
        document.HasBase retrieved index resource.id ∧ document.Joins index resource.id := by
  induction lays with
  | nil => exact fun index least bound => absurd bound (Nat.not_lt.mpr least)
  | @cons site opened tokens value slots start middle stop resources below numbers entries others opens has inner rest
      ihInner ihRest =>
    have own : document.HasBase retrieved start.nodes opened.base :=
      based _ List.mem_cons_self _ (has.value_eq ▸ opens.rebases)
    intro index least bound
    rcases Nat.eq_or_lt_of_le least with rfl | later
    · obtain ⟨resource, found, id⟩ := has.based
      refine ⟨resource, by rw [has.resource_eq]; exact found, id ▸ own, ?_⟩
      rw [Joins, id, has.value_eq]
      exact has.shown.references
    · by_cases early : index < middle.nodes
      · refine ihInner (fun number member base rebases => .inside own ?_ rebases) index later early
        rw [has.children_eq inner.length_eq]
        exact member
      · exact ihRest (fun number member => based number (List.mem_cons_of_mem _ member)) index (Nat.not_lt.mp early)
          bound

end Document

namespace Schema

variable {options : Options}

/-- A value whose nodes all compile under the draft compiles to a document in which every reference is resolved against
the id of the resource of its node. This id is the base of the node: the nearest id declared at the node or above it,
resolved against the base above it, or the URL that the document was retrieved from if none is declared. -/
theorem references_joined_of_compilesUnder {url : Url} {value : Json} {dialects : DialectCache}
    (names : value.NamesOnce)
    (compiles : CompilesUnder Draft.dialect options options.dialect url.withoutFragment true value dialects) :
    ∃ document, (compileWith options url value dialects).1 = .ok ⟨document, 0⟩ ∧
      ∀ index < document.nodes.size, ∃ resource,
        document.resources[(document.node index).resource]? = some resource ∧
          (∀ base, document.HasBase url.withoutFragment index base ↔ base = resource.id) ∧
          document.Joins index resource.id := by
  obtain ⟨document, assembly, compiled, finishes, made⟩ := exists_document_of_compilesUnder names compiles
  obtain ⟨entries, lays, -⟩ := made.lays_document finishes
  have size := Assembly.size_of_document? finishes
  have parents := Document.hasParents_of_lays lays size
  refine ⟨document, compiled, fun index bound => ?_⟩
  have based : ∀ number ∈ [0], ∀ base, (document.node number).value.Rebases url.withoutFragment base →
      document.HasBase url.withoutFragment number base := by
    intro number member base rebases
    obtain rfl := List.mem_singleton.mp member
    exact .root rebases
  obtain ⟨resource, found, has, joins⟩ := lays.exists_base based index (Nat.zero_le _) (bound.trans_eq size)
  exact ⟨resource, found, fun base => ⟨fun also => also.unique parents has, fun same => same ▸ has⟩, joins⟩

/-- The same text in two schemas refers to two URLs, whatever id was declared beside them. -/
theorem references_joined_of_compilesUnder_nested :
    let url := Draft.url "example"
    let value : Json := .object [
      ("$defs", .object [
        ("a", .object [("$id", .string "aside/a")]),
        ("b", .object [("$ref", .string "c")]),
        ("d", .object [("$id", .string "inner/d"), ("not", .object [("$ref", .string "c")])])]),
      ("$id", .string "outer/o")]
    value.NamesOnce ∧ CompilesUnder Draft.dialect .standard Draft.dialect url true value [] ∧
      ∃ document, (compileWith .standard url value []).1 = .ok ⟨document, 0⟩ ∧
        document.references = [Draft.url "outer/c", Draft.url "outer/inner/c"] ∧
        ∀ index < document.nodes.size, ∃ resource,
          document.resources[(document.node index).resource]? = some resource ∧
            (∀ base, document.HasBase url index base ↔ base = resource.id) ∧ document.Joins index resource.id := by
  intro url value
  have names : value.NamesOnce := by decide
  have compiles : CompilesUnder Draft.dialect .standard Draft.dialect url true value [] :=
    compilesUnder_of_compileDocument Options.knowsOnlyDraft_standard (by decide +kernel)
  have told : ((compileWith .standard url value []).1.toOption.map (·.document.references)) =
      some [Draft.url "outer/c", Draft.url "outer/inner/c"] := by decide +kernel
  obtain ⟨document, compiled, bases⟩ := @references_joined_of_compilesUnder .standard url value [] names compiles
  rw [compiled] at told
  exact ⟨names, compiles, document, compiled, Option.some.inj told, bases⟩

end Schema

end JsonSchema
