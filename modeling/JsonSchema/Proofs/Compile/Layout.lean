import JsonSchema.Proofs.Compile.Standing

/-! # The layout of compiled documents

The nodes of a compiled document of the draft are a tree, numbered in pre-order; its resources are a tree as well, and
each node belongs to the resource of the nearest schema around it that declares an id (`Document.IsLaidOut`). Each of
this is proved by induction over the schemas that stand in the document (`Document.Lays`).
-/

namespace JsonSchema

open Compile

/-! ## Trees of nodes -/

namespace Document

mutual

/-- Whether some numbers are those of a node and of all nodes below it, in pre-order. -/
inductive Walks (document : Document) : Nat → List Nat → Prop
  | node {index : Nat} {numbers : List Nat} (below : WalksAll document (document.node index).children numbers) :
      Walks document index (index :: numbers)

/-- Whether some numbers are those of nodes and of all nodes below them, in pre-order. -/
inductive WalksAll (document : Document) : List Nat → List Nat → Prop
  | nil : WalksAll document [] []
  | cons {index : Nat} {indices numbers others : List Nat} (first : Walks document index numbers)
      (rest : WalksAll document indices others) : WalksAll document (index :: indices) (numbers ++ others)

end

theorem WalksAll.of_singleton {document : Document} {index : Nat} {numbers : List Nat}
    (walks : document.WalksAll [index] numbers) : document.Walks index numbers := by
  cases walks with
  | cons first rest =>
    cases rest
    rwa [List.append_nil]

/-- The nearest node at or above a node that declares an id, or else the root. -/
inductive Owner (document : Document) : Nat → Nat → Prop
  | root : Owner document 0 0
  | self {index : Nat} (declares : (document.node index).value.declaresId = true) : Owner document index index
  | above {index parent owner : Nat} (child : index ∈ (document.node parent).children)
      (plain : (document.node index).value.declaresId = false) (owns : Owner document parent owner) :
      Owner document index owner

/-- Whether the nodes and the resources of a document are trees, and its ids are those of its resources. -/
structure IsLaidOut (document : Document) : Prop where
  /-- The nodes are the root and all nodes below it, each of them once and in pre-order. -/
  walks : document.Walks 0 (List.range document.nodes.size)
  /-- A sub-schema is a node behind the one that lists it. -/
  descends : ∀ index < document.nodes.size, ∀ child ∈ (document.node index).children,
    index < child ∧ child < document.nodes.size
  first : (document.node 0).resource = 0
  outermost : ∃ resource, document.resources[0]? = some resource ∧ resource.parent = none
  /-- A resource other than the document stands in one before it. -/
  inner : ∀ index resource, document.resources[index]? = some resource → index ≠ 0 →
    ∃ parent < index, resource.parent = some parent
  /-- The root of a resource belongs to it. -/
  rooted : ∀ index resource, document.resources[index]? = some resource →
    resource.node < document.nodes.size ∧ (document.node resource.node).resource = index
  /-- A node belongs to the resource of the nearest schema that declares an id. -/
  owned : ∀ index < document.nodes.size, ∃ resource, document.resources[(document.node index).resource]? = some resource ∧
    document.Owner index resource.node
  /-- A resource is found by its id, and so no other one has the same id. -/
  found : ∀ index resource, document.resources[index]? = some resource → assoc? resource.id document.ids = some index

/-- The numbers from a node on are the node, those of the nodes below it, and those of the nodes behind these. -/
theorem range'_split {start middle stop : Nat} (below : start + 1 ≤ middle) (behind : middle ≤ stop) :
    List.range' start (stop - start) =
      (start :: List.range' (start + 1) (middle - (start + 1))) ++ List.range' middle (stop - middle) := by
  have length : stop - start = middle - (start + 1) + 1 + (stop - middle) := by omega
  have next : middle = start + (middle - (start + 1) + 1) := by omega
  rw [← List.range'_succ, length, ← List.range'_append_1, ← next]

namespace Lays

variable {document : Document} {site : Site} {slots : List (List String × Json)} {start stop : Extent}
  {numbers : List Nat} {entries : List ((Nat × Pointer) × Nat)}

/-- Schemas that were compiled one after the other are numbered in pre-order. -/
theorem walksAll (lays : document.Lays site slots start numbers entries stop) :
    document.WalksAll numbers (List.range' start.nodes (stop.nodes - start.nodes)) := by
  induction lays with
  | nil =>
    rw [Nat.sub_self]
    exact .nil
  | @cons site opened tokens value slots start middle stop resources below numbers entries others opens has inner rest
      ihInner ihRest =>
    have sizeInner : start.nodes + 1 ≤ middle.nodes := inner.le.1
    have sizeRest := rest.le.1
    rw [← has.children_eq inner.length_eq] at ihInner
    rw [range'_split sizeInner sizeRest]
    exact .cons (.node ihInner) ihRest

/-- A sub-schema is a node behind the one that lists it. -/
theorem descends (lays : document.Lays site slots start numbers entries stop) :
    ∀ index, start.nodes ≤ index → index < stop.nodes → ∀ child ∈ (document.node index).children,
      index < child ∧ child < stop.nodes := by
  induction lays with
  | nil => exact fun index least bound => absurd bound (Nat.not_lt.mpr least)
  | @cons site opened tokens value slots start middle stop resources below numbers entries others opens has inner rest
      ihInner ihRest =>
    intro index least bound child member
    have sizeRest := rest.le.1
    rcases Nat.eq_or_lt_of_le least with rfl | later
    · rw [has.children_eq inner.length_eq] at member
      obtain ⟨behind, before⟩ := inner.inside child member
      exact ⟨behind, before.trans_le sizeRest⟩
    · by_cases early : index < middle.nodes
      · obtain ⟨behind, before⟩ := ihInner index later early child member
        exact ⟨behind, before.trans_le sizeRest⟩
      · exact ihRest index (Nat.not_lt.mp early) bound child member

/-- A node belongs to the resource of the nearest schema that declares an id, which is that of the site if there is none
between. -/
theorem owned (lays : document.Lays site slots start numbers entries stop) {around : Resource}
    (found : document.resources[site.resource]? = some around)
    (owner : ∀ number ∈ numbers, number = 0 ∨ (document.node number).value.declaresId = false →
      document.Owner number around.node) :
    ∀ index, start.nodes ≤ index → index < stop.nodes → ∃ resource,
      document.resources[(document.node index).resource]? = some resource ∧ document.Owner index resource.node := by
  induction lays generalizing around with
  | nil => exact fun index least bound => absurd bound (Nat.not_lt.mpr least)
  | @cons site opened tokens value slots start middle stop resources below numbers entries others opens has inner rest
      ihInner ihRest =>
    -- A node that declares an id is its own owner, and any other has the owner of the nodes beside it.
    obtain ⟨own, foundOwn, owns⟩ : ∃ own, document.resources[opened.resource]? = some own ∧
        document.Owner start.nodes own.node := by
      cases opens with
      | plain plain => exact ⟨around, found, owner _ List.mem_cons_self (.inr (by rw [has.value_eq]; exact plain))⟩
      | root _ root => exact ⟨around, found, owner _ List.mem_cons_self (.inl root)⟩
      | resource declares _ foundNew node =>
        exact ⟨_, foundNew, by rw [node]; exact .self (by rw [has.value_eq]; exact declares.declaresId)⟩
    have ownerInner (number : Nat) (member : number ∈ below)
        (plain : number = 0 ∨ (document.node number).value.declaresId = false) : document.Owner number own.node := by
      have later : start.nodes + 1 ≤ number := (inner.inside number member).1
      refine .above ?_ (plain.resolve_left (by omega)) owns
      rw [has.children_eq inner.length_eq]
      exact member
    intro index least bound
    rcases Nat.eq_or_lt_of_le least with rfl | later
    · exact ⟨own, by rw [has.resource_eq]; exact foundOwn, owns⟩
    · by_cases early : index < middle.nodes
      · exact ihInner foundOwn ownerInner index later early
      · exact ihRest found (fun number member => owner number (List.mem_cons_of_mem _ member)) index
          (Nat.not_lt.mp early) bound

/-- The root of a resource is one of the nodes that were made with it, and belongs to it. -/
theorem rooted (lays : document.Lays site slots start numbers entries stop) :
    ∀ index, start.resources ≤ index → index < stop.resources → ∃ resource,
      document.resources[index]? = some resource ∧ resource.node < stop.nodes ∧
        (document.node resource.node).resource = index := by
  induction lays with
  | nil => exact fun index least bound => absurd bound (Nat.not_lt.mpr least)
  | @cons site opened tokens value slots start middle stop resources below numbers entries others opens has inner rest
      ihInner ihRest =>
    intro index least bound
    have sizeInner : start.nodes + 1 ≤ middle.nodes := inner.le.1
    have sizeRest := rest.le.1
    by_cases own : index < resources
    · cases opens with
      | plain => exact absurd own (Nat.not_lt.mpr least)
      | root => exact absurd own (Nat.not_lt.mpr least)
      | @resource id resource _ _ found node =>
        obtain rfl : index = start.resources := Nat.le_antisymm (Nat.le_of_lt_succ own) least
        have same : resource.node = start.nodes := node
        refine ⟨resource, found, by omega, ?_⟩
        rw [same]
        exact has.resource_eq
    · by_cases early : index < middle.resources
      · obtain ⟨resource, found, inside, belongs⟩ := ihInner index (Nat.not_lt.mp own) early
        exact ⟨resource, found, by omega, belongs⟩
      · exact ihRest index (Nat.not_lt.mp early) bound

end Lays

end Document

namespace Schema

variable {options : Options}

/-- A value whose nodes all compile under the draft compiles to a document that is laid out as trees of nodes and of
resources. -/
theorem isLaidOut_of_compilesUnder {url : Url} {value : Json} {dialects : DialectCache} (names : value.NamesOnce)
    (compiles : CompilesUnder Draft.dialect options options.dialect url.withoutFragment true value dialects) :
    ∃ document, (compileWith options url value dialects).1 = .ok ⟨document, 0⟩ ∧ document.IsLaidOut := by
  obtain ⟨document, assembly, compiled, finishes, made⟩ := exists_document_of_compilesUnder names compiles
  obtain ⟨entries, lays, -, outer, foundOuter, isRoot⟩ := made.lays_document finishes
  obtain ⟨resources, ids⟩ := Assembly.resources_of_document? finishes
  have size := Assembly.size_of_document? finishes
  have registers := made.registers (registers_start _ _ _ _) Nat.zero_lt_one
  have pos := (lays.inside 0 (List.mem_singleton_self _)).2
  have root : (document.node 0).resource = 0 := by
    cases lays with
    | cons opens has =>
      cases opens with
      | resource _ inner => exact absurd rfl inner
      | _ => exact has.resource_eq
  have rooted := lays.rooted
  have owned := lays.owned foundOuter fun number member _ => by
    rw [List.mem_singleton.mp member, isRoot]
    exact .root
  refine ⟨document, compiled, ?_, ?_, root, ?_, ?_, ?_, ?_, ?_⟩
  · rw [List.range_eq_range', size]
    exact lays.walksAll.of_singleton
  · rw [size]
    exact fun index bound => lays.descends index (Nat.zero_le _) bound
  · rw [resources]
    exact registers.outermost
  · rw [resources]
    exact registers.inner
  · intro index resource found
    rw [size]
    by_cases first : index = 0
    · rw [first, foundOuter] at found
      rw [← Option.some.inj found, isRoot, first]
      exact ⟨pos, root⟩
    · have bound : index < assembly.resources.size := by
        rw [← resources]
        exact (Array.getElem?_eq_some_iff.mp found).1
      obtain ⟨same, foundSame, inside, belongs⟩ := rooted index (Nat.one_le_iff_ne_zero.mpr first) bound
      rw [Option.some.inj (found.symm.trans foundSame)]
      exact ⟨inside, belongs⟩
  · rw [size]
    exact fun index bound => owned index (Nat.zero_le _) bound
  · rw [resources, ids]
    exact fun index resource found => registers.found index resource found fun _ => rfl

/-- A document that declares its id and holds a schema with an id of its own. -/
theorem isLaidOut_of_compilesUnder_embedded :
    let url := Draft.url "example"
    let value : Json := .object [("$defs", .object [("k", .object [("$id", .string "a"), ("not", .bool true)])]),
      ("$id", .string "b"), ("items", .bool false)]
    value.NamesOnce ∧ CompilesUnder Draft.dialect .standard Draft.dialect url true value [] ∧
      ∃ document, (compileWith .standard url value []).1 = .ok ⟨document, 0⟩ ∧ document.IsLaidOut := by
  intro url value
  have names : value.NamesOnce := by decide
  have compiles : CompilesUnder Draft.dialect .standard Draft.dialect url true value [] :=
    compilesUnder_of_compileDocument Options.knowsOnlyDraft_standard (by decide +kernel)
  exact ⟨names, compiles, isLaidOut_of_compilesUnder names compiles⟩

end Schema

end JsonSchema
