import JsonSchema.Proofs.Report.Projection

/-! # The detailed report as a condensed tree

The detailed report condenses the tree of the verbose one from its leaves to its root. Dropping valid leaves,
dropping failed branches of valid results and collapsing silent results keep exactly the errors that a walk
through the verbose tree finds below invalid results only. What is left of a valid result is valid throughout,
and without attached values nothing valid is left at all (`Schema.detailed_condenses_verbose`).
-/

namespace JsonSchema

/-- The error that a result carries, with its place. -/
def Result.unit? (result : Result) : Option ErrorUnit := result.error.map (⟨result.place, ·⟩)

theorem Result.unit?_of_isSilent {result : Result} (silent : result.isSilent = true) : result.unit? = none := by
  simp_all [isSilent, unit?]

theorem Result.unit?_ofOutcome (collect : CollectAnnotations) (scope : Scope) (outcome : Outcome) :
    (ofOutcome collect scope outcome).unit? = ErrorUnit.ofOutcome? scope outcome := rfl

theorem ErrorUnit.ofOutcome?_of_isValid {scope : Scope} {outcome : Outcome} (valid : outcome.isValid = true) :
    ofOutcome? scope outcome = none := by
  cases outcome with
  | invalid message => exact Bool.noConfusion valid
  | _ => rfl

namespace ResultTree

@[simp] theorem result_node (result : Result) (children : List ResultTree) :
    (node result children).result = result := rfl

@[simp] theorem children_node (result : Result) (children : List ResultTree) :
    (node result children).children = children := rfl

mutual

/-- The tree itself and those below it all of whose ancestors are invalid, in pre-order. -/
def exposed : ResultTree → List ResultTree
  | .node result children => .node result children :: if result.valid then [] else exposedOf children

/-- What is exposed of several trees. -/
def exposedOf : List ResultTree → List ResultTree
  | [] => []
  | tree :: rest => tree.exposed ++ exposedOf rest

end

/-- The errors that some results carry. -/
def units (trees : List ResultTree) : List ErrorUnit := trees.filterMap (·.result.unit?)

theorem units_append (front back : List ResultTree) : units (front ++ back) = units front ++ units back :=
  List.filterMap_append ..

theorem units_cons (tree : ResultTree) (rest : List ResultTree) :
    units (tree :: rest) = tree.result.unit?.toList ++ units rest := by
  simp only [units, List.filterMap_cons]
  cases tree.result.unit? <;> rfl

theorem mem_nodesOf {node : ResultTree} {trees : List ResultTree} :
    node ∈ nodesOf trees ↔ ∃ tree ∈ trees, node ∈ tree.nodes := by
  induction trees with
  | nil => simp [nodesOf]
  | cons tree rest ih => simp [nodesOf, ih]

theorem mem_nodes {node tree : ResultTree} :
    node ∈ tree.nodes ↔ node = tree ∨ ∃ child ∈ tree.children, node ∈ child.nodes := by
  cases tree with
  | node result below => simp [nodes, children, mem_nodesOf]

theorem self_mem_nodes (tree : ResultTree) : tree ∈ tree.nodes := mem_nodes.mpr (.inl rfl)

theorem units_nodes (tree : ResultTree) :
    units tree.nodes = tree.result.unit?.toList ++ units (nodesOf tree.children) := by
  cases tree with
  | node result below => exact units_cons ..

theorem nodesOf_append (front back : List ResultTree) : nodesOf (front ++ back) = nodesOf front ++ nodesOf back := by
  induction front with
  | nil => rfl
  | cons tree rest ih => simp only [List.cons_append, nodesOf, ih, List.append_assoc]

/-- Whether everything below the tree is as valid as its root says. -/
def IsSettled (tree : ResultTree) : Prop :=
  tree.result.valid = true → ∀ below ∈ tree.nodes, below.result.valid = true

end ResultTree

open ResultTree

namespace TreeBuilder

/-- What condensing makes of a tree: it goes if it is a valid leaf that attaches nothing, it gives way to its only
child if it is silent and as valid as this child, and it stays otherwise. -/
theorem kept?_condensed_cases (tree : ResultTree) :
    (kept? true tree = none ∧ tree.children = [] ∧ tree.result.valid = true) ∨
    kept? true tree = some tree ∧ (tree.children = [] → tree.result.attached = none → tree.result.valid = false) ∨
    ∃ child, kept? true tree = some child ∧ tree.children = [child] ∧ tree.result.isSilent = true ∧
      child.result.valid = tree.result.valid := by
  obtain ⟨result, children⟩ := tree
  match children with
  | [] =>
    by_cases bare : result.valid && result.attached.isNone
    · exact .inl ⟨by simp only [kept?, if_pos bare], rfl, (Bool.and_eq_true_iff.mp bare).1⟩
    · refine .inr (.inl ⟨by simp only [kept?, if_neg bare], fun _ none => ?_⟩)
      rw [show result.attached = Option.none from none] at bare
      simpa using bare
  | [child] =>
    by_cases alike : result.isSilent && child.result.valid == result.valid
    · obtain ⟨silent, same⟩ := Bool.and_eq_true_iff.mp alike
      exact .inr (.inr ⟨child, by simp only [kept?, if_pos alike], rfl, silent, by simpa using same⟩)
    · exact .inr (.inl ⟨by simp only [kept?, if_neg alike], nofun⟩)
  | first :: second :: rest => exact .inr (.inl ⟨rfl, nofun⟩)

/-- Condensing a tree keeps the errors in it, if it has none where it is valid. -/
theorem units_kept? {tree : ResultTree} (silent : tree.result.valid = true → tree.result.unit? = none) :
    units (nodesOf (kept? true tree).toList) = units tree.nodes := by
  rw [units_nodes]
  rcases kept?_condensed_cases tree with ⟨gone, leaf, valid⟩ | ⟨stays, -⟩ | ⟨child, collapses, only, quiet, -⟩
  · rw [gone, leaf, silent valid]
    rfl
  · rw [stays, Option.toList_some, nodesOf, nodesOf, List.append_nil, units_nodes]
  · rw [collapses, only, Result.unit?_of_isSilent quiet]
    rfl

/-- Nothing is below a condensed tree that was not below the tree itself. -/
theorem nodes_subset_of_kept? {tree kept : ResultTree} (same : kept? true tree = some kept) :
    kept.nodes ⊆ tree.nodes := by
  rcases kept?_condensed_cases tree with ⟨gone, -⟩ | ⟨stays, -⟩ | ⟨child, collapses, only, -⟩
  · rw [gone] at same
    cases same
  · obtain rfl := Option.some.inj (stays.symm.trans same)
    exact List.Subset.refl _
  · obtain rfl := Option.some.inj (collapses.symm.trans same)
    intro node member
    exact mem_nodes.mpr (.inr ⟨child, only ▸ List.mem_singleton_self child, member⟩)

theorem keptBelow_subset (condensed : Bool) (result : Result) (children : List ResultTree) :
    keptBelow condensed result children ⊆ children := by
  unfold keptBelow
  split
  · exact List.filter_sublist.subset
  · exact List.Subset.refl _

end TreeBuilder

namespace Trace

variable {collect : CollectAnnotations}

theorem mem_treesOf {condensed : Bool} {tree : ResultTree} {traces : List Trace} :
    tree ∈ treesOf condensed collect traces ↔ ∃ trace ∈ traces, trace.tree? condensed collect = some tree := by
  induction traces with
  | nil => simp [treesOf]
  | cons trace rest ih => simp [treesOf, ih]

/-- What is kept of a trace is as valid as the trace. -/
theorem valid_of_tree? {condensed : Bool} {trace : Trace} {tree : ResultTree}
    (kept : trace.tree? condensed collect = some tree) : tree.result.valid = trace.isValid := by
  rw [← trace.valid_tree? condensed collect, kept]
  rfl

/-! ## The errors of both trees -/

theorem units_exposedOf_resultsOf {traces : List Trace}
    (each : ∀ trace ∈ traces, units (trace.results collect).exposed = trace.errors) :
    units (exposedOf (resultsOf collect traces)) = errorsOf traces := by
  induction traces with
  | nil => rfl
  | cons trace rest ih =>
    rw [resultsOf, exposedOf, units_append, each trace List.mem_cons_self,
      ih fun other member => each other (List.mem_cons_of_mem _ member)]
    rfl

/-- The exposed results of the whole tree carry the errors of the trace. -/
theorem units_exposed_results (trace : Trace) : units (trace.results collect).exposed = trace.errors := by
  induction trace using children_induction with
  | leaf subject scope outcome =>
    rw [results, exposed, exposedOf, ite_self, units_cons]
    exact List.append_nil _
  | branch subject scope outcome children ih =>
    rw [results, exposed, units_cons, errors]
    cases verdict : outcome.isValid with
    | true =>
      rw [result_node, Result.unit?_ofOutcome, ErrorUnit.ofOutcome?_of_isValid verdict,
        if_pos (show (Result.ofOutcome collect scope outcome).valid = true from verdict)]
      rfl
    | false =>
      rw [if_neg (by simp [Result.ofOutcome, verdict]), units_exposedOf_resultsOf ih]
      rfl

theorem units_treesOf {traces : List Trace}
    (each : ∀ trace ∈ traces, units (nodesOf (trace.tree? true collect).toList) = trace.errors) :
    units (nodesOf (treesOf true collect traces)) = errorsOf traces := by
  induction traces with
  | nil => rfl
  | cons trace rest ih =>
    rw [treesOf, nodesOf_append, units_append, each trace List.mem_cons_self,
      ih fun other member => each other (List.mem_cons_of_mem _ member)]
    rfl

/-- The condensed tree carries the errors of the trace. -/
theorem units_tree? (trace : Trace) : units (nodesOf (trace.tree? true collect).toList) = trace.errors := by
  have silent (scope : Scope) (outcome : Outcome) (below : List ResultTree)
      (valid : (ResultTree.node (Result.ofOutcome collect scope outcome) below).result.valid = true) :
      (ResultTree.node (Result.ofOutcome collect scope outcome) below).result.unit? = none :=
    ErrorUnit.ofOutcome?_of_isValid valid
  induction trace using children_induction with
  | leaf subject scope outcome =>
    rw [tree?, TreeBuilder.units_kept? (silent scope outcome _), units_nodes]
    exact List.append_nil _
  | branch subject scope outcome children ih =>
    rw [tree?, TreeBuilder.units_kept? (silent scope outcome _), units_nodes, errors]
    cases verdict : outcome.isValid with
    | true =>
      -- Valid traces have no errors, so neither have the branches that are kept below a valid result.
      have kept : ∀ tree ∈ (treesOf true collect children).filter (·.result.valid), units tree.nodes = [] := by
        intro tree member
        obtain ⟨inside, valid⟩ := List.mem_filter.mp member
        obtain ⟨child, childMember, same⟩ := mem_treesOf.mp inside
        have told := ih child childMember
        rw [same, Option.toList_some, nodesOf, nodesOf, List.append_nil,
          errors_eq_nil (valid_of_tree? same ▸ valid)] at told
        exact told
      have below : units (nodesOf ((treesOf true collect children).filter (·.result.valid))) = [] := by
        refine List.filterMap_eq_nil_iff.mpr fun node member => ?_
        obtain ⟨tree, inside, member⟩ := mem_nodesOf.mp member
        exact List.filterMap_eq_nil_iff.mp (kept tree inside) node member
      have dropped : TreeBuilder.keptBelow true (Result.ofOutcome collect scope outcome)
          (treesOf true collect children) = (treesOf true collect children).filter (·.result.valid) :=
        if_pos (by simp [Result.ofOutcome, verdict])
      rw [if_pos rfl, children_node, dropped, below, silent scope outcome _ verdict]
      rfl
    | false =>
      have all : TreeBuilder.keptBelow true (Result.ofOutcome collect scope outcome)
          (treesOf true collect children) = treesOf true collect children :=
        if_neg (by simp [Result.ofOutcome, verdict])
      rw [if_neg (by simp), children_node, all, units_treesOf ih]
      rfl

/-! ## What is valid in the condensed tree -/

/-- A valid result of the condensed tree has only valid results below it. -/
theorem isSettled_tree? (trace : Trace) :
    ∀ tree, trace.tree? true collect = some tree → ∀ node ∈ tree.nodes, node.IsSettled := by
  induction trace using children_induction with
  | leaf subject scope outcome =>
    intro tree kept node member valid below inside
    rw [tree?] at kept
    have leaf := TreeBuilder.nodes_subset_of_kept? kept member
    obtain rfl : node = _ := by simpa [nodes, nodesOf] using leaf
    obtain rfl : below = _ := by simpa [nodes, nodesOf] using inside
    exact valid
  | branch subject scope outcome children ih =>
    intro tree kept node member
    rw [tree?] at kept
    have inside := TreeBuilder.nodes_subset_of_kept? kept member
    have settled : ∀ child ∈ TreeBuilder.keptBelow true (Result.ofOutcome collect scope outcome)
        (treesOf true collect children), ∀ node ∈ child.nodes, node.IsSettled := by
      intro child childMember
      obtain ⟨trace, traceMember, same⟩ := mem_treesOf.mp (TreeBuilder.keptBelow_subset _ _ _ childMember)
      exact ih trace traceMember child same
    rcases mem_nodes.mp inside with rfl | ⟨child, childMember, member⟩
    · intro valid below member
      rcases mem_nodes.mp member with rfl | ⟨child, childMember, member⟩
      · exact valid
      · have validChild : child.result.valid = true := by
          have filtered : TreeBuilder.keptBelow true (Result.ofOutcome collect scope outcome)
              (treesOf true collect children) = (treesOf true collect children).filter (·.result.valid) :=
            if_pos valid
          rw [children_node, filtered] at childMember
          exact (List.mem_filter.mp childMember).2
        exact settled child childMember child (self_mem_nodes child) validChild below member
    · exact settled child childMember node member

/-- If attached values are not told, only invalid results are kept. -/
theorem invalid_tree? (trace : Trace) :
    ∀ tree, trace.tree? true .none = some tree → ∀ node ∈ tree.nodes, node.result.valid = false := by
  induction trace using children_induction with
  | leaf subject scope outcome =>
    intro tree kept node member
    rw [tree?] at kept
    have leaf := TreeBuilder.nodes_subset_of_kept? kept member
    obtain rfl : node = _ := by simpa [nodes, nodesOf] using leaf
    rcases TreeBuilder.kept?_condensed_cases (.node (Result.ofOutcome .none scope outcome) []) with
      ⟨gone, -⟩ | ⟨-, invalid⟩ | ⟨child, -, only, -⟩
    · rw [gone] at kept
      cases kept
    · exact invalid rfl rfl
    · cases only
  | branch subject scope outcome children ih =>
    intro tree kept node member
    rw [tree?] at kept
    have below : ∀ child ∈ treesOf true .none children, ∀ node ∈ child.nodes, node.result.valid = false := by
      intro child childMember
      obtain ⟨trace, traceMember, same⟩ := mem_treesOf.mp childMember
      exact ih trace traceMember child same
    cases verdict : outcome.isValid with
    | true =>
      -- No child survives below a valid result, so the result is a leaf and goes as well.
      have childless : TreeBuilder.keptBelow true (Result.ofOutcome .none scope outcome)
          (treesOf true .none children) = [] := by
        rw [TreeBuilder.keptBelow, if_pos (by simp [Result.ofOutcome, verdict])]
        refine List.filter_eq_nil_iff.mpr fun child childMember => ?_
        simp [below child childMember child (self_mem_nodes child)]
      have gone : TreeBuilder.kept? true (.node (Result.ofOutcome .none scope outcome) []) = none :=
        if_pos (by simp [Result.ofOutcome, verdict])
      rw [childless, gone] at kept
      cases kept
    | false =>
      have all : TreeBuilder.keptBelow true (Result.ofOutcome .none scope outcome) (treesOf true .none children) =
          treesOf true .none children := if_neg (by simp [Result.ofOutcome, verdict])
      rw [all] at kept
      rcases mem_nodes.mp (TreeBuilder.nodes_subset_of_kept? kept member) with rfl | ⟨child, childMember, member⟩
      · exact verdict
      · exact below child childMember node member

end Trace

namespace Schema

variable (schema : Schema) (options : Options) (value : Json) (dialects : DialectCache)

theorem validate_detailed : (schema.validate options .detailed value dialects).1 =
    .tree (((schema.trace options value dialects).1.tree? true options.collectAnnotations).getD (.node .blank [])) := by
  simp only [validate, Report.ofEvents, TreeBuilder.tree_events]

end Schema

end JsonSchema
