import JsonSchema.Proofs.Evaluation.Consulted
import JsonSchema.Proofs.Evaluation.UnevaluatedItems

/-! # Counted items

The rules about the items behind others and about unevaluated items count through indices that were attached before
them (`Facts.countedIndices`). Unless they read what an unknown keyword attached under the name of `prefixItems`, such an
index is that of an item of the instance (`Run.Yields.countsInside`), so that no count leaves the range of indices.
-/

namespace JsonSchema

/-! ## What rules count -/

namespace Facts

/-- The indices through which a rule counts items. -/
def countedIndices (facts : Facts) : Rule → List Nat
  | .items _ => ((facts.siblingValue? .prefixItems).bind (·.index?)).toList
  | .unevaluatedItems _ => (facts.attachedBy .prefixItems).filterMap (·.index?)
  | _ => []

/-- How many items are covered follows from the indices through which is counted. -/
theorem coveredByPrefix_eq (facts : Facts) (schema length : Nat) :
    facts.coveredByPrefix length = if facts.siblingValue? .prefixItems = some (.bool true) then length
      else ((facts.countedIndices (.items schema)).map countThrough).headD 0 := by
  unfold coveredByPrefix countedIndices
  cases facts.siblingValue? .prefixItems with
  | none => rfl
  | some value =>
    split
    · next same =>
      obtain rfl := Option.some.inj same
      rw [if_pos rfl]
    · next other different same =>
      obtain rfl := Option.some.inj same
      rw [if_neg fun impossible => different (Option.some.inj impossible)]
      show (value.index?.map countThrough).getD 0 = (value.index?.toList.map countThrough).headD 0
      cases value.index? <;> rfl
    · next impossible => cases impossible

end Facts

/-- Whether the rules of schema objects only count through indices of items of their instances. -/
def Trace.CountsInside (options : Options) (trace : Trace) : Prop :=
  ∀ part ∈ trace.parts, ∀ application, part.subject = .application application →
    ∀ before step after rule, part.children = before ++ step :: after → step.subject = .rule rule →
      ∀ index ∈ (application.factsAfter options before).countedIndices rule, index < application.value.itemCount

/-! ## Indices that are attached -/

namespace Rule

theorem eq_of_keyword_prefixItems {rule : Rule} (named : rule.keyword = StandardKeyword.prefixItems.name) :
    (∃ schemas, rule = .prefixItems schemas) ∨ ∃ value, rule = .unknown StandardKeyword.prefixItems.name value := by
  cases means : rule.standard? with
  | none =>
    obtain ⟨name, value, rfl⟩ := eq_unknown_of_standard? means
    obtain rfl : name = _ := named
    exact .inr ⟨value, rfl⟩
  | some meaning =>
    rw [keyword_of_standard? means] at named
    have same : meaning = .prefixItems := by
      cases meaning with
      | combination kind | limit kind | description kind => cases kind <;> exact absurd named (by decide)
      | count bound => rcases bound with ⟨⟨⟩⟩ | ⟨⟨⟩⟩ <;> exact absurd named (by decide)
      | prefixItems => rfl
      | _ => exact absurd named (by decide)
    obtain ⟨schemas, rfl⟩ := forms_of_standard? (means.trans (congrArg some same))
    exact .inl ⟨schemas, rfl⟩

end Rule

theorem Json.eq_of_index?_ofNat {n index : Nat} (found : (Json.ofNat n).index? = some index) : index = n := by
  rw [Json.ofNat, Json.ofInt, Number.ofInt] at found
  split at found
  · rw [Json.index?, if_pos (Int.natCast_nonneg n), Int.toNat_natCast] at found
    exact (Option.some.inj found).symm
  · cases found

/-- The index that `prefixItems` attaches is that of an item. -/
theorem Rule.index_lt_of_prefixItems {schemas : List Nat} {facts : Facts} {target : Option Target} {instance_ : Json}
    {outcomes : List Outcome} {value : Json}
    (valued : (((Rule.prefixItems schemas).plan facts target instance_).conclude outcomes).value? = some value)
    {index : Nat} (found : value.index? = some index) : index < instance_.itemCount := by
  cases instance_ with
  | array items =>
    have paired : (schemas.zip items.zipIdx).length = min schemas.length items.length := by simp
    simp only [plan, Facts.planPrefixItems, Plan.all] at valued
    rw [Json.itemCount]
    split at valued
    · split at valued
      · cases valued
      · next some =>
        rw [List.isEmpty_iff_length_eq_zero] at some
        split at valued
        · obtain rfl := Option.some.inj valued
          cases found
        · obtain rfl := Option.some.inj valued
          have last := Json.eq_of_index?_ofNat found
          omega
    · cases valued
  | _ => cases valued

namespace Run

variable {run : Run} {active : List ActiveResource} {application : Application} {before : List Step} {step : Step}

/-- Whether the indices attached under `prefixItems` are those of items of a value. -/
def IndicesInside (attached : List (String × Json)) (value : Json) : Prop :=
  ∀ entry, (StandardKeyword.prefixItems.name, entry) ∈ attached → ∀ index, entry.index? = some index →
    index < value.itemCount

/-- A rule that is not that of an unknown keyword only attaches indices of items. -/
theorem Performs.indicesInside (performs : run.Performs active application before step)
    (known : ∀ value, step.rule ≠ .unknown StandardKeyword.prefixItems.name value)
    (below : ∀ result ∈ step.results, result.2.trace.isValid = true → result.1.contributes = true →
      IndicesInside result.2.attached result.1.value) :
    IndicesInside step.attached application.value := by
  intro entry member index found
  rcases Step.mem_attached.mp member with contributed | ⟨value, valued, same⟩
  · obtain ⟨result, inside, valid, contributes, attached⟩ := Step.mem_contributed.mp contributed
    obtain ⟨inPlace, atInstance, -⟩ := Rule.plans_of_mem_plan (performs.mem_applications inside)
    rw [← performs.value_eq, ← atInstance (inPlace.symm.trans contributes)]
    exact below result inside valid contributes entry attached index found
  · obtain ⟨named, rfl⟩ := Prod.mk.inj same
    rcases Rule.eq_of_keyword_prefixItems named.symm with ⟨schemas, ruled⟩ | ⟨value, ruled⟩
    · rw [Step.outcome, Step.plan, ruled] at valued
      rw [← performs.value_eq]
      exact Rule.index_lt_of_prefixItems valued found
    · exact absurd ruled (known value)

/-- What the steps of a schema object attach under `prefixItems` are indices of items, if this holds of what the steps
applied and no unknown keyword of that name attached to the instance. -/
theorem CarriesOut.indicesInside {rules : List Rule} {steps some : List Step}
    (carried : run.CarriesOut active application rules steps) (scope : Scope) (subset : some ⊆ steps)
    (known : ∀ value, .unknown StandardKeyword.prefixItems.name value ∉ Trace.attachersOf (some.map (·.trace scope)))
    (subjects : ∀ step ∈ some, ∀ result ∈ step.results, result.2.trace.subject = .application result.1)
    (below : ∀ step ∈ some, ∀ result ∈ step.results,
      (∀ value, .unknown StandardKeyword.prefixItems.name value ∉ result.2.trace.attachers) →
        IndicesInside result.2.attached result.1.value) :
    IndicesInside (some.flatMap (·.attached)) application.value := by
  intro entry member
  obtain ⟨step, inside, member⟩ := List.mem_flatMap.mp member
  obtain ⟨before, after, -, performs⟩ := carried.performs_of_mem (subset inside)
  have above := Trace.attachers_subset_attachersOf (List.mem_map_of_mem (f := (·.trace scope)) inside)
    (step.counts_trace scope)
  rw [step.attachers_trace scope performs.applications_eq] at above
  refine performs.indicesInside (fun value ruled => ?_) (fun result applied valid contributes => ?_) entry member
  · exact known value (above (List.mem_append_right _ (List.mem_singleton.mpr ruled.symm)))
  · refine below step inside result applied fun value impossible => known value (above (List.mem_append_left _ ?_))
    have counts : result.2.trace.counts = true := by
      rw [Trace.counts, subjects step inside result applied, valid]
      exact contributes
    exact Trace.attachers_subset_attachersOf (List.mem_map_of_mem applied) counts impossible

/-- Without unknown keywords of that name the indices attached under `prefixItems` are those of items. -/
theorem Yields.indicesInside {path : Path} {applied : Applied} (yields : run.Yields path application applied)
    (known : ∀ value, .unknown StandardKeyword.prefixItems.name value ∉ applied.trace.attachers) :
    IndicesInside applied.attached application.value := by
  induction yields with
  | cutOff exhausted => exact fun _ impossible => absurd impossible List.not_mem_nil
  | boolean shallow shape => exact fun _ impossible => absurd impossible List.not_mem_nil
  | @object path application rules steps shallow shape carried yields ih =>
    refine carried.indicesInside (path.scope run application) (List.Subset.refl steps) (fun value inside => ?_)
      (fun step member result inside => (yields step member result inside).subject_trace) ih
    refine known value ?_
    rw [Trace.attachers_eq]
    exact List.mem_append_left _ inside

/-- A rule counts through indices that are attached under `prefixItems`. -/
theorem Performs.lt_of_mem_countedIndices (performs : run.Performs active application before step)
    (inside : .prefixItems ∈ step.rule.consults → IndicesInside (before.flatMap (·.attached)) application.value)
    {index : Nat} (counted : index ∈ step.facts.countedIndices step.rule) : index < application.value.itemCount := by
  rw [performs.facts_eq] at counted
  cases ruled : step.rule with
  | items schema =>
    rw [ruled] at counted inside
    obtain ⟨value, sibling, found⟩ := Option.bind_eq_some_iff.mp (Option.mem_toList.mp counted)
    obtain ⟨outcome, sibling, valued⟩ := Option.bind_eq_some_iff.mp sibling
    obtain ⟨earlier, member, same⟩ := List.mem_map.mp (mem_of_assoc? sibling)
    obtain ⟨named, rfl⟩ := Prod.mk.inj same
    refine inside (by simp [Rule.consults]) value (List.mem_flatMap.mpr ⟨earlier, member, ?_⟩) index found
    exact Step.mem_attached.mpr (.inr ⟨value, valued, by rw [named]⟩)
  | unevaluatedItems schema =>
    rw [ruled] at counted inside
    obtain ⟨value, member, found⟩ := List.mem_filterMap.mp counted
    exact inside (by simp [Rule.consults]) value (Facts.mem_attachedBy.mp member) index found
  | _ =>
    rw [ruled] at counted
    exact absurd counted List.not_mem_nil

/-- Unless they read what unknown keywords attached, rules count through indices of items only. -/
theorem Yields.countsInside {path : Path} {applied : Applied} (yields : run.Yields path application applied)
    (apart : applied.trace.keepsApart = true) : applied.trace.CountsInside run.options := by
  intro part member inner subject earlier step later rule split ruled index counted
  have rulesApart := Trace.rulesApart_of_mem_parts member apart subject
  obtain ⟨path, found, yields, rfl⟩ := yields.part member subject
  cases yields with
  | cutOff exhausted => simp [Run.cutOff, Trace.children] at split
  | boolean shallow shape => simp [Trace.children] at split
  | @object _ _ rules steps shallow shape carried below =>
    let scope := path.scope run inner
    have split : steps.map (·.trace scope) = earlier ++ step :: later := split
    have rulesApart : Trace.rulesApart inner.node [] (steps.map (·.trace scope)) = true := rulesApart
    rw [split, Trace.rulesApart_append, Trace.rulesApart, ruled, Bool.and_eq_true] at rulesApart
    obtain ⟨before, rest, rfl, rfl, remaining⟩ := List.map_eq_append_iff.mp split
    obtain ⟨step, after, rfl, rfl, rfl⟩ := List.map_eq_cons_iff.mp remaining
    obtain rfl : step.rule = rule := Subject.rule.inj ((step.subject_trace _).symm.trans ruled)
    have performs := carried.performs before step after rfl
    have early : before ⊆ before ++ step :: after := List.subset_append_left _ _
    have subjects (performed : Step) (inside : performed ∈ before) (result : Application × Applied)
        (applied : result ∈ performed.results) : result.2.trace.subject = .application result.1 :=
      (below performed (early inside) result applied).subject_trace
    have facts : inner.factsAfter run.options (before.map (·.trace scope)) = step.facts := by
      refine performs.factsAfter_eq scope fun performed inside => ?_
      obtain ⟨_, _, -, performs⟩ := carried.performs_of_mem (early inside)
      exact performs.attached_trace scope (subjects performed inside)
        fun result applied => (below performed (early inside) result applied).attached_trace
    rw [facts] at counted
    refine performs.lt_of_mem_countedIndices (fun consults => ?_) counted
    exact carried.indicesInside scope early (Rule.not_mem_of_isApart rulesApart.2.1 consults) subjects
      fun performed inside result applied => (below performed (early inside) result applied).indicesInside

end Run

end JsonSchema
