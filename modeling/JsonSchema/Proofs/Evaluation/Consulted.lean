import JsonSchema.Proofs.Compile.UnknownKeywords
import JsonSchema.Proofs.Evaluation.Attached
import JsonSchema.Proofs.Evaluation.Renumbering

/-! # What rules consult

A rule reads values that were attached before it under certain keywords (`Rule.consults`), and some look for other rules
of the same schema object (`Rule.seeks`). Nothing else that happened before a rule matters for its plan
(`Rule.plan_of_alike`): values attached under other keywords make no difference, and neither do the rules of unknown
keywords, as long as rules do not take them for known ones (`Trace.keepsApart`).
-/

namespace JsonSchema

/-- The keywords whose attached values a rule reads. -/
def Rule.consults : Rule → List StandardKeyword
  | .items _ => [.prefixItems]
  | .assertion (.count (.max .matches) _) => [.contains]
  | .assertion (.count (.min .matches) _) => [.contains]
  | .branch _ _ => [.condition]
  | .unevaluatedItems _ => [.prefixItems, .items, .contains, .unevaluatedItems]
  | .unevaluatedProperties _ => [.properties, .patternProperties, .additionalProperties, .unevaluatedProperties]
  | _ => []

/-- The keywords whose rules in the same schema object a rule looks at. -/
def Rule.seeks : Rule → List StandardKeyword
  | .contains _ => [.count (.min .matches)]
  | .additionalProperties _ => [.properties, .patternProperties]
  | .contentMediaType _ => [.contentEncoding]
  | .contentSchema _ => [.contentEncoding, .contentMediaType]
  | _ => []

/-- The first rule under a keyword, unless it is that of an unknown keyword. -/
def Node.knownRule? (node : Node) (keyword : StandardKeyword) : Option Rule :=
  (node.rule? keyword.name).filter (·.standard?.isSome)

namespace Facts

/-- The first rule of the same schema object under a keyword, unless it is that of an unknown keyword. -/
def knownRule? (facts : Facts) (keyword : StandardKeyword) : Option Rule :=
  (facts.rule? keyword).filter (·.standard?.isSome)

/-- Whether a rule finds the same before it: the same values under the keywords that it consults, and the same known
rules. How unknown keywords are treated in what is compiled later does not matter. -/
structure AlikeFor (rule : Rule) (facts other : Facts) : Prop where
  options : ∃ unknown, other.options = facts.options.treating unknown
  knownRule?_eq : ∀ keyword ∈ rule.seeks, other.knownRule? keyword = facts.knownRule? keyword
  siblingValue?_eq : ∀ keyword ∈ rule.consults, other.siblingValue? keyword = facts.siblingValue? keyword
  attachedBy_eq : ∀ keyword ∈ rule.consults, other.attachedBy keyword = facts.attachedBy keyword

section

variable (facts : Facts)

theorem demandsMatch_eq : facts.demandsMatch = match facts.knownRule? (.count (.min .matches)) with
    | some (.assertion (.count _ least)) => 0 < least
    | _ => true := by
  unfold demandsMatch knownRule?
  cases facts.rule? (.count (.min .matches)) with
  | none => rfl
  | some rule => cases rule <;> rfl

theorem declares_eq (name : String) : facts.declares name = match facts.knownRule? .properties with
    | some (.properties schemas) => schemas.any (·.1 == name)
    | _ => false := by
  unfold declares knownRule?
  cases facts.rule? .properties with
  | none => rfl
  | some rule => cases rule <;> rfl

theorem matchesPattern_eq (name : String) : facts.matchesPattern name = match facts.knownRule? .patternProperties with
    | some (.patternProperties schemas) => schemas.any (·.1.isMatch name)
    | _ => false := by
  unfold matchesPattern knownRule?
  cases facts.rule? .patternProperties with
  | none => rfl
  | some rule => cases rule <;> rfl

theorem content?_eq (mediaType text : String) : facts.content? mediaType text = (do
    let read ← facts.options.contentTypes.mediaType? mediaType
    match facts.knownRule? .contentEncoding with
    | some (.contentEncoding name) =>
      let decode ← facts.options.contentTypes.encoding? name
      return decode text >>= read
    | _ => return read (Utf8.bytes text)) := by
  unfold content? knownRule?
  cases facts.rule? .contentEncoding with
  | none => rfl
  | some rule => cases rule <;> rfl

theorem planContentSchema_eq (schema : Nat) (value : Json) : facts.planContentSchema schema value =
    match value, facts.options.assertContent, facts.knownRule? .contentMediaType with
    | .string text, true, some (.contentMediaType mediaType) =>
      match facts.content? mediaType text with
      | some (.ok content) =>
        { applications := [facts.applyIsolated schema content none]
          conclude := fun outcomes =>
            if outcomes.all (·.isValid) then .annotated (facts.document.node schema).value
            else .fail "Content must match 'contentSchema'" }
      | _ => .done (.annotated (facts.document.node schema).value)
    | _, _, _ => .done (.annotated (facts.document.node schema).value) := by
  unfold planContentSchema knownRule?
  cases facts.rule? .contentMediaType with
  | none => rfl
  | some rule =>
    cases rule with
    | unknown name described =>
      cases value with
      | string text => cases facts.options.assertContent <;> rfl
      | _ => rfl
    | _ => rfl

end

end Facts

open Facts in
/-- A rule plans the same if it finds the same before it. -/
theorem Rule.plan_of_alike {rule : Rule} {facts other : Facts} (alike : facts.AlikeFor rule other)
    (document : other.document = facts.document) (target : Option Target) (value : Json) :
    rule.plan other target value = rule.plan facts target value := by
  obtain ⟨⟨unknown, options⟩, known, siblings, attached⟩ := alike
  have content (mediaType text : String) (seeks : .contentEncoding ∈ rule.seeks) :
      other.content? mediaType text = facts.content? mediaType text := by
    rw [content?_eq, content?_eq, known _ seeks, options]
    rfl
  have counted (consults : .contains ∈ rule.consults) : other.matchCount? = facts.matchCount? := by
    rw [matchCount?, matchCount?, siblings _ consults]
  cases rule with
  | ref url | dynamicRef url anchor => rfl
  | items schema =>
    cases value with
    | array items =>
      have covered : other.coveredByPrefix items.length = facts.coveredByPrefix items.length := by
        rw [coveredByPrefix, coveredByPrefix, siblings .prefixItems (by simp [consults])]
      simp only [plan, planItems, covered, applyToItem, apply, document]
    | _ => rfl
  | contains schema =>
    cases value with
    | array items =>
      simp only [plan, planContains, demandsMatch_eq, known _ (List.mem_singleton_self _), applyToItem, apply, document]
    | _ => rfl
  | additionalProperties schema =>
    cases value with
    | object members =>
      simp only [plan, planAdditionalProperties, additionalMembers, declares_eq, matchesPattern_eq,
        known .properties (by simp [seeks]), known .patternProperties (by simp [seeks]), applyToMember, apply, document]
    | _ => rfl
  | branch truth schema =>
    simp only [plan, planBranch, siblings .condition (by simp [consults]), apply, document]
  | unevaluatedItems schema =>
    cases value with
    | array items =>
      have all : other.allItemsEvaluated = facts.allItemsEvaluated := by
        rw [allItemsEvaluated, allItemsEvaluated, attached .items (by simp [consults]),
          attached .unevaluatedItems (by simp [consults]), attached .prefixItems (by simp [consults])]
      have left : other.unevaluatedItems items = facts.unevaluatedItems items := by
        simp only [Facts.unevaluatedItems, all, attached .prefixItems (by simp [consults]),
          attached .contains (by simp [consults])]
      simp only [plan, planUnevaluatedItems, left, applyToItem, apply, document]
    | _ => rfl
  | unevaluatedProperties schema =>
    cases value with
    | object members =>
      simp only [plan, planUnevaluatedProperties, evaluatedNames, attached .properties (by simp [consults]),
        attached .patternProperties (by simp [consults]), attached .additionalProperties (by simp [consults]),
        attached .unevaluatedProperties (by simp [consults]), applyToMember, apply, document]
    | _ => rfl
  | contentSchema schema =>
    simp only [plan, planContentSchema_eq, known .contentMediaType (by simp [seeks]), options, document,
      fun mediaType text => content mediaType text (by simp [seeks]), applyIsolated, apply]
    rfl
  | contentMediaType name =>
    simp only [plan, checkMediaType, options, fun mediaType text => content mediaType text (by simp [seeks])]
    rfl
  | contentEncoding name =>
    simp only [plan, checkEncoding, options]
    rfl
  | format name asserted =>
    simp only [plan, checkFormat, options]
    rfl
  | assertion check =>
    have blind : check.check other.matchCount? value = check.check facts.matchCount? value := by
      cases check with
      | count bound limit =>
        cases bound with
        | max measure | min measure =>
          cases measure with
          | «matches» => rw [counted (by simp [consults])]
          | _ => cases value <;> rfl
      | _ => cases value <;> rfl
    exact congrArg Plan.done blind
  | _ =>
    obtain ⟨_, _, _, _, _⟩ := facts
    obtain ⟨_, _, _, _, _⟩ := other
    obtain rfl := document
    cases value <;> rfl

/-- In a document whose nodes have the same values a rule plans the same for the nodes there. -/
theorem Rule.plan_of_alike_elsewhere {rule : Rule} {facts other : Facts} (plain : rule.isReference = false)
    (alike : facts.AlikeFor rule other)
    (values : ∀ schema ∈ rule.subschemas, (other.document.node schema).value = (facts.document.node schema).value)
    (target found : Option Target) (value : Json) :
    rule.plan other found value = (rule.plan facts target value).moveTo other.document id := by
  let elsewhere : Facts := { facts with document := other.document }
  have renumbers : facts.Renumbers id elsewhere := ⟨rfl, by simp [elsewhere], rfl, rfl⟩
  have here : elsewhere.AlikeFor rule other := ⟨alike.options, alike.knownRule?_eq, alike.siblingValue?_eq,
    alike.attachedBy_eq⟩
  rw [Rule.plan_of_alike here rfl, ← Rule.plan_rename renumbers plain values target found, Rule.rename_id]

/-! ## Unknown keywords that no rule takes for known ones -/

/-- Whether the first of some rules that reports under a name is no unknown keyword in front of a known one. -/
def seeksApart (keyword : String) : List Rule → Bool
  | [] => true
  | rule :: rest =>
    if rule.keyword == keyword then
      rule.standard?.isSome || rest.all fun other => other.standard?.isNone || other.keyword != keyword
    else seeksApart keyword rest

/-- Whether a rule of a node finds no unknown keyword where it reads or looks for known ones, given the rules that
attached values before it. -/
def Rule.isApart (node : Node) (attachers : List Rule) (rule : Rule) : Bool :=
  rule.consults.all (fun keyword =>
      attachers.all fun other => other.standard?.isSome || other.keyword != keyword.name) &&
    rule.seeks.all fun keyword => seeksApart keyword.name node.rules

/-- An unknown keyword attached nothing that a rule reads. -/
theorem Rule.not_mem_of_isApart {node : Node} {attachers : List Rule} {rule : Rule}
    (apart : rule.isApart node attachers = true) {keyword : StandardKeyword} (consults : keyword ∈ rule.consults)
    (value : Json) : .unknown keyword.name value ∉ attachers := by
  intro inside
  have none := List.all_eq_true.mp (List.all_eq_true.mp (Bool.and_eq_true_iff.mp apart).1 keyword consults) _ inside
  rcases Bool.or_eq_true_iff.mp none with known | differs
  · exact Bool.noConfusion known
  · exact bne_iff_ne.mp differs rfl

namespace Trace

/-- Whether the rules of a node find no unknown keywords, given the rules that attached values before them. -/
def rulesApart (node : Node) (attachers : List Rule) : List Trace → Bool
  | [] => true
  | step :: rest => step.subject.rule?.all (·.isApart node attachers) &&
    rulesApart node (attachers ++ attachersOf [step]) rest

/-- Whether no rule in a trace reads what an unknown keyword attached, or finds one in the place of a known one. -/
def keepsApart (trace : Trace) : Bool :=
  trace.parts.all fun part =>
    part.subject.application?.all fun application => rulesApart application.node [] part.children

theorem rulesApart_append {node : Node} {attachers : List Rule} {traces further : List Trace} :
    rulesApart node attachers (traces ++ further) = true ↔ rulesApart node attachers traces = true ∧
      rulesApart node (attachers ++ attachersOf traces) further = true := by
  induction traces generalizing attachers with
  | nil => simp [rulesApart, attachersOf]
  | cons step rest ih =>
    have single : attachersOf (step :: rest) = attachersOf [step] ++ attachersOf rest := attachersOf_append [step] rest
    rw [List.cons_append, rulesApart, rulesApart, Bool.and_eq_true, Bool.and_eq_true, ih, single, List.append_assoc,
      and_assoc]

theorem rulesApart_of_mem_parts {part trace : Trace} (member : part ∈ trace.parts) (apart : trace.keepsApart = true)
    {application : Application} (subject : part.subject = .application application) :
    rulesApart application.node [] part.children = true := by
  have holds := List.all_eq_true.mp apart part member
  rwa [subject] at holds

theorem keepsApart_iff {trace : Trace} : trace.keepsApart = true ↔
    (∀ application, trace.subject = .application application →
      rulesApart application.node [] trace.children = true) ∧ ∀ child ∈ trace.children, child.keepsApart = true := by
  constructor
  · intro apart
    refine ⟨fun application => rulesApart_of_mem_parts trace.self_mem_parts apart, fun child member => ?_⟩
    refine List.all_eq_true.mpr fun part inside => List.all_eq_true.mp apart part ?_
    exact mem_parts.mpr (.inr ⟨child, member, inside⟩)
  · rintro ⟨own, below⟩
    refine List.all_eq_true.mpr fun part inside => ?_
    rcases mem_parts.mp inside with rfl | ⟨child, member, inside⟩
    · cases subject : part.subject with
      | application application => exact own application subject
      | rule rule => rfl
    · exact List.all_eq_true.mp (below child member) part inside

end Trace

end JsonSchema
