import JsonSchema.Proofs.Draft.Implied
import JsonSchema.Proofs.Evaluation.DynamicScope

/-! # Accepting forms

Whether a compiled schema accepts every value of a form can be computed from its rules (`Document.accepts`): a rule
about members asks whether the sub-schemas accept the forms of the members, an assertion whether the form implies it,
and a dynamic reference leads to the outermost schema with its anchor, which accepts what schemas are. The computation
is sound (`Document.accepts_sound`): with enough scopes left, every value of the form is valid.
-/

namespace JsonSchema

/-! ## Parts of forms -/

namespace Form

/-- The form of all members of the values of a form, if the form tells it. -/
def members? : Form → Option Form
  | .object members => some members
  | .keywords => none
  | form => form.type?.map fun _ => .absent

/-- The form of the member of a name, if the form tells it. -/
def member? (form : Form) (name : String) : Option Form :=
  if form = .keywords then some (Draft.form name) else form.members?

/-- The form of all items of the values of a form, if the form tells it. -/
def items? : Form → Option Form
  | .list _ _ items => some items
  | form => form.type?.map fun _ => .absent

variable {isSchema : Json → Prop} {form inner : Form}

theorem describes_of_members? (told : form.members? = some inner) {members : List (String × Json)}
    (describes : form.Describes isSchema (.object members)) : ∀ member ∈ members, inner.Describes isSchema member.2 := by
  cases form with
  | object each =>
    obtain rfl := Option.some.inj told
    obtain ⟨entries, same, each⟩ := describes
    exact Json.object.inj same ▸ each
  | anything | absent | either | schema | keywords => cases told
  -- the values of the other forms are no objects
  | text | flag | number | typeName =>
    obtain ⟨_, same⟩ := describes
    cases same
  | anchor | divisor | list =>
    obtain ⟨_, same, -⟩ := describes
    cases same
  | count =>
    obtain ⟨_, _, same, -⟩ := describes
    cases same

theorem describes_of_member? {name : String} (told : form.member? name = some inner) {members : List (String × Json)}
    (describes : form.Describes isSchema (.object members)) {value : Json} (present : assoc? name members = some value) :
    inner.Describes isSchema value := by
  rw [member?] at told
  split at told
  · next isKeywords =>
    subst isKeywords
    obtain rfl := Option.some.inj told
    obtain ⟨entries, same, each⟩ := describes
    exact each name value (Json.object.inj same ▸ present) _
  · exact describes_of_members? told describes _ (mem_of_assoc? present)

theorem describes_of_items? (told : form.items? = some inner) {items : List Json}
    (describes : form.Describes isSchema (.array items)) : ∀ item ∈ items, inner.Describes isSchema item := by
  cases form with
  | list occupied distinct each =>
    obtain rfl := Option.some.inj told
    obtain ⟨elements, same, -, -, each⟩ := describes
    exact Json.array.inj same ▸ each
  | anything | absent | either | schema => cases told
  -- the values of the other forms are no arrays
  | text | flag | number | typeName =>
    obtain ⟨_, same⟩ := describes
    cases same
  | anchor | divisor | object | keywords =>
    obtain ⟨_, same, -⟩ := describes
    cases same
  | count =>
    obtain ⟨_, _, same, -⟩ := describes
    cases same

end Form

/-! ## The computation -/

namespace Document

/-- The node of the document itself that a reference leads to. -/
def ownNode? (document : Document) (url : Url) : Option Nat :=
  (document.find? url.withoutFragment).bind (·.nodeOfFragment? url.fragmentText .standardAndDynamic)

variable (document : Document) (anchor : String) (known : List Url)

/-- Whether a rule is seen to hold of all values of a form, given which forms the nodes of the document accept. A
dynamic reference to the anchor leads to what accepts all schemas, and the known references lead to what accepts truth
values and schema objects. -/
def allows (accepts : Form → Nat → Bool) (form : Form) : Rule → Bool
  | .ref url =>
    match document.find? url.withoutFragment with
    | some _ => (document.ownNode? url).any (accepts form)
    | none => known.contains url && (form = .flag || form = .keywords)
  | .dynamicRef url name =>
    form = .schema && name = some anchor &&
      (document.ownNode? url).any fun node => ((Target.mk document node).active.dynamicAnchor? anchor).isSome
  | .combination .allOf schemas => schemas.all (accepts form)
  | .combination .anyOf schemas => schemas.any (accepts form)
  | .properties schemas => schemas.all fun (name, schema) => (form.member? name).any (accepts · schema)
  | .additionalProperties schema => form.members?.any (accepts · schema)
  | .propertyNames schema => accepts .text schema
  | .items schema => form.items?.any (accepts · schema)
  | .assertion check => form.implies check
  | .description _ _ | .format _ false | .defs _ | .comment _ => true
  | _ => false

/-- Whether a node is seen to accept all values of a form, looking at so many nodes within each other. -/
def accepts : Nat → Form → Nat → Bool
  | 0, _, _ => false
  | _ + 1, .absent, _ => true
  | fuel + 1, .either left right, index => accepts fuel left index && accepts fuel right index
  | fuel + 1, form, index =>
    match (document.node index).shape with
    | .boolean accepts => accepts
    | .object rules => rules.all (document.allows anchor known (accepts fuel) form)

end Document

/-! ## Plans that succeed -/

namespace Plan

/-- Whether the outcome of a plan is valid wherever those of the good applications are. -/
def Succeeds (plan : Plan) (good : Application → Prop) : Prop :=
  ∀ results : List (Application × Outcome), results.map (·.1) = plan.applications →
    (∀ result ∈ results, good result.1 → result.2.isValid = true) →
      (plan.conclude (results.map (·.2))).isValid = true

variable {good : Application → Prop}

theorem succeeds_done {outcome : Outcome} (valid : outcome.isValid = true) : (done outcome).Succeeds good :=
  fun _ _ _ => valid

/-- A plan succeeds if all its applications are good and it demands no more than that they are valid. -/
theorem succeeds_of_forall {plan : Plan} (each : ∀ application ∈ plan.applications, good application)
    (demands : ∀ outcomes : List Outcome, (∀ outcome ∈ outcomes, outcome.isValid = true) →
      (plan.conclude outcomes).isValid = true) : plan.Succeeds good := by
  intro results planned valid
  refine demands _ fun outcome member => ?_
  obtain ⟨result, inside, rfl⟩ := List.mem_map.mp member
  exact valid result inside (each _ (planned ▸ List.mem_map_of_mem inside))

theorem succeeds_follow {application : Application} (leads : good application) : (follow application).Succeeds good := by
  refine succeeds_of_forall (fun other member => List.mem_singleton.mp member ▸ leads) fun outcomes valid => ?_
  cases outcomes with
  | nil => rfl
  | cons first rest => exact valid first List.mem_cons_self

theorem succeeds_all {applications : List Application} {success : Outcome} (valid : success.isValid = true)
    (each : ∀ application ∈ applications, good application) : (all applications success).Succeeds good := by
  refine succeeds_of_forall each fun outcomes allValid => ?_
  simp only [all]
  rwa [if_pos (List.all_eq_true.mpr allValid)]

end Plan

namespace Facts

variable {facts : Facts} {good : Application → Prop}

theorem failing_eq_nil {α : Type} {values : List α} {outcomes : List Outcome}
    (valid : ∀ outcome ∈ outcomes, outcome.isValid = true) : failing values outcomes = [] := by
  rw [failing, List.map_eq_nil_iff, List.filter_eq_nil_iff]
  intro pair member
  simp [valid pair.2 (List.of_mem_zip member).2]

theorem succeeds_planAdditionalProperties {schema : Nat} {members : List (String × Json)}
    (each : ∀ member ∈ members, good (facts.applyToMember schema member none)) :
    (facts.planAdditionalProperties schema members).Succeeds good := by
  refine Plan.succeeds_of_forall (fun application member => ?_) fun outcomes valid => ?_
  · obtain ⟨entry, inside, rfl⟩ := List.mem_map.mp member
    exact each entry (List.mem_of_mem_filter inside)
  · simp only [planAdditionalProperties, failing_eq_nil valid]
    rfl

theorem succeeds_planPropertyNames {schema : Nat} {members : List (String × Json)}
    (each : ∀ member ∈ members, good (facts.applyIsolated schema (.string member.1) (some member.1))) :
    (facts.planPropertyNames schema members).Succeeds good := by
  refine Plan.succeeds_of_forall (fun application member => ?_) fun outcomes valid => ?_
  · obtain ⟨entry, inside, rfl⟩ := List.mem_map.mp member
    exact each entry inside
  · exact (Outcome.isValid_require _ _).trans (List.all_eq_true.mpr valid)

theorem succeeds_planProperties {schemas : List (String × Nat)} {members : List (String × Json)}
    (each : ∀ schema ∈ schemas, ∀ value, assoc? schema.1 members = some value →
      good (facts.applyToMember schema.2 (schema.1, value) (some schema.1))) :
    (facts.planProperties schemas members).Succeeds good := by
  refine Plan.succeeds_all rfl fun application member => ?_
  obtain ⟨entry, inside, rfl⟩ := List.mem_map.mp member
  obtain ⟨schema, listed, found⟩ := List.mem_filterMap.mp inside
  obtain ⟨value, present, rfl⟩ := Option.map_eq_some_iff.mp found
  exact each schema listed value present

theorem succeeds_planItems {schema : Nat} {items : List Json}
    (each : ∀ item ∈ items, ∀ index, good (facts.applyToItem schema (item, index) none)) :
    (facts.planItems schema items).Succeeds good := by
  refine Plan.succeeds_all rfl fun application member => ?_
  obtain ⟨item, inside, rfl⟩ := List.mem_map.mp member
  exact each item.1 (List.fst_mem_of_mem_zipIdx (List.mem_of_mem_drop inside)) item.2

theorem succeeds_allOf {schemas : List Nat} {value : Json}
    (each : ∀ schema ∈ schemas, ∀ token, good (facts.apply schema value none token)) :
    (facts.planCombination .allOf schemas value).Succeeds good := by
  refine Plan.succeeds_of_forall (fun application member => ?_) fun outcomes valid => ?_
  · obtain ⟨schema, inside, rfl⟩ := List.mem_map.mp member
    exact each schema.1 (List.fst_mem_of_mem_zipIdx inside) _
  · refine (Combination.isValid_combine _ _).trans (List.all_eq_true.mpr fun verdict member => ?_)
    obtain ⟨outcome, inside, rfl⟩ := List.mem_map.mp member
    exact valid outcome inside

theorem succeeds_anyOf {schemas : List Nat} {value : Json}
    (some : ∃ schema ∈ schemas, ∀ token, good (facts.apply schema value none token)) :
    (facts.planCombination .anyOf schemas value).Succeeds good := by
  intro results planned valid
  obtain ⟨schema, inside, accepted⟩ := some
  obtain ⟨index, bound, rfl⟩ := List.mem_iff_getElem.mp inside
  have applied : facts.apply schemas[index] value none (toString index) ∈ results.map (·.1) := by
    rw [planned]
    exact List.mem_map.mpr ⟨(schemas[index], index), List.mk_mem_zipIdx_iff_getElem?.mpr
      (List.getElem?_eq_getElem bound), rfl⟩
  obtain ⟨result, member, same⟩ := List.mem_map.mp applied
  refine (Combination.isValid_combine _ _).trans (List.any_eq_true.mpr ⟨true, ?_, rfl⟩)
  refine List.mem_map.mpr ⟨result.2, List.mem_map_of_mem member, valid result member (same ▸ accepted _)⟩

end Facts

/-! ## Nodes that accept -/

theorem dynamicTarget?_cons {active : List ActiveResource} {name : String} {found : Target}
    (leads : dynamicTarget? active name = some found) (inner : ActiveResource) :
    dynamicTarget? (inner :: active) name = some found := by
  rw [dynamicTarget?] at leads ⊢
  rw [List.reverse_cons, List.findSome?_append, leads]
  rfl

namespace Run

variable (run : Run) (anchor : String) (home : Target)

/-- Whether a node accepts a value wherever an anchor leads to some target and so many scopes are left. -/
def Accepts (scopes : Nat) (target : Target) (value : Json) : Prop :=
  ∀ path application applied, application.target = target → application.value = value →
    dynamicTarget? (target.active :: path.active) anchor = some home → path.depth + scopes ≤ run.options.maxDepth →
      run.Yields path application applied → applied.outcome.isValid = true

/-- What is known of an evaluation from inside a document. -/
structure Hosts (document : Document) (known : List Url) (isSchema : Json → Prop) (scopes : Nat) : Prop where
  annotates : run.options.formatMode = .annotate
  schemas : ∀ value, isSchema value → run.Accepts anchor home scopes home value
  known : ∀ url ∈ known, document.find? url.withoutFragment = none → ∀ memory, ∃ target,
    ((run.resolve document url).run memory).1 = some target ∧
      ∀ form : Form, form = .flag ∨ form = .keywords → ∀ value, form.Describes isSchema value →
        run.Accepts anchor home scopes target value

variable {run anchor home}

theorem Accepts.mono {scopes more : Nat} {target : Target} {value : Json}
    (accepts : run.Accepts anchor home scopes target value) (enough : scopes ≤ more) :
    run.Accepts anchor home more target value :=
  fun path application applied same means leads left =>
    accepts path application applied same means leads (by omega)

/-- A schema object is valid if the plans of its rules succeed. -/
theorem Yields.isValid_of_succeeds {path : Path} {application : Application} {applied : Applied}
    (yields : run.Yields path application applied) (shallow : path.depth < run.options.maxDepth) {rules : List Rule}
    (shape : application.node.shape = .object rules) (good : Application → Prop)
    (succeeds : ∀ rule ∈ rules.filter (·.isApplied), ∀ facts memory, facts.options = run.options →
      facts.document = application.target.document →
        (rule.plan facts ((run.target application.target.document (application.target.active :: path.active)
          rule).run memory).1 application.value).Succeeds good)
    (below : ∀ rule inner result, good inner → run.Yields (run.pathBelow path application rule) inner result →
      result.outcome.isValid = true) : applied.outcome.isValid = true := by
  cases yields with
  | cutOff exhausted => omega
  | boolean _ boolean => cases shape.symm.trans boolean
  | @object _ _ others steps _ object carried yields =>
    obtain rfl := Shape.object.inj (shape.symm.trans object)
    refine (application.isValid_traceOf _ steps).trans (List.all_eq_true.mpr fun step member => ?_)
    obtain ⟨before, after, -, performs⟩ := carried.performs_of_mem member
    obtain ⟨memory, leads⟩ := performs.target_eq
    have succeeds := succeeds step.rule (carried.rule_mem member) step.facts memory (by rw [performs.facts_eq])
      (by rw [performs.facts_eq])
    rw [← leads, ← performs.value_eq] at succeeds
    have planned : (step.results.map fun result => (result.1, result.2.outcome)).map (·.1) = step.plan.applications := by
      rw [← performs.applications_eq, List.map_map]
      rfl
    have valid := succeeds _ planned fun result inside good => by
      obtain ⟨found, listed, rfl⟩ := List.mem_map.mp inside
      exact below step.rule _ _ good (yields step member found listed)
    rwa [List.map_map] at valid

/-- A reference that leads to a node of the document is resolved to it. -/
theorem resolve_of_ownNode? {document : Document} {url : Url} {node : Nat} (own : document.ownNode? url = some node)
    (memory : Memory) : ((run.resolve document url).run memory).1 = some ⟨document, node⟩ := by
  obtain ⟨schema, found, named⟩ := Option.bind_eq_some_iff.mp own
  have resource : run.resource? document url.withoutFragment = some schema := by rw [resource?, found]; rfl
  rw [resolve, resource]
  simp only [named, document_of_find? found]
  rfl

variable {document : Document} {known : List Url} {isSchema : Json → Prop} {scopes : Nat}
  (hosts : run.Hosts anchor home document known isSchema scopes)
include hosts

/-- What a document allows succeeds, where the nodes below accept what they are seen to accept. -/
theorem Hosts.succeeds_of_allows {deeper : Nat} (enough : scopes ≤ deeper) {accepts : Form → Nat → Bool}
    (sound : ∀ form index, accepts form index = true → ∀ value, form.Describes isSchema value →
      run.Accepts anchor home deeper ⟨document, index⟩ value)
    {form : Form} {rule : Rule} (allows : document.allows anchor known accepts form rule = true) {value : Json}
    (describes : form.Describes isSchema value) {active : List ActiveResource}
    (leads : dynamicTarget? active anchor = some home) {facts : Facts} (options_eq : facts.options = run.options)
    (document_eq : facts.document = document) (memory : Memory) :
    (rule.plan facts ((run.target document active rule).run memory).1 value).Succeeds fun application =>
      run.Accepts anchor home deeper application.target application.value := by
  subst document_eq
  cases rule with
  | ref url =>
    rw [Document.allows] at allows
    cases found : facts.document.find? url.withoutFragment with
    | some schema =>
      rw [found] at allows
      obtain ⟨node, own, accepted⟩ := (Option.any_eq_true _ _).mp allows
      rw [target, resolve_of_ownNode? own]
      exact Plan.succeeds_follow (sound form node accepted value describes)
    | none =>
      rw [found] at allows
      obtain ⟨listed, isRoot⟩ := Bool.and_eq_true_iff.mp allows
      obtain ⟨target, resolved, accepted⟩ := hosts.known url (List.contains_iff_mem.mp listed) found memory
      rw [Run.target, resolved]
      exact Plan.succeeds_follow ((accepted form (by simpa using isRoot) value describes).mono enough)
  | dynamicRef url name =>
    obtain ⟨isSchema, declared⟩ := Bool.and_eq_true_iff.mp allows
    obtain ⟨isSchema, named⟩ := Bool.and_eq_true_iff.mp isSchema
    obtain rfl := of_decide_eq_true isSchema
    obtain rfl := of_decide_eq_true named
    obtain ⟨node, own, declares⟩ := (Option.any_eq_true _ _).mp declared
    rw [run_target_dynamicRef (resolve_of_ownNode? own memory) declares, leads]
    exact Plan.succeeds_follow ((hosts.schemas value describes).mono enough)
  | combination kind schemas =>
    cases kind with
    | allOf =>
      exact Facts.succeeds_allOf fun schema member token =>
        sound form schema (List.all_eq_true.mp allows schema member) value describes
    | anyOf =>
      obtain ⟨schema, member, accepted⟩ := List.any_eq_true.mp allows
      exact Facts.succeeds_anyOf ⟨schema, member, fun token => sound form schema accepted value describes⟩
    | oneOf => cases allows
  | properties schemas =>
    cases value with
    | object members =>
      refine Facts.succeeds_planProperties fun schema listed value present => ?_
      obtain ⟨inner, told, accepted⟩ := (Option.any_eq_true _ _).mp (List.all_eq_true.mp allows schema listed)
      exact sound inner schema.2 accepted value (Form.describes_of_member? told describes present)
    | _ => exact Plan.succeeds_done rfl
  | additionalProperties schema =>
    cases value with
    | object members =>
      obtain ⟨inner, told, accepted⟩ := (Option.any_eq_true _ _).mp allows
      exact Facts.succeeds_planAdditionalProperties fun member inside =>
        sound inner schema accepted member.2 (Form.describes_of_members? told describes member inside)
    | _ => exact Plan.succeeds_done rfl
  | propertyNames schema =>
    cases value with
    | object members =>
      exact Facts.succeeds_planPropertyNames fun member inside => sound .text schema allows _ ⟨member.1, rfl⟩
    | _ => exact Plan.succeeds_done rfl
  | items schema =>
    cases value with
    | array elements =>
      obtain ⟨inner, told, accepted⟩ := (Option.any_eq_true _ _).mp allows
      exact Facts.succeeds_planItems fun item inside index =>
        sound inner schema accepted item (Form.describes_of_items? told describes item inside)
    | _ => exact Plan.succeeds_done rfl
  | assertion check =>
    exact Plan.succeeds_done ((check.isValid_check _ value).trans (Form.holds_of_implies allows describes _))
  | description kind described => exact Plan.succeeds_done rfl
  | format name asserted =>
    cases asserted with
    | true => cases allows
    | false =>
      refine Plan.succeeds_done ?_
      rw [Facts.checkFormat, options_eq, hosts.annotates]
      rfl
  | defs schemas => exact Plan.succeeds_done rfl
  | comment text => exact Plan.succeeds_done rfl
  | _ => cases allows

/-- A node accepts a form if each of its rules is seen to hold of it. -/
theorem Hosts.accepts_of_rules {fuel index : Nat} {form : Form}
    (sound : ∀ inner index, document.accepts anchor known fuel inner index = true → ∀ value,
      inner.Describes isSchema value → run.Accepts anchor home (scopes + 2 * fuel) ⟨document, index⟩ value)
    (allows : ∀ rule ∈ (document.node index).rules,
      document.allows anchor known (document.accepts anchor known fuel) form rule = true)
    (open_ : ∀ accepts, (document.node index).shape = .boolean accepts → accepts = true) {value : Json}
    (describes : form.Describes isSchema value) :
    run.Accepts anchor home (scopes + 2 * (fuel + 1)) ⟨document, index⟩ value := by
  intro path application applied same means leads left yields
  have node : application.node = document.node index := by rw [Application.node, same]
  cases shape : application.node.shape with
  | boolean accepts =>
    cases yields with
    | cutOff exhausted => omega
    | @boolean _ _ found _ boolean =>
      obtain rfl := Shape.boolean.inj (shape.symm.trans boolean)
      rw [node] at shape
      exact (Outcome.isValid_require _ _).trans (open_ _ shape)
    | object _ object => cases shape.symm.trans object
  | object rules =>
    refine yields.isValid_of_succeeds (by omega) shape
      (fun inner => run.Accepts anchor home (scopes + 2 * fuel) inner.target inner.value) ?_ ?_
    · intro rule member facts memory options_eq document_eq
      have inside : rule ∈ (document.node index).rules := node ▸ Node.applied_subset shape member
      rw [same] at document_eq ⊢
      rw [means]
      exact hosts.succeeds_of_allows (by omega) sound (allows rule inside) describes leads options_eq document_eq memory
    · intro rule inner result accepts yields
      refine accepts _ inner result rfl rfl (dynamicTarget?_cons ?_ _) ?_ yields
      · rw [← leads, ← same]
        rfl
      · rw [depth_pathBelow]
        omega

/-- What a document is seen to accept it accepts. -/
theorem Hosts.accepts_sound {fuel index : Nat} {form : Form}
    (accepts : document.accepts anchor known fuel form index = true) {value : Json}
    (describes : form.Describes isSchema value) :
    run.Accepts anchor home (scopes + 2 * fuel) ⟨document, index⟩ value := by
  induction fuel generalizing form index value with
  | zero =>
    rw [Document.accepts.eq_def] at accepts
    cases accepts
  | succ fuel ih =>
    rw [Document.accepts.eq_def] at accepts
    split at accepts
    · next impossible => cases impossible
    · cases describes
    · next same =>
      obtain rfl := Nat.succ.inj same
      obtain ⟨left, right⟩ := Bool.and_eq_true_iff.mp accepts
      rcases describes with describes | describes
      · exact (ih left describes).mono (by omega)
      · exact (ih right describes).mono (by omega)
    · next same _ _ =>
      obtain rfl := Nat.succ.inj same
      refine hosts.accepts_of_rules (fun _ _ accepts _ => ih accepts) (fun rule member => ?_) (fun flag shape => ?_) describes
      · unfold Node.rules at member
        split at accepts
        · next shape =>
          rw [shape] at member
          cases member
        · next rules shape =>
          rw [shape] at member
          exact List.all_eq_true.mp accepts rule member
      · rw [shape] at accepts
        exact accepts

end Run

end JsonSchema
