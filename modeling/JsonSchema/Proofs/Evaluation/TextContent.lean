import JsonSchema.Proofs.Evaluation.Conditionals

/-! # The content of texts

Three keywords share the way from a text to the value it holds: the encoding decodes the text to bytes, the media type
reads a value from the bytes, and a sub-schema is applied to this value. Each of them goes the way by itself as far as
its rules and the known encodings and media types lead. The first stage that fails is blamed and no other one, provided
that errors tell whether they stem from an encoding (`ContentTypes.TellApart`); what is unknown is not blamed
(`Schema.content_blamed`).
-/

namespace JsonSchema

/-- The keywords about the content of texts. -/
def contentKeywords : List StandardKeyword := [.contentEncoding, .contentMediaType, .contentSchema]

theorem standard_mem_of_mem_contentKeywords :
    ∀ keyword ∈ contentKeywords, KeywordSpec.standard keyword ∈ Draft.dialect.keywords := by
  rw [Draft.keywords_eq]
  decide +kernel

instance (object : Trace) (keyword : StandardKeyword) : Decidable (object.Succeeds keyword) :=
  inferInstanceAs (Decidable (∀ step ∈ object.stepsOf keyword, step.isValid = true))

/-! ## Encodings and media types -/

namespace ContentTypes

/-- Whether encodings report errors of encodings only, and media types none of them. -/
structure TellApart (types : ContentTypes) : Prop where
  encoding : ∀ name decode text cause, types.encoding? name = some decode → decode text = .error cause →
    ∃ message, cause = .encoding message
  mediaType : ∀ name read bytes message, types.mediaType? name = some read → read bytes ≠ .error (.encoding message)

variable {types : ContentTypes} {name : String}

/-- One more encoding that reports errors of encodings only. -/
theorem TellApart.addEncoding (apart : types.TellApart) {encoding : ContentEncoding}
    (reports : ∀ text cause, encoding text = .error cause → ∃ message, cause = .encoding message) :
    (types.addEncoding name encoding).TellApart := by
  refine ⟨fun other decode text cause known fails => ?_, apart.mediaType⟩
  by_cases same : name = other
  · subst same
    obtain rfl := Option.some.inj ((Json.assoc?_insertMember_self _ _ _).symm.trans known)
    exact reports text cause fails
  · have unchanged := Json.assoc?_insertMember_of_ne (Ne.symm same) encoding types.encodings
    exact apart.encoding other decode text cause (unchanged.symm.trans known) fails

/-- One more media type that reports no errors of encodings. -/
theorem TellApart.addMediaType (apart : types.TellApart) {mediaType : MediaType}
    (reports : ∀ bytes message, mediaType bytes ≠ .error (.encoding message)) :
    (types.addMediaType name mediaType).TellApart := by
  refine ⟨apart.encoding, fun other read bytes message known => ?_⟩
  by_cases same : name = other
  · subst same
    obtain rfl := Option.some.inj ((Json.assoc?_insertMember_self _ _ _).symm.trans known)
    exact reports bytes message
  · have unchanged := Json.assoc?_insertMember_of_ne (Ne.symm same) mediaType types.mediaTypes
    exact apart.mediaType other read bytes message (unchanged.symm.trans known)

theorem tellApart_empty : empty.TellApart := ⟨nofun, nofun⟩

theorem tellApart_standard : standard.TellApart := by
  have encodings : (empty.addEncoding "base64" Content.base64).TellApart := by
    refine tellApart_empty.addEncoding fun text cause fails => ?_
    rw [Content.base64] at fails
    cases decoded : Base64.decode (Utf8.bytes text) <;> rw [decoded] at fails <;> cases fails
    exact ⟨_, rfl⟩
  have mediaTypes (bytes : List UInt8) (message : String) : Content.json bytes ≠ .error (.encoding message) := by
    intro fails
    rw [Content.json, Content.text] at fails
    cases decoded : Utf8.decode bytes with
    | error cause =>
      rw [decoded] at fails
      cases fails
    | ok text =>
      rw [decoded] at fails
      cases made : Json.read text <;> simp [Except.mapError, bind, Except.bind, made] at fails
  exact encodings.addMediaType mediaTypes

end ContentTypes

/-! ## From a text to the value it holds -/

/-- A schema object of the draft has one rule of a keyword at most. -/
theorem Node.IsDrafted.eq_of_standard? {node : Node} (drafted : node.IsDrafted) {keyword : StandardKeyword}
    (registered : .standard keyword ∈ Draft.dialect.keywords) {rule other : Rule} (member : rule ∈ node.rules)
    (memberOther : other ∈ node.rules) (means : rule.standard? = some keyword)
    (meansOther : other.standard? = some keyword) : rule = other :=
  Option.some.inj (((drafted.rule?_eq_some_iff registered).mpr ⟨member, means⟩).symm.trans
    ((drafted.rule?_eq_some_iff registered).mpr ⟨memberOther, meansOther⟩))

theorem Node.IsDrafted.contentEncoding_unique {node : Node} (drafted : node.IsDrafted) {name other : String}
    (member : .contentEncoding name ∈ node.rules) (memberOther : .contentEncoding other ∈ node.rules) : name = other :=
  Rule.contentEncoding.inj (drafted.eq_of_standard? (standard_mem_of_mem_contentKeywords _ (by decide))
    member memberOther rfl rfl)

theorem Node.IsDrafted.contentMediaType_unique {node : Node} (drafted : node.IsDrafted) {name other : String}
    (member : .contentMediaType name ∈ node.rules) (memberOther : .contentMediaType other ∈ node.rules) :
    name = other :=
  Rule.contentMediaType.inj (drafted.eq_of_standard? (standard_mem_of_mem_contentKeywords _ (by decide))
    member memberOther rfl rfl)

/-- What the rule of a keyword about content looks like. -/
def Rule.ContentForms (rule : Rule) : StandardKeyword → Prop
  | .contentEncoding => ∃ name, rule = .contentEncoding name
  | .contentMediaType => ∃ name, rule = .contentMediaType name
  | .contentSchema => ∃ schema, rule = .contentSchema schema
  | _ => True

theorem Rule.contentForms_of_standard? {rule : Rule} {keyword : StandardKeyword}
    (means : rule.standard? = some keyword) : rule.ContentForms keyword := by
  cases rule with
  | branch truth schema => cases truth <;> cases means <;> trivial
  | assertion check => cases check <;> cases means <;> trivial
  | format name asserted => cases asserted <;> cases means <;> trivial
  | unknown name value => cases means
  | _ =>
    cases means
    first | exact ⟨_, rfl⟩ | trivial

namespace Node

variable (node : Node) (types : ContentTypes) (text : String)

/-- Whether a text stands for bytes: for its own ones unless the schema object names an encoding, else for those that
this encoding decodes it to. -/
inductive Decodes : List UInt8 → Prop where
  | plain (absent : ¬ node.HasRule .contentEncoding) : Decodes (Utf8.bytes text)
  | encoded {name : String} {decode : ContentEncoding} {bytes : List UInt8}
      (member : .contentEncoding name ∈ node.rules) (known : types.encoding? name = some decode)
      (decodes : decode text = .ok bytes) : Decodes bytes

/-- Whether the encoding that the schema object names does not decode a text. -/
def IsMisencoded : Prop :=
  ∃ name decode cause, .contentEncoding name ∈ node.rules ∧ types.encoding? name = some decode ∧
    decode text = .error cause

/-- Whether a text holds a value of the media type that the schema object names. -/
def Holds (content : Json) : Prop :=
  ∃ name read bytes, .contentMediaType name ∈ node.rules ∧ types.mediaType? name = some read ∧
    node.Decodes types text bytes ∧ read bytes = .ok content

/-- Whether a text stands for bytes that hold no value of the media type that the schema object names. -/
def IsMistyped : Prop :=
  ∃ name read bytes cause, .contentMediaType name ∈ node.rules ∧ types.mediaType? name = some read ∧
    node.Decodes types text bytes ∧ read bytes = .error cause

/-- The bytes that a text stands for, if there is no unknown encoding in the way. -/
def bytes? : Option (Except ContentError (List UInt8)) :=
  match node.rule? StandardKeyword.contentEncoding.name with
  | some (.contentEncoding name) => (types.encoding? name).map (· text)
  | _ => some (.ok (Utf8.bytes text))

variable {node types text}

theorem exists_message_of_bytes? (apart : types.TellApart) {cause : ContentError}
    (fails : node.bytes? types text = some (.error cause)) : ∃ message, cause = .encoding message := by
  rw [bytes?] at fails
  split at fails
  · next name known =>
    obtain ⟨decode, known, fails⟩ := Option.map_eq_some_iff.mp fails
    exact apart.encoding name decode text cause known fails
  · cases fails

variable (drafted : node.IsDrafted)

include drafted

theorem bytes?_of_mem {name : String} (member : .contentEncoding name ∈ node.rules) :
    node.bytes? types text = (types.encoding? name).map (· text) := by
  rw [bytes?, (drafted.rule?_eq_some_iff (standard_mem_of_mem_contentKeywords _ (by decide))).mpr ⟨member, rfl⟩]

theorem bytes?_of_not_hasRule (absent : ¬ node.HasRule .contentEncoding) :
    node.bytes? types text = some (.ok (Utf8.bytes text)) := by
  rw [bytes?]
  split
  · next name known =>
    exact absurd ((drafted.rule?_eq_some_iff (standard_mem_of_mem_contentKeywords _ (by decide))).mp known) fun both =>
      absent ⟨_, both⟩
  · rfl

theorem bytes?_eq_ok_iff {bytes : List UInt8} :
    node.bytes? types text = some (.ok bytes) ↔ node.Decodes types text bytes := by
  by_cases present : node.HasRule .contentEncoding
  · obtain ⟨rule, member, means⟩ := present
    obtain ⟨name, rfl⟩ := Rule.contentForms_of_standard? means
    rw [bytes?_of_mem drafted member, Option.map_eq_some_iff]
    constructor
    · rintro ⟨decode, known, decodes⟩
      exact .encoded member known decodes
    · rintro (absent | ⟨other, known, decodes⟩)
      · exact absurd ⟨_, member, means⟩ absent
      · obtain rfl := drafted.contentEncoding_unique member other
        exact ⟨_, known, decodes⟩
  · rw [bytes?_of_not_hasRule drafted present, Option.some.injEq, Except.ok.injEq]
    constructor
    · rintro rfl
      exact .plain present
    · rintro (absent | ⟨member, known, decodes⟩)
      · rfl
      · exact absurd ⟨_, member, rfl⟩ present

theorem exists_bytes?_eq_error_iff :
    (∃ cause, node.bytes? types text = some (.error cause)) ↔ node.IsMisencoded types text := by
  by_cases present : node.HasRule .contentEncoding
  · obtain ⟨rule, member, means⟩ := present
    obtain ⟨name, rfl⟩ := Rule.contentForms_of_standard? means
    simp only [bytes?_of_mem drafted member, Option.map_eq_some_iff]
    constructor
    · rintro ⟨cause, decode, known, fails⟩
      exact ⟨name, decode, cause, member, known, fails⟩
    · rintro ⟨other, decode, cause, memberOther, known, fails⟩
      obtain rfl := drafted.contentEncoding_unique member memberOther
      exact ⟨cause, decode, known, fails⟩
  · simp only [bytes?_of_not_hasRule drafted present]
    exact iff_of_false nofun fun ⟨name, decode, cause, member, _⟩ => present ⟨_, member, rfl⟩

theorem Decodes.not_isMisencoded {bytes : List UInt8} (decodes : node.Decodes types text bytes) :
    ¬ node.IsMisencoded types text := by
  intro fails
  obtain ⟨cause, found⟩ := (exists_bytes?_eq_error_iff drafted).mpr fails
  cases found.symm.trans ((bytes?_eq_ok_iff drafted).mpr decodes)

theorem Holds.not_isMisencoded {content : Json} (holds : node.Holds types text content) :
    ¬ node.IsMisencoded types text := by
  obtain ⟨name, read, bytes, member, known, decodes, made⟩ := holds
  exact decodes.not_isMisencoded drafted

theorem IsMistyped.not_isMisencoded (fails : node.IsMistyped types text) : ¬ node.IsMisencoded types text := by
  obtain ⟨name, read, bytes, cause, member, known, decodes, fails⟩ := fails
  exact decodes.not_isMisencoded drafted

theorem Holds.not_isMistyped {content : Json} (holds : node.Holds types text content) :
    ¬ node.IsMistyped types text := by
  obtain ⟨name, read, bytes, member, known, decodes, made⟩ := holds
  rintro ⟨other, readOther, bytesOther, cause, memberOther, knownOther, decodesOther, fails⟩
  obtain rfl := drafted.contentMediaType_unique member memberOther
  obtain rfl := Option.some.inj (known.symm.trans knownOther)
  obtain rfl := Except.ok.inj (Option.some.inj (((bytes?_eq_ok_iff drafted).mpr decodes).symm.trans
    ((bytes?_eq_ok_iff drafted).mpr decodesOther)))
  cases made.symm.trans fails

/-- A text in an unknown encoding does not stand for bytes, and there is no saying that it is not encoded as it should
be. -/
theorem not_decodes_of_unknown {name : String} (member : .contentEncoding name ∈ node.rules)
    (unknown : types.encoding? name = none) :
    ¬ node.IsMisencoded types text ∧ ∀ bytes, ¬ node.Decodes types text bytes := by
  have none : node.bytes? types text = none := by rw [bytes?_of_mem drafted member, unknown, Option.map_none]
  constructor
  · intro fails
    obtain ⟨cause, found⟩ := (exists_bytes?_eq_error_iff drafted).mpr fails
    cases none.symm.trans found
  · intro bytes decodes
    cases none.symm.trans ((bytes?_eq_ok_iff drafted).mpr decodes)

/-- There is no reading bytes of an unknown media type. -/
theorem not_holds_of_unknown {name : String} (member : .contentMediaType name ∈ node.rules)
    (unknown : types.mediaType? name = none) :
    ¬ node.IsMistyped types text ∧ ∀ content, ¬ node.Holds types text content := by
  have foreign {other : String} {read : MediaType} (memberOther : .contentMediaType other ∈ node.rules)
      (known : types.mediaType? other = some read) : False := by
    obtain rfl := drafted.contentMediaType_unique member memberOther
    cases unknown.symm.trans known
  constructor
  · rintro ⟨other, read, bytes, cause, memberOther, known, -⟩
    exact foreign memberOther known
  · rintro content ⟨other, read, bytes, memberOther, known, -⟩
    exact foreign memberOther known

end Node

/-! ## What the rules do -/

namespace Facts

variable {facts : Facts} {name text : String}

theorem content?_eq_some_iff {found : Except ContentError Json} :
    facts.content? name text = some found ↔ ∃ read decoded, facts.options.contentTypes.mediaType? name = some read ∧
      facts.node.bytes? facts.options.contentTypes text = some decoded ∧ decoded >>= read = found := by
  have stages : facts.content? name text = (facts.options.contentTypes.mediaType? name).bind fun read =>
      (facts.node.bytes? facts.options.contentTypes text).map (· >>= read) := by
    rw [content?, rule?, Node.bytes?]
    refine Option.bind_congr fun read _ => ?_
    rcases facts.node.rule? StandardKeyword.contentEncoding.name with - | rule
    · rfl
    · cases rule with
      | contentEncoding encoding =>
        dsimp only
        cases facts.options.contentTypes.encoding? encoding <;> rfl
      | _ => rfl
  rw [stages]
  simp [Option.bind_eq_some_iff]

section Content

variable (drafted : facts.node.IsDrafted)

include drafted

theorem content?_eq_ok_iff (member : .contentMediaType name ∈ facts.node.rules) {content : Json} :
    facts.content? name text = some (.ok content) ↔ facts.node.Holds facts.options.contentTypes text content := by
  rw [content?_eq_some_iff]
  constructor
  · rintro ⟨read, decoded, known, reached, same⟩
    cases decoded with
    | error cause => cases same
    | ok bytes => exact ⟨name, read, bytes, member, known, (Node.bytes?_eq_ok_iff drafted).mp reached, same⟩
  · rintro ⟨other, read, bytes, memberOther, known, decodes, same⟩
    obtain rfl := drafted.contentMediaType_unique member memberOther
    exact ⟨read, .ok bytes, known, (Node.bytes?_eq_ok_iff drafted).mpr decodes, same⟩

/-- If errors tell whether they stem from an encoding, those that do not are those of reading bytes. -/
theorem exists_content?_eq_error_iff (member : .contentMediaType name ∈ facts.node.rules)
    (apart : facts.options.contentTypes.TellApart) :
    (∃ cause, facts.content? name text = some (.error cause) ∧ ∀ message, cause ≠ .encoding message) ↔
      facts.node.IsMistyped facts.options.contentTypes text := by
  simp only [content?_eq_some_iff]
  constructor
  · rintro ⟨cause, ⟨read, decoded, known, reached, same⟩, other⟩
    cases decoded with
    | error found =>
      obtain rfl := Except.error.inj same
      obtain ⟨message, rfl⟩ := Node.exists_message_of_bytes? apart reached
      exact absurd rfl (other message)
    | ok bytes => exact ⟨name, read, bytes, cause, member, known, (Node.bytes?_eq_ok_iff drafted).mp reached, same⟩
  · rintro ⟨other, read, bytes, cause, memberOther, known, decodes, fails⟩
    obtain rfl := drafted.contentMediaType_unique member memberOther
    refine ⟨cause, ⟨read, .ok bytes, known, (Node.bytes?_eq_ok_iff drafted).mpr decodes, fails⟩, ?_⟩
    rintro message rfl
    exact apart.mediaType name read bytes message known fails

end Content

variable (asserted : facts.options.assertContent = true)

include asserted

theorem isValid_checkEncoding_eq_false_iff : (facts.checkEncoding name (.string text)).isValid = false ↔
    ∃ cause, (facts.options.contentTypes.encoding? name).map (· text) = some (.error cause) := by
  simp only [checkEncoding, asserted]
  cases facts.options.contentTypes.encoding? name with
  | none => simp [Outcome.isValid]
  | some decode => cases decoded : decode text <;> simp [Outcome.isValid, Outcome.fail, decoded]

/-- An error of an encoding is not reported for the media type. -/
theorem isValid_checkMediaType_eq_false_iff : (facts.checkMediaType name (.string text)).isValid = false ↔
    ∃ cause, facts.content? name text = some (.error cause) ∧ ∀ message, cause ≠ .encoding message := by
  simp only [checkMediaType, asserted]
  rcases facts.content? name text with - | cause | content
  · simp [Outcome.isValid]
  · cases cause <;> simp [Outcome.isValid, Outcome.fail]
  · simp [Outcome.isValid]

theorem planContentSchema_of_holds (drafted : facts.node.IsDrafted) {content : Json}
    (holds : facts.node.Holds facts.options.contentTypes text content) (schema : Nat) :
    facts.planContentSchema schema (.string text) =
      { applications := [facts.applyIsolated schema content none]
        conclude := fun outcomes => if outcomes.all (·.isValid) then .annotated (facts.document.node schema).value
          else .fail "Content must match 'contentSchema'" } := by
  obtain ⟨name, -, -, member, -⟩ := id holds
  have ruled : facts.rule? .contentMediaType = some (.contentMediaType name) :=
    (drafted.rule?_eq_some_iff (standard_mem_of_mem_contentKeywords _ (by decide))).mpr ⟨member, rfl⟩
  simp only [planContentSchema, asserted, ruled, (content?_eq_ok_iff drafted member).mpr holds]

theorem planContentSchema_of_not_holds (drafted : facts.node.IsDrafted)
    (empty : ∀ content, ¬ facts.node.Holds facts.options.contentTypes text content) (schema : Nat) :
    facts.planContentSchema schema (.string text) = .done (.annotated (facts.document.node schema).value) := by
  simp only [planContentSchema, asserted]
  split
  · next other name same _ ruled =>
    obtain ⟨member, -⟩ := (drafted.rule?_eq_some_iff (standard_mem_of_mem_contentKeywords _ (by decide))).mp ruled
    obtain rfl := Json.string.inj same
    split
    · next content found => exact absurd ((content?_eq_ok_iff drafted member).mp found) (empty content)
    · rfl
  · rfl

end Facts

/-- Of values that are no texts, and unless content is to be checked, the keywords only attach something. -/
theorem Rule.plan_of_idle {rule : Rule} {keyword : StandardKeyword} (means : rule.standard? = some keyword)
    (content : keyword ∈ contentKeywords) {facts : Facts} {value : Json}
    (idle : (∀ text, value ≠ .string text) ∨ facts.options.assertContent = false) (target : Option Target) :
    ∃ attached, rule.plan facts target value = .done (.annotated attached) := by
  have forms := rule.contentForms_of_standard? means
  rw [contentKeywords, List.mem_cons, List.mem_cons, List.mem_singleton] at content
  rcases content with rfl | rfl | rfl <;> obtain ⟨own, rfl⟩ := forms
  on_goal 1 => refine ⟨.string own, ?_⟩
  on_goal 2 => refine ⟨.string own, ?_⟩
  on_goal 3 => refine ⟨(facts.document.node own).value, ?_⟩
  all_goals
    rcases idle with other | disabled
    · cases value with
      | string text => exact absurd rfl (other text)
      | _ => rfl
    · cases value <;> simp [Rule.plan, Facts.checkEncoding, Facts.checkMediaType, Facts.planContentSchema, disabled]

/-! ## What the steps do -/

namespace Run.Traces

variable {run : Run} {active : List ActiveResource} {application : Application} {steps : List Step} {scope : Scope}
  {object : Trace} (traces : run.Traces active application steps scope object) (drafted : application.node.IsDrafted)

include traces drafted

section Asserted

variable {text : String} (holds : application.value = .string text) (asserted : run.options.assertContent = true)

include holds asserted

theorem contentEncoding_fails_iff :
    ¬ object.Succeeds .contentEncoding ↔ application.node.IsMisencoded run.options.contentTypes text := by
  rcases traces.stepsOf_cases drafted .contentEncoding (by decide) with ⟨step, inside, means, single⟩ | ⟨absent, none⟩
  · obtain ⟨name, ruled⟩ := Rule.contentForms_of_standard? means
    obtain ⟨before, after, -, performs⟩ := traces.carried.performs_of_mem inside
    have member := ruled ▸ traces.rule_mem inside
    rw [Trace.succeeds_of_singleton single, Step.isValid_trace, Step.isValid, Step.outcome, Step.plan, ruled,
      performs.value_eq, holds, performs.facts_eq, ← Node.exists_bytes?_eq_error_iff drafted,
      Node.bytes?_of_mem drafted member, Bool.not_eq_true]
    exact Facts.isValid_checkEncoding_eq_false_iff asserted
  · refine iff_of_false (not_not_intro (Trace.succeeds_of_nil none)) ?_
    rintro ⟨name, decode, cause, member, -⟩
    exact absent ⟨_, member, rfl⟩

theorem contentMediaType_fails_iff (apart : run.options.contentTypes.TellApart) :
    ¬ object.Succeeds .contentMediaType ↔ application.node.IsMistyped run.options.contentTypes text := by
  rcases traces.stepsOf_cases drafted .contentMediaType (by decide) with ⟨step, inside, means, single⟩ | ⟨absent, none⟩
  · obtain ⟨name, ruled⟩ := Rule.contentForms_of_standard? means
    obtain ⟨before, after, -, performs⟩ := traces.carried.performs_of_mem inside
    have member := ruled ▸ traces.rule_mem inside
    rw [Trace.succeeds_of_singleton single, Step.isValid_trace, Step.isValid, Step.outcome, Step.plan, ruled,
      performs.value_eq, holds, performs.facts_eq, Bool.not_eq_true]
    exact (Facts.isValid_checkMediaType_eq_false_iff asserted).trans
      (Facts.exists_content?_eq_error_iff drafted member apart)
  · refine iff_of_false (not_not_intro (Trace.succeeds_of_nil none)) ?_
    rintro ⟨name, read, bytes, cause, member, -⟩
    exact absent ⟨_, member, rfl⟩

theorem plan_of_holds {step : Step} (inside : step ∈ steps) {subschema : Nat}
    (ruled : step.rule = .contentSchema subschema) {content : Json}
    (found : application.node.Holds run.options.contentTypes text content) :
    step.plan =
      { applications := [⟨⟨application.target.document, subschema⟩, content, none, none, true⟩]
        conclude := fun outcomes =>
          if outcomes.all (·.isValid) then .annotated (application.target.document.node subschema).value
          else .fail "Content must match 'contentSchema'" } := by
  obtain ⟨before, after, -, performs⟩ := traces.carried.performs_of_mem inside
  rw [Step.plan, ruled, performs.value_eq, holds, performs.facts_eq]
  exact Facts.planContentSchema_of_holds asserted drafted found subschema

theorem plan_of_not_holds {step : Step} (inside : step ∈ steps) {subschema : Nat}
    (ruled : step.rule = .contentSchema subschema)
    (empty : ∀ content, ¬ application.node.Holds run.options.contentTypes text content) :
    step.plan = .done (.annotated (application.target.document.node subschema).value) := by
  obtain ⟨before, after, -, performs⟩ := traces.carried.performs_of_mem inside
  rw [Step.plan, ruled, performs.value_eq, holds, performs.facts_eq]
  exact Facts.planContentSchema_of_not_holds asserted drafted empty subschema

/-- `contentSchema` applies its sub-schema to the value that the text holds. -/
theorem contentSchema_applied {subschema : Nat} (member : .contentSchema subschema ∈ application.node.rules)
    {content : Json} (found : application.node.Holds run.options.contentTypes text content) :
    (object.appliedBy .contentSchema).map (·.subject) =
      [.application ⟨⟨application.target.document, subschema⟩, content, none, none, true⟩] := by
  obtain ⟨step, inside, ruled⟩ := traces.exists_step member rfl (by decide)
  rw [Trace.appliedBy_of_singleton (traces.stepsOf_eq drafted inside (ruled ▸ rfl)), traces.subjects_trace inside,
    traces.plan_of_holds drafted holds asserted inside ruled found]
  rfl

/-- `contentSchema` applies nothing if the text holds no value, whether or not it has a rule. -/
theorem contentSchema_idle (empty : ∀ content, ¬ application.node.Holds run.options.contentTypes text content) :
    object.appliedBy .contentSchema = [] := by
  rcases traces.stepsOf_cases drafted .contentSchema (by decide) with ⟨step, inside, means, single⟩ | ⟨absent, none⟩
  · obtain ⟨subschema, ruled⟩ := Rule.contentForms_of_standard? means
    rw [← List.map_eq_nil_iff (f := (·.subject)), Trace.appliedBy_of_singleton single, traces.subjects_trace inside,
      traces.plan_of_not_holds drafted holds asserted inside ruled empty]
    rfl
  · exact Trace.appliedBy_of_nil none

/-- `contentSchema` fails just if the value that the text holds is found not to be valid. -/
theorem contentSchema_fails_iff : ¬ object.Succeeds .contentSchema ↔
    (∃ content, application.node.Holds run.options.contentTypes text content) ∧
      object.verdict? .contentSchema = some false := by
  rcases traces.stepsOf_cases drafted .contentSchema (by decide) with ⟨step, inside, means, single⟩ | ⟨absent, none⟩
  · obtain ⟨subschema, ruled⟩ := Rule.contentForms_of_standard? means
    rw [Trace.succeeds_of_singleton single, Step.isValid_trace, Step.isValid, Step.outcome]
    by_cases found : ∃ content, application.node.Holds run.options.contentTypes text content
    · obtain ⟨content, found⟩ := found
      obtain ⟨before, after, -, performs⟩ := traces.carried.performs_of_mem inside
      have plan := traces.plan_of_holds drafted holds asserted inside ruled found
      obtain ⟨result, results, below⟩ := performs.exists_single (by rw [plan]) scope
      rw [and_iff_right ⟨content, found⟩, Trace.verdict?_of_singleton single below, plan, results]
      change ¬ (if result.2.trace.isValid && true then _ else _ : Outcome).isValid = true ↔ _
      cases result.2.trace.isValid with
      | true => exact iff_of_false (not_not_intro rfl) (by decide)
      | false => exact iff_of_true Bool.false_ne_true rfl
    · rw [traces.plan_of_not_holds drafted holds asserted inside ruled (not_exists.mp found)]
      exact iff_of_false (not_not_intro rfl) fun both => found both.1
  · refine iff_of_false (not_not_intro (Trace.succeeds_of_nil none)) fun both => ?_
    rw [Trace.verdict?, Trace.appliedBy_of_nil none] at both
    cases both.2

/-- Each failure tells how far the text leads, and no two of them tell the same. -/
theorem content_fails_once (apart : run.options.contentTypes.TellApart) :
    contentKeywords.Pairwise fun keyword other => object.Succeeds keyword ∨ object.Succeeds other := by
  have encoding := traces.contentEncoding_fails_iff drafted holds asserted
  have mediaType := traces.contentMediaType_fails_iff drafted holds asserted apart
  have schema := traces.contentSchema_fails_iff drafted holds asserted
  simp only [contentKeywords, List.pairwise_cons, List.mem_cons, List.not_mem_nil, or_false, forall_eq_or_imp,
    forall_eq, IsEmpty.forall_iff, implies_true, List.Pairwise.nil, and_true]
  refine ⟨⟨?_, ?_⟩, ?_⟩ <;> by_contra! fails
  · exact (mediaType.mp fails.2).not_isMisencoded drafted (encoding.mp fails.1)
  · obtain ⟨⟨content, found⟩, -⟩ := schema.mp fails.2
    exact found.not_isMisencoded drafted (encoding.mp fails.1)
  · obtain ⟨⟨content, found⟩, -⟩ := schema.mp fails.2
    exact found.not_isMistyped drafted (mediaType.mp fails.1)

theorem content_succeeds_of_unknown_encoding (apart : run.options.contentTypes.TellApart) {name : String}
    (member : .contentEncoding name ∈ application.node.rules)
    (unknown : run.options.contentTypes.encoding? name = none) :
    ∀ keyword ∈ contentKeywords, object.Succeeds keyword := by
  obtain ⟨encoded, undecoded⟩ := Node.not_decodes_of_unknown drafted member unknown
  simp only [contentKeywords, List.forall_mem_cons, List.not_mem_nil, IsEmpty.forall_iff, implies_true, and_true]
  refine ⟨?_, ?_, ?_⟩ <;> by_contra fails
  · exact encoded ((traces.contentEncoding_fails_iff drafted holds asserted).mp fails)
  · obtain ⟨other, read, bytes, cause, -, -, decodes, -⟩ :=
      (traces.contentMediaType_fails_iff drafted holds asserted apart).mp fails
    exact undecoded bytes decodes
  · obtain ⟨⟨content, other, read, bytes, -, -, decodes, -⟩, -⟩ :=
      (traces.contentSchema_fails_iff drafted holds asserted).mp fails
    exact undecoded bytes decodes

theorem content_succeeds_of_unknown_mediaType (apart : run.options.contentTypes.TellApart) {name : String}
    (member : .contentMediaType name ∈ application.node.rules)
    (unknown : run.options.contentTypes.mediaType? name = none) :
    object.Succeeds .contentMediaType ∧ object.Succeeds .contentSchema := by
  obtain ⟨typed, empty⟩ := Node.not_holds_of_unknown drafted member unknown
  refine ⟨?_, ?_⟩ <;> by_contra fails
  · exact typed ((traces.contentMediaType_fails_iff drafted holds asserted apart).mp fails)
  · obtain ⟨⟨content, found⟩, -⟩ := (traces.contentSchema_fails_iff drafted holds asserted).mp fails
    exact empty content found

end Asserted

theorem content_succeeds (idle : (∀ text, application.value ≠ .string text) ∨ run.options.assertContent = false) :
    ∀ keyword ∈ contentKeywords, object.Succeeds keyword := by
  intro keyword content
  rcases traces.stepsOf_cases drafted keyword (by revert keyword; decide) with ⟨step, inside, means, single⟩ | ⟨-, none⟩
  · obtain ⟨before, after, -, performs⟩ := traces.carried.performs_of_mem inside
    have options_eq : step.facts.options = run.options := by rw [performs.facts_eq]
    obtain ⟨attached, plan⟩ := Rule.plan_of_idle means content (options_eq ▸ performs.value_eq ▸ idle) step.target
    rw [Trace.succeeds_of_singleton single, Step.isValid_trace, Step.isValid, Step.outcome, Step.plan, plan]
    rfl
  · exact Trace.succeeds_of_nil none

end Run.Traces

/-! ## The keywords together -/

/-- What the keywords about content do with a text, given the trace of a schema object. -/
structure Trace.ChecksContent (object : Trace) (application : Application) (types : ContentTypes) (text : String) :
    Prop where
  encoding_fails_iff : ¬ object.Succeeds .contentEncoding ↔ application.node.IsMisencoded types text
  mediaType_fails_iff : types.TellApart →
    (¬ object.Succeeds .contentMediaType ↔ application.node.IsMistyped types text)
  /-- The sub-schema is applied to the value that the text holds, and to nothing if there is none. -/
  schema_applied : ∀ subschema content, .contentSchema subschema ∈ application.node.rules →
    application.node.Holds types text content → (object.appliedBy .contentSchema).map (·.subject) =
      [.application ⟨⟨application.target.document, subschema⟩, content, none, none, true⟩]
  schema_idle : (∀ content, ¬ application.node.Holds types text content) → object.appliedBy .contentSchema = []
  schema_fails_iff : ¬ object.Succeeds .contentSchema ↔
    (∃ content, application.node.Holds types text content) ∧ object.verdict? .contentSchema = some false
  fails_once : types.TellApart →
    contentKeywords.Pairwise fun keyword other => object.Succeeds keyword ∨ object.Succeeds other
  unknown_encoding : types.TellApart → ∀ name, .contentEncoding name ∈ application.node.rules →
    types.encoding? name = none → ∀ keyword ∈ contentKeywords, object.Succeeds keyword
  unknown_mediaType : types.TellApart → ∀ name, .contentMediaType name ∈ application.node.rules →
    types.mediaType? name = none → object.Succeeds .contentMediaType ∧ object.Succeeds .contentSchema

theorem Run.Traces.checksContent {run : Run} {active : List ActiveResource} {application : Application}
    {steps : List Step} {scope : Scope} {object : Trace} (traces : run.Traces active application steps scope object)
    (drafted : application.node.IsDrafted) {text : String} (holds : application.value = .string text)
    (asserted : run.options.assertContent = true) :
    object.ChecksContent application run.options.contentTypes text where
  encoding_fails_iff := traces.contentEncoding_fails_iff drafted holds asserted
  mediaType_fails_iff := traces.contentMediaType_fails_iff drafted holds asserted
  schema_applied _ _ member := traces.contentSchema_applied drafted holds asserted member
  schema_idle := traces.contentSchema_idle drafted holds asserted
  schema_fails_iff := traces.contentSchema_fails_iff drafted holds asserted
  fails_once := traces.content_fails_once drafted holds asserted
  unknown_encoding apart _ := traces.content_succeeds_of_unknown_encoding drafted holds asserted apart
  unknown_mediaType apart _ := traces.content_succeeds_of_unknown_mediaType drafted holds asserted apart

/-- If content is to be checked, the keywords about it blame the first stage on the way from a text to the value it
holds that fails, and no other; if none fails, the sub-schema is applied to the value and blamed if it finds the value
not to be valid in this evaluation. What is unknown is not blamed. Of values that are no texts, and unless content is to
be checked, the keywords say nothing. -/
theorem Schema.content_blamed (schema : Schema) (options : Options) (value : Json) (dialects : DialectCache)
    {object : Trace} (part : object ∈ (schema.trace options value dialects).1.parts) (branch : object.isBranch = true)
    {application : Application} (applied : object.subject = .application application)
    (drafted : application.node.IsDrafted) :
    object.CarriesOut application.node ∧
      (∀ text, application.value = .string text → options.assertContent = true →
        object.ChecksContent application options.contentTypes text) ∧
      ((∀ text, application.value ≠ .string text) ∨ options.assertContent = false →
        ∀ keyword ∈ contentKeywords, object.Succeeds keyword) := by
  obtain ⟨path, result, yields, rfl⟩ := (Run.yields_evaluate ⟨options, schema⟩ value ⟨[], dialects⟩).part part applied
  obtain ⟨active, steps, scope, traces⟩ := yields.traces branch
  exact ⟨traces.carriesOut, fun text holds asserted => traces.checksContent drafted holds asserted,
    traces.content_succeeds drafted⟩

/-- A text that is well encoded and holds an integer is blamed only for not holding a string. -/
theorem Schema.content_blamed_type :
    ∃ schema, (compile .standard (Draft.url "example") (.object [
        ("contentEncoding", .string "base64"), ("contentMediaType", .string "application/json"),
        ("contentSchema", .object [("type", .string "string")])])).toOption = some schema ∧
      ∃ options application,
        let object := (schema.trace options (.string "Nw==") []).1
        options = { Options.standard with assertContent := true } ∧ options.contentTypes.TellApart ∧
          object ∈ object.parts ∧ object.isBranch = true ∧ object.subject = .application application ∧
          application.node.IsDrafted ∧ application.value = .string "Nw==" ∧
          (∃ content, application.node.Holds options.contentTypes "Nw==" content) ∧
          object.Succeeds .contentEncoding ∧ object.Succeeds .contentMediaType ∧
          object.verdict? .contentSchema = some false ∧ ¬ object.Succeeds .contentSchema := by
  let options : Options := { Options.standard with assertContent := true }
  let value : Json := .string "Nw=="
  let check (schema : Schema) : Bool :=
    let object := (schema.trace options value []).1
    schema.document.hasDistinctNames && (object.isBranch && decide (¬ object.Succeeds .contentSchema))
  refine (Option.map_eq_some_iff.mp (?_ : Option.map check _ = some true)).imp fun schema ⟨compiled, holds⟩ =>
    ⟨compiled, options, .inPlace ⟨schema.document, schema.rootIndex⟩ value none, ?_⟩
  · decide +kernel
  simp only [check, Bool.and_eq_true, decide_eq_true_eq] at holds
  obtain ⟨distinct, branch, fails⟩ := holds
  have subject := schema.subject_trace options value []
  have part := Trace.self_mem_parts (schema.trace options value []).1
  have node := isDrafted_of_compile Options.knowsOnlyDraft_standard compiled distinct schema.rootIndex
  obtain ⟨-, checks, -⟩ := content_blamed schema options value [] part branch subject node
  have checks := checks "Nw==" rfl rfl
  obtain ⟨found, verdict⟩ := checks.schema_fails_iff.mp fails
  have once := checks.fails_once ContentTypes.tellApart_standard
  simp only [contentKeywords, List.pairwise_cons, List.forall_mem_cons] at once
  obtain ⟨⟨-, encoding, -⟩, ⟨mediaType, -⟩, -⟩ := once
  exact ⟨rfl, ContentTypes.tellApart_standard, part, branch, subject, node, rfl, found,
    encoding.resolve_right fails, mediaType.resolve_right fails, verdict, fails⟩

/-- Where an encoding reports that bytes are no text, the media type is blamed for this too. Where the evaluation is cut
off at the sub-schema, the sub-schema is blamed for content that it holds of. -/
theorem Schema.content_blamed_wrongly :
    let encodesText : ContentEncoding := fun text => do
      let bytes ← Content.base64 text
      (Content.text bytes).map fun _ => bytes
    let asserting : Options := { Options.standard with
      contentTypes := ContentTypes.standard.addEncoding "base64-text" encodesText
      assertContent := true }
    let shallow : Options := { asserting with maxDepth := 1 }
    (∀ name read bytes message, asserting.contentTypes.mediaType? name = some read →
        read bytes ≠ .error (.encoding message)) ∧
      (∃ schema, (compile .standard (Draft.url "example") (.object [
          ("contentEncoding", .string "base64-text"),
          ("contentMediaType", .string "application/json")])).toOption = some schema ∧
        let object := (schema.trace asserting (.string "/w==") []).1
        ¬ object.Succeeds .contentEncoding ∧ ¬ object.Succeeds .contentMediaType) ∧
      (Content.json (Utf8.bytes "1")).toOption = some (.ofNat 1) ∧
      (compile .standard (Draft.url "example") (.bool true)).toOption.map (fun schema =>
        (schema.trace shallow (.ofNat 1) []).1.isValid) = some true ∧
      ∃ schema, (compile .standard (Draft.url "example") (.object [
          ("contentMediaType", .string "application/json"), ("contentSchema", .bool true)])).toOption = some schema ∧
        ¬ (schema.trace shallow (.string "1") []).1.Succeeds .contentSchema := by
  refine ⟨ContentTypes.tellApart_standard.mediaType, ?encoding, ?content, ?valid, ?schema⟩
  case encoding =>
    refine (Option.map_eq_some_iff.mp (?_ : Option.map (fun schema => decide _) _ = some true)).imp
      fun schema ⟨compiled, fails⟩ => ⟨compiled, of_decide_eq_true fails⟩
    decide +kernel
  case content => decide +kernel
  case valid => decide +kernel
  case schema =>
    refine (Option.map_eq_some_iff.mp (?_ : Option.map (fun schema => decide _) _ = some true)).imp
      fun schema ⟨compiled, fails⟩ => ⟨compiled, of_decide_eq_true fails⟩
    decide +kernel

end JsonSchema
