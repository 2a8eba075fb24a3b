import JsonSchema.Proofs.Compile.Strictness

/-! # Forms of values

Each standard keyword demands a form of its value, and a value that compiles has it
(`KeywordSite.fits_of_yields_compile`). So the members of a schema that compiles have the forms of their keywords, and
the sub-schemas among them compile in turn (`Site.fits_of_isSchemaWithin`). Which values are schemas is left open
in a form: it says what stands around the sub-schemas of a keyword.
-/

namespace JsonSchema

open Compile Regex

/-- A form of values. -/
inductive Form where
  | anything
  /-- The form of the value of a member that must not be there. -/
  | absent
  | text
  | anchor
  | flag
  | number
  | divisor
  | count
  | typeName
  /-- An array, which may have to hold something, and nothing twice. -/
  | list (occupied distinct : Bool) (items : Form)
  | object (members : Form)
  | either (left right : Form)
  | schema
  /-- A schema object. -/
  | keywords
  deriving DecidableEq

namespace Form

/-- Names, each of them once. -/
def names : Form := .list false true .text

/-- At least one schema. -/
def someSchemas : Form := .list true false .schema

/-- Whether a value has a form, given which values are schemas and which are schema objects. -/
def Fits (isSchema isObject : Json → Prop) : Form → Json → Prop
  | .anything, _ => True
  | .absent, _ => False
  | .text, value => ∃ text, value = .string text
  | .anchor, value => ∃ name, value = .string name ∧ isAnchorName name = true
  | .flag, value => ∃ flag, value = .bool flag
  | .number, value => ∃ n, value = .number n
  | .divisor, value => ∃ n : Number, value = .number n ∧ n.toDouble.compare .zero = .gt
  | .count, value => ∃ n count, value = .number n ∧ n.count? = some count
  | .typeName, value => ∃ type : InstanceType, value = .string type.name
  | .list occupied distinct items, value => ∃ elements, value = .array elements ∧
      (occupied = true → elements ≠ []) ∧ (distinct = true → Json.allDistinct elements = true) ∧
      ∀ element ∈ elements, items.Fits isSchema isObject element
  | .object members, value => ∃ entries, value = .object entries ∧
      ∀ entry ∈ entries, members.Fits isSchema isObject entry.2
  | .either left right, value => left.Fits isSchema isObject value ∨ right.Fits isSchema isObject value
  | .schema, value => isSchema value
  | .keywords, value => isObject value

end Form

/-- The form that a keyword demands of its value. -/
def StandardKeyword.form : StandardKeyword → Form
  | .anchor | .dynamicAnchor => .anchor
  | .vocabulary => .object .flag
  | .id | .schema | .ref | .dynamicRef | .comment | .pattern => .text
  | .format | .formatAssertion | .contentEncoding | .contentMediaType => .text
  | .defs | .properties | .patternProperties | .dependentSchemas => .object .schema
  | .prefixItems | .combination _ => .someSchemas
  | .items | .contains | .additionalProperties | .propertyNames => .schema
  | .condition | .consequence | .alternative | .not => .schema
  | .unevaluatedItems | .unevaluatedProperties | .contentSchema => .schema
  | .type => .either .typeName (.list true true .typeName)
  | .const => .anything
  | .enum => .list false false .anything
  | .multipleOf => .divisor
  | .limit _ => .number
  | .count _ => .count
  | .uniqueItems => .flag
  | .required => .names
  | .dependentRequired => .object .names
  | .description kind =>
    match kind with
    | .title | .description => .text
    | .deprecated | .readOnly | .writeOnly => .flag
    | .examples => .list false false .anything
    | .default => .anything

namespace Draft

/-- The names that no member may have: those that declare ids and dialects, and those of former drafts. -/
def barredNames : List String :=
  ["$id", "$schema", "definitions", "dependencies", "$recursiveAnchor", "$recursiveRef"]

/-- The form of a member's value by its name. -/
def form (name : String) : Form :=
  if barredNames.contains name then .absent
  else match dialect.keyword? name with
    | some (_, spec) => spec.meaning.form
    | none => .anything

/-- Whether a value is a schema object: its members have the forms of their names, given which values are schemas. -/
def IsObject (isSchema : Json → Prop) (value : Json) : Prop :=
  ∃ members, value = .object members ∧ ∀ name item, assoc? name members = some item →
    ∀ isObject, (form name).Fits isSchema isObject item

end Draft

/-- Whether a value has a form, given which values are schemas. -/
def Form.Describes (form : Form) (isSchema : Json → Prop) (value : Json) : Prop :=
  form.Fits isSchema (Draft.IsObject isSchema) value

/-- Whether no object in a value has a member of one of some names. -/
def Json.Lacks (names : List String) (value : Json) : Prop :=
  ∀ members, .object members ∈ value.values → ∀ member ∈ members, member.1 ∉ names

theorem Json.Lacks.part {names : List String} {value inner : Json} {members : List (String × Json)} {name : String}
    (lacks : (Json.object members).Lacks names) (member : (name, value) ∈ members) (part : Json.Part inner value) :
    inner.Lacks names :=
  fun entries inside => lacks entries (Json.values_subset_of_mem member (part.values_subset inside))

/-! ## Reading values -/

namespace Json

theorem allDistinct_map_string {names : List String} (distinct : names.Nodup) :
    allDistinct (names.map .string) = true := by
  induction distinct with
  | nil => rfl
  | @cons name rest others _ ih =>
    rw [List.map_cons, allDistinct, ih, Bool.and_true, List.all_map, List.all_eq_true]
    intro other member
    simpa [equivalent] using others other member

end Json

theorem InstanceType.name_injective : Function.Injective InstanceType.name := by
  intro first second same
  exact Option.some.inj ((ofName?_name first).symm.trans ((congrArg ofName? same).trans (ofName?_name second)))

theorem Except.bind_eq_ok {ε α β : Type} {first : Except ε α} {next : α → Except ε β} {made : β} :
    (first >>= next) = .ok made ↔ ∃ found, first = .ok found ∧ next found = .ok made := by
  constructor
  · intro succeeds
    cases first with
    | error cause => cases succeeds
    | ok found => exact ⟨found, rfl, succeeds⟩
  · rintro ⟨found, rfl, succeeds⟩
    exact succeeds

theorem Except.exists_of_mapM_eq_ok {ε α β : Type} {list : List α} {step : α → Except ε β} {made : List β}
    (succeeds : list.mapM step = .ok made) : ∀ item ∈ list, ∃ found, step item = .ok found := by
  induction list generalizing made with
  | nil => exact fun item none => absurd none List.not_mem_nil
  | cons first rest ih =>
    rw [List.mapM_cons] at succeeds
    obtain ⟨found, ok, others⟩ := bind_eq_ok.mp succeeds
    obtain ⟨more, okRest, -⟩ := bind_eq_ok.mp others
    exact List.forall_mem_cons.mpr ⟨⟨found, ok⟩, ih okRest⟩

theorem Compile.exists_of_yields_mapM {α β : Type} {list : List α} {step : α → Compile β} {before after : Assembly}
    {made : List β} (yields : Yields (list.mapM step) before made after) :
    ∀ item ∈ list, ∃ found start stop, Yields (step item) start found stop := by
  induction list generalizing before after made with
  | nil => exact fun item none => absurd none List.not_mem_nil
  | cons first rest ih =>
    rw [List.mapM_cons] at yields
    obtain ⟨found, between, yieldsFirst, others⟩ := yields_bind.mp yields
    obtain ⟨more, stop, yieldsRest, -⟩ := yields_bind.mp others
    exact List.forall_mem_cons.mpr ⟨⟨found, before, between, yieldsFirst⟩, ih yieldsRest⟩

namespace KeywordSite

variable {place : KeywordSite} {value : Json} {result : Site × Option Rule}

theorem string_eq_ok {text : String} (read : place.string value = .ok text) : value = .string text := by
  cases value with
  | string found => exact congrArg _ (Except.ok.inj read)
  | _ => cases read

theorem boolean_eq_ok {flag : Bool} (read : place.boolean value = .ok flag) : value = .bool flag := by
  cases value with
  | bool found => exact congrArg _ (Except.ok.inj read)
  | _ => cases read

theorem number_eq_ok {n : Number} (read : place.number value = .ok n) : value = .number n := by
  cases value with
  | number found => exact congrArg _ (Except.ok.inj read)
  | _ => cases read

theorem typeName_eq_ok {type : InstanceType} (read : place.typeName value = .ok type) : value = .string type.name := by
  obtain ⟨name, reads, found⟩ := Except.bind_eq_ok.mp read
  obtain rfl := string_eq_ok reads
  split at found
  · next known =>
    obtain rfl := Except.ok.inj found
    have named := List.find?_some (show InstanceType.all.find? (·.name == name) = some _ from known)
    rw [eq_of_beq named]
  · cases found

/-- Distinct strings are read from an array of them. -/
theorem distinctStrings_eq_ok {before found : List String} {values : List Json}
    (read : place.distinctStrings before values = .ok found) :
    ∃ names : List String, values = names.map .string ∧ names.Nodup ∧ ∀ name ∈ names, name ∉ before := by
  induction values generalizing before with
  | nil => exact ⟨[], rfl, List.nodup_nil, fun _ none => absurd none List.not_mem_nil⟩
  | cons value rest ih =>
    cases value with
    | string text =>
      rw [distinctStrings] at read
      split at read
      · cases read
      · next fresh =>
        obtain ⟨names, rfl, distinct, others⟩ := ih read
        have apart : text ∉ names := fun member => others text member (List.mem_append_right _ List.mem_cons_self)
        refine ⟨text :: names, rfl, List.nodup_cons.mpr ⟨apart, distinct⟩, List.forall_mem_cons.mpr ⟨?_, ?_⟩⟩
        · simpa using fresh
        · exact fun name member inside => others name member (List.mem_append_left _ inside)
    | _ => cases read

/-- Distinct types are read from an array of their names. -/
theorem distinctTypes_eq_ok {before found : List InstanceType} {values : List Json}
    (read : place.distinctTypes before values = .ok found) :
    ∃ types : List InstanceType, values = (types.map (·.name)).map .string ∧ types.Nodup ∧
      ∀ type ∈ types, type ∉ before := by
  induction values generalizing before with
  | nil => exact ⟨[], rfl, List.nodup_nil, fun _ none => absurd none List.not_mem_nil⟩
  | cons value rest ih =>
    obtain ⟨type, reads, goesOn⟩ := Except.bind_eq_ok.mp read
    obtain rfl := typeName_eq_ok reads
    split at goesOn
    · cases goesOn
    · next fresh =>
      obtain ⟨types, rfl, distinct, others⟩ := ih goesOn
      have apart : type ∉ types := fun member => others type member (List.mem_append_right _ List.mem_cons_self)
      refine ⟨type :: types, rfl, List.nodup_cons.mpr ⟨apart, distinct⟩, List.forall_mem_cons.mpr ⟨?_, ?_⟩⟩
      · simpa using fresh
      · exact fun name member inside => others name member (List.mem_append_left _ inside)

variable {isSchema isObject : Json → Prop}

theorem fits_names {found : List String} (read : place.names value = .ok found) :
    Form.names.Fits isSchema isObject value := by
  obtain ⟨elements, reads, strings⟩ := Except.bind_eq_ok.mp read
  obtain ⟨names, rfl, distinct, -⟩ := distinctStrings_eq_ok strings
  refine ⟨_, array_eq_ok reads, Bool.noConfusion, fun _ => Json.allDistinct_map_string distinct, fun element member => ?_⟩
  obtain ⟨name, -, rfl⟩ := List.mem_map.mp member
  exact ⟨name, rfl⟩

theorem fits_types {found : List InstanceType} (read : place.types value = .ok found) :
    StandardKeyword.type.form.Fits isSchema isObject value := by
  unfold types at read
  split at read
  · next name =>
    obtain ⟨type, reads, -⟩ := Except.bind_eq_ok.mp read
    exact .inl ⟨type, typeName_eq_ok reads⟩
  · cases read
  · next values some =>
    obtain ⟨types, rfl, distinct, -⟩ := distinctTypes_eq_ok read
    refine .inr ⟨_, rfl, fun _ => some, fun _ => ?_, fun element member => ?_⟩
    · exact Json.allDistinct_map_string (distinct.map InstanceType.name_injective)
    · obtain ⟨name, named, rfl⟩ := List.mem_map.mp member
      obtain ⟨type, -, rfl⟩ := List.mem_map.mp named
      exact ⟨type, rfl⟩
  · cases read

theorem fits_count {found : Nat} (read : place.count value = .ok found) : Form.count.Fits isSchema isObject value := by
  unfold count at read
  split at read
  · next n =>
    split at read
    · next count counts => exact ⟨n, count, rfl, counts⟩
    · cases read
  · cases read

theorem fits_divisor {found : Number} (read : place.divisor value = .ok found) :
    Form.divisor.Fits isSchema isObject value := by
  obtain ⟨n, reads, positive⟩ := Except.bind_eq_ok.mp read
  split at positive
  · next above => exact ⟨n, number_eq_ok reads, above⟩
  · cases positive

theorem fits_anchor {found : String} (read : place.anchor value = .ok found) :
    Form.anchor.Fits isSchema isObject value := by
  obtain ⟨name, reads, plain⟩ := Except.bind_eq_ok.mp read
  split at plain
  · next isName => exact ⟨name, string_eq_ok reads, isName⟩
  · cases plain

theorem fits_vocabularies {found : List (Url × Bool)} (read : place.vocabularies value = .ok found) :
    StandardKeyword.vocabulary.form.Fits isSchema isObject value := by
  obtain ⟨members, reads, each⟩ := Except.bind_eq_ok.mp read
  refine ⟨members, object_eq_ok reads, fun member inside => ?_⟩
  obtain ⟨entry, made⟩ := Except.exists_of_mapM_eq_ok each member inside
  dsimp only at made
  split at made
  · obtain ⟨flag, readsFlag, -⟩ := Except.bind_eq_ok.mp made
    exact ⟨flag, boolean_eq_ok readsFlag⟩
  · cases made

theorem fits_description {kind : Description} {rule : Rule} (read : place.description kind value = .ok rule) :
    (StandardKeyword.description kind).form.Fits isSchema isObject value := by
  cases kind <;> cases value <;>
    first
    | exact ⟨_, rfl⟩
    | trivial
    | exact ⟨_, rfl, Bool.noConfusion, Bool.noConfusion, fun _ _ => trivial⟩

/-! ## Compiling values -/

section

variable {registered : Bool} {sub : Site → Json → Compile Nat} {before after : Assembly} {meaning : StandardKeyword}
  (below : ∀ tokens inner before number after, Json.Part inner value →
    Yields (place.subschemaAt sub tokens inner) before number after → isSchema inner)
include below

theorem forall_of_yields_compileSlots {slots : List (List String × Json)} {numbers : List Nat}
    (parts : ∀ slot ∈ slots, Json.Part slot.2 value) (yields : Yields (place.compileSlots sub slots) before numbers after) :
    ∀ slot ∈ slots, isSchema slot.2 := by
  induction slots generalizing before numbers with
  | nil => exact fun slot none => absurd none List.not_mem_nil
  | cons first rest ih =>
    obtain ⟨number, others, between, -, yieldsFirst, yieldsRest⟩ := yields_compileSlots_cons.mp yields
    obtain ⟨part, parts⟩ := List.forall_mem_cons.mp parts
    exact List.forall_mem_cons.mpr ⟨below _ _ _ _ _ part yieldsFirst, ih parts yieldsRest⟩

theorem isSchema_of_yields_subschema {number : Nat} (yields : Yields (place.subschema sub value) before number after) :
    isSchema value :=
  below _ _ _ _ _ (.self value) yields

theorem fits_of_yields_someSubschemas {numbers : List Nat}
    (yields : Yields (place.someSubschemas sub value) before numbers after) :
    Form.someSchemas.Fits isSchema isObject value := by
  obtain ⟨first, rest, rfl, slots⟩ := yields_someSubschemas.mp yields
  refine ⟨_, rfl, fun _ => List.cons_ne_nil first rest, Bool.noConfusion, fun element member => ?_⟩
  obtain ⟨index, bound, rfl⟩ := List.mem_iff_getElem.mp member
  refine forall_of_yields_compileSlots below ?_ slots _ (List.mem_map_of_mem (List.mk_mem_zipIdx_iff_getElem?.mpr
    (List.getElem?_eq_getElem bound)))
  intro slot inside
  obtain ⟨entry, listed, rfl⟩ := List.mem_map.mp inside
  exact .item (List.fst_mem_of_mem_zipIdx listed)

theorem fits_of_yields_subschemasBy {κ : Type} {key : String → Except CompileError κ} {found : List (κ × Nat)}
    (yields : Yields (place.subschemasBy sub key value) before found after) :
    (Form.object .schema).Fits isSchema isObject value := by
  obtain ⟨members, rfl, -, slots⟩ := yields_subschemasBy.mp yields
  refine ⟨members, rfl, fun member inside => ?_⟩
  refine forall_of_yields_compileSlots below ?_ slots _ (List.mem_map_of_mem inside)
  intro slot listed
  obtain ⟨entry, inside, rfl⟩ := List.mem_map.mp listed
  exact .member inside

omit below in
theorem fits_text {text : String} (read : place.string value = .ok text) : Form.text.Fits isSchema isObject value :=
  ⟨text, string_eq_ok read⟩

omit below in
theorem fits_flag {flag : Bool} (read : place.boolean value = .ok flag) : Form.flag.Fits isSchema isObject value :=
  ⟨flag, boolean_eq_ok read⟩

/-- A value that compiles under a keyword has the form of the keyword, where sub-schemas that compile are schemas. -/
theorem fits_of_yields_compile (yields : Yields (place.compile registered sub meaning value) before result after) :
    meaning.form.Fits isSchema isObject value := by
  -- every keyword but `const` first reads its value or compiles the sub-schemas in it
  cases meaning with
  | const => trivial
  | id =>
    obtain ⟨site, between, declares, -⟩ := yields_bind.mp yields
    obtain ⟨id, start, read, -⟩ := yields_bind.mp declares
    obtain ⟨text, reads, -⟩ := Except.bind_eq_ok.mp (yields_read.mp read).1
    exact fits_text reads
  | schema =>
    obtain ⟨done, between, discards, -⟩ := yields_bind.mp yields
    obtain ⟨text, start, read, -⟩ := yields_bind.mp discards
    exact fits_text (yields_read.mp read).1
  | dependentRequired =>
    obtain ⟨members, between, read, goesOn⟩ := yields_bind.mp yields
    obtain ⟨requirements, stop, each, -⟩ := yields_bind.mp goesOn
    refine ⟨members, object_eq_ok (yields_read.mp read).1, fun member inside => ?_⟩
    obtain ⟨entry, start, made, reads⟩ := exists_of_yields_mapM each member inside
    obtain ⟨names, _, readsNames, -⟩ := yields_bind.mp reads
    exact fits_names (yields_read.mp readsNames).1
  | defs | properties | patternProperties | dependentSchemas =>
    obtain ⟨found, between, step, -⟩ := yields_bind.mp yields
    exact fits_of_yields_subschemasBy below step
  | prefixItems | combination =>
    obtain ⟨found, between, step, -⟩ := yields_bind.mp yields
    exact fits_of_yields_someSubschemas below step
  | items | contains | additionalProperties | propertyNames | condition | consequence | alternative | not
  | unevaluatedItems | unevaluatedProperties | contentSchema =>
    obtain ⟨found, between, step, -⟩ := yields_bind.mp yields
    exact isSchema_of_yields_subschema below step
  | ref | dynamicRef =>
    obtain ⟨url, between, read, -⟩ := yields_bind.mp yields
    obtain ⟨text, reads, -⟩ := Except.bind_eq_ok.mp (yields_read.mp read).1
    exact fits_text reads
  | comment | pattern | format | formatAssertion | contentEncoding | contentMediaType =>
    obtain ⟨text, between, read, -⟩ := yields_bind.mp yields
    exact fits_text (yields_read.mp read).1
  | anchor | dynamicAnchor =>
    obtain ⟨name, between, read, -⟩ := yields_bind.mp yields
    exact fits_anchor (yields_read.mp read).1
  | vocabulary =>
    obtain ⟨vocabularies, between, read, -⟩ := yields_bind.mp yields
    exact fits_vocabularies (yields_read.mp read).1
  | type =>
    obtain ⟨types, between, read, -⟩ := yields_bind.mp yields
    exact fits_types (yields_read.mp read).1
  | enum =>
    obtain ⟨values, between, read, -⟩ := yields_bind.mp yields
    exact ⟨values, array_eq_ok (yields_read.mp read).1, Bool.noConfusion, Bool.noConfusion, fun _ _ => trivial⟩
  | multipleOf =>
    obtain ⟨divisor, between, read, -⟩ := yields_bind.mp yields
    exact fits_divisor (yields_read.mp read).1
  | limit =>
    obtain ⟨bound, between, read, -⟩ := yields_bind.mp yields
    exact ⟨bound, number_eq_ok (yields_read.mp read).1⟩
  | count =>
    obtain ⟨bound, between, read, -⟩ := yields_bind.mp yields
    exact fits_count (yields_read.mp read).1
  | uniqueItems =>
    obtain ⟨demanded, between, read, -⟩ := yields_bind.mp yields
    exact fits_flag (yields_read.mp read).1
  | required =>
    obtain ⟨names, between, read, -⟩ := yields_bind.mp yields
    exact fits_names (yields_read.mp read).1
  | description =>
    obtain ⟨rule, between, read, -⟩ := yields_bind.mp yields
    exact fits_description (yields_read.mp read).1

end

end KeywordSite

namespace Site

variable {options : Options} {registered : Bool} {site : Site} {before after : Assembly}

/-- Whether a value compiles as a schema of the draft within some depth, wherever it stands, and has no member of a
barred name. -/
def IsSchemaWithin (options : Options) (depth : Nat) (value : Json) : Prop :=
  value.Lacks Draft.barredNames ∧ ∃ registered site before number after, site.dialect = Draft.dialect ∧
    Yields (compileWithin options registered depth site value) before number after

/-- The values of the keywords of a schema have their forms. -/
theorem fits_of_yields_compileKeywords {sub : Site → Json → Compile Nat} {entries : List (KeywordEntry Json)}
    {result : Site × List Rule} {isSchema isObject : Json → Prop} (drafted : site.dialect = Draft.dialect)
    (below : ∀ entry ∈ entries, ∀ place inner before number after, place.dialect = Draft.dialect →
      Json.Part inner entry.item → Yields (sub place inner) before number after → isSchema inner)
    (yields : Yields (compileKeywords registered sub site entries) before result after) :
    ∀ entry ∈ entries, entry.spec.meaning.form.Fits isSchema isObject entry.item := by
  induction entries generalizing site before result with
  | nil => exact fun entry none => absurd none List.not_mem_nil
  | cons entry entries ih =>
    obtain ⟨belowFirst, belowRest⟩ := List.forall_mem_cons.mp below
    obtain ⟨first, between, rest, yieldsFirst, yieldsRest, -⟩ := yields_compileKeywords_cons.mp yields
    have stays : first.1.dialect = Draft.dialect := (KeywordSite.leaves_of_yields yieldsFirst).1.trans drafted
    refine List.forall_mem_cons.mpr ⟨KeywordSite.fits_of_yields_compile ?_ yieldsFirst, ih stays belowRest yieldsRest⟩
    exact fun tokens inner before number after part => belowFirst _ inner before number after drafted part

/-- A schema is a truth value or a schema object. -/
theorem fits_of_isSchemaWithin {depth : Nat} {value : Json} (compiles : IsSchemaWithin options (depth + 1) value) :
    (Form.either .flag .keywords).Describes (IsSchemaWithin options depth) value := by
  obtain ⟨lacks, registered, site, before, number, after, drafted, yields⟩ := compiles
  obtain ⟨-, made, middle, shapes, -⟩ := yields_compileNode.mp yields
  cases value with
  | bool flag => exact .inl ⟨flag, rfl⟩
  | object members =>
    refine .inr ⟨members, rfl, fun name item present isObject => ?_⟩
    have member := mem_of_assoc? present
    have allowed := lacks members (Json.self_mem_values _) _ member
    obtain ⟨selected, start, rules, complete, selects, keywords, -⟩ := yields_compileShape_object.mp shapes
    have silent : assoc? StandardKeyword.schema.name members = none := by
      cases declared : assoc? StandardKeyword.schema.name members with
      | none => rfl
      | some dialect =>
        have barred : StandardKeyword.schema.name ∈ Draft.barredNames := by decide
        exact absurd barred (lacks members (Json.self_mem_values _) _ (mem_of_assoc? declared))
    rw [selectDialect, silent] at selects
    obtain ⟨rfl, rfl⟩ := yields_pure.mp selects
    rw [Draft.form, if_neg (by simpa using allowed)]
    cases known : Draft.dialect.keyword? name with
    | none => trivial
    | some found =>
      have starts : (site.start before.nodes.size).dialect = Draft.dialect := drafted
      rw [starts] at keywords
      have entry : ⟨found.1, found.2, item⟩ ∈ KeywordEntry.inOrder (knownMembers Draft.dialect members) :=
        (KeywordEntry.inOrder_perm _).mem_iff.mpr
          (List.mem_filterMap.mpr ⟨_, member, by dsimp only; rw [known]; rfl⟩)
      refine fits_of_yields_compileKeywords starts ?_ keywords _ entry
      intro other inside place inner start number stop under part yields
      exact ⟨lacks.part (Draft.mem_of_mem_inOrder inside).1 part, registered, place, start, number, stop, under, yields⟩
  | _ => exact absurd shapes yields_throw

end Site

end JsonSchema
