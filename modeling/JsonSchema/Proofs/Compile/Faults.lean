import JsonSchema.Proofs.Compile.Locations

/-! # Where faults are found

If a value does not compile then the location of the fault leads to a part of the value
(`Schema.resolve?_location_of_compileDocument`): to a schema object or to the value of a keyword, in whatever resource
and under whatever dialect. A step of compilation `Blames` some places if it fails only there. Reading the value of a
keyword blames the keyword, and a sub-schema is compiled at a location that leads to it.
-/

namespace JsonSchema

namespace Compile

variable {α β : Type} {places : Pointer → Prop} {yields : α → Prop} {yieldsNext : β → Prop}

/-- The fault in a result, if it is one. -/
def fault? : Except CompileError α → Option CompileError
  | .ok _ => none
  | .error cause => some cause

theorem eq_error_of_fault? {result : Except CompileError α} {cause : CompileError}
    (fails : fault? result = some cause) : result = .error cause := by
  cases result with
  | ok value => cases fails
  | error other => rw [Option.some.inj fails]

/-- Whether a step fails only with faults at some places, and the values it yields have a property. -/
def Blames (places : Pointer → Prop) (yields : α → Prop) (step : Compile α) : Prop :=
  ∀ before,
    match (step.run before).1 with
    | .ok value => yields value
    | .error cause => places cause.location

theorem blames_pure {value : α} (holds : yields value) : Blames places yields (pure value) :=
  fun _ => holds

theorem blames_throw {cause : CompileError} (placed : places cause.location) : Blames places yields (throw cause) :=
  fun _ => placed

theorem blames_get : Blames places (fun _ : Assembly => True) get :=
  fun _ => trivial

theorem blames_set (assembly : Assembly) : Blames places (fun _ : PUnit => True) (set assembly) :=
  fun _ => trivial

theorem blames_modify (change : Assembly → Assembly) : Blames places (fun _ : PUnit => True) (modify change) :=
  fun _ => trivial

theorem blames_bind {step : Compile α} {next : α → Compile β} (first : Blames places yields step)
    (second : ∀ value, yields value → Blames places yieldsNext (next value)) :
    Blames places yieldsNext (step >>= next) := by
  intro before
  have ends := first before
  have run : (step >>= next).run before = ExceptT.bindCont next (step.run before).1 (step.run before).2 := rfl
  rw [run]
  cases result : (step.run before).1 with
  | ok value =>
    rw [result] at ends
    exact second value ends _
  | error cause =>
    rw [result] at ends
    exact ends

theorem blames_mapM {list : List α} {step : α → Compile β}
    (each : ∀ item ∈ list, Blames places (fun _ => True) (step item)) :
    Blames places (fun _ => True) (list.mapM step) := by
  induction list with
  | nil => exact blames_pure trivial
  | cons first rest ih =>
    rw [List.mapM_cons]
    refine blames_bind (each first List.mem_cons_self) fun value _ => ?_
    refine blames_bind (ih fun item inside => each item (List.mem_cons_of_mem _ inside)) fun values _ => ?_
    exact blames_pure trivial

theorem Blames.mono {step : Compile α} {weaker : α → Prop} (blames : Blames places yields step)
    (implies : ∀ value, yields value → weaker value) : Blames places weaker step := by
  intro before
  have ends := blames before
  cases result : (step.run before).1 with
  | ok value =>
    rw [result] at ends
    exact implies value ends
  | error cause =>
    rw [result] at ends
    exact ends

end Compile

namespace Json

/-- Whether a location leads to a part of a value. -/
def Holds (whole : Json) (location : Pointer) : Prop := (location.resolve? whole).isSome

theorem holds_of_resolve? {whole value : Json} {location : Pointer} (leads : location.resolve? whole = some value) :
    whole.Holds location := by
  rw [Holds, leads]
  rfl

end Json

namespace KeywordSite

open Compile

variable {α β : Type} {places : Pointer → Prop} {place : KeywordSite} {sub : Site → Json → Compile Nat} {value : Json}

/-- Whether a value is compiled, if a location leads to it, with faults only where locations lead somewhere. -/
def BlamesBelow (whole : Json) (sub : Site → Json → Compile Nat) : Prop :=
  ∀ site inner, site.location.resolve? whole = some inner → Blames whole.Holds (fun _ => True) (sub site inner)

/-! ## Readings -/

/-- Whether a reading of a keyword's value finds fault with the keyword only. -/
def Reads (place : KeywordSite) (reading : Except CompileError α) : Prop :=
  ∀ cause, reading = .error cause → cause.location = place.location

theorem reads_ok {found : α} : place.Reads (.ok found) :=
  fun _ same => nomatch same

theorem reads_error {cause : CompileError} (placed : cause.location = place.location) :
    place.Reads (.error cause : Except CompileError α) := by
  rintro _ ⟨⟩
  exact placed

theorem reads_bind {reading : Except CompileError α} {next : α → Except CompileError β} (first : place.Reads reading)
    (second : ∀ found, reading = .ok found → place.Reads (next found)) : place.Reads (reading >>= next) := by
  cases reading with
  | ok found => exact second found rfl
  | error cause => exact reads_error (first cause rfl)

theorem reads_mapM {list : List α} {reading : α → Except CompileError β} (each : ∀ item, place.Reads (reading item)) :
    place.Reads (list.mapM reading) := by
  induction list with
  | nil => exact reads_ok
  | cons first rest ih =>
    rw [List.mapM_cons]
    exact reads_bind (each first) fun _ _ => reads_bind ih fun _ _ => reads_ok

theorem reads_string : place.Reads (place.string value) := by
  cases value <;> first | exact reads_ok | exact reads_error rfl

theorem reads_boolean : place.Reads (place.boolean value) := by
  cases value <;> first | exact reads_ok | exact reads_error rfl

theorem reads_number : place.Reads (place.number value) := by
  cases value <;> first | exact reads_ok | exact reads_error rfl

theorem reads_array : place.Reads (place.array value) := by
  cases value <;> first | exact reads_ok | exact reads_error rfl

theorem reads_object : place.Reads (place.object value) := by
  cases value <;> first | exact reads_ok | exact reads_error rfl

theorem reads_count : place.Reads (place.count value) := by
  unfold count
  split
  · split
    · exact reads_ok
    · exact reads_error rfl
  · exact reads_error rfl

theorem reads_distinctStrings (before : List String) (values : List Json) :
    place.Reads (place.distinctStrings before values) := by
  fun_induction distinctStrings place before values with
  | case1 => exact reads_ok
  | case2 => exact reads_error rfl
  | case3 _ _ _ _ ih => exact ih
  | case4 => exact reads_error rfl

theorem reads_names : place.Reads (place.names value) :=
  reads_bind reads_array fun items _ => reads_distinctStrings [] items

theorem reads_typeName : place.Reads (place.typeName value) := by
  refine reads_bind reads_string fun name _ => ?_
  split
  · exact reads_ok
  · exact reads_error rfl

theorem reads_distinctTypes (before : List InstanceType) (values : List Json) :
    place.Reads (place.distinctTypes before values) := by
  induction values generalizing before with
  | nil => exact reads_ok
  | cons value rest ih =>
    refine reads_bind reads_typeName fun type _ => ?_
    split
    · exact reads_error rfl
    · exact ih _

theorem reads_types : place.Reads (place.types value) := by
  unfold types
  split
  · exact reads_bind reads_typeName fun _ _ => reads_ok
  · exact reads_error rfl
  · exact reads_distinctTypes [] _
  · exact reads_error rfl

theorem reads_divisor : place.Reads (place.divisor value) := by
  refine reads_bind reads_number fun n _ => ?_
  split
  · exact reads_ok
  · exact reads_error rfl

theorem reads_pattern (source : String) : place.Reads (place.pattern source) := by
  unfold pattern
  split
  · exact reads_ok
  · exact reads_error rfl

theorem reads_reference : place.Reads (place.reference value) := by
  refine reads_bind reads_string fun text _ => ?_
  split
  · exact reads_ok
  · exact reads_error rfl

theorem reads_anchor : place.Reads (place.anchor value) := by
  refine reads_bind reads_string fun name _ => ?_
  split
  · exact reads_ok
  · exact reads_error rfl

theorem reads_vocabularies : place.Reads (place.vocabularies value) := by
  refine reads_bind reads_object fun members _ => reads_mapM fun member => ?_
  dsimp only
  split
  · exact reads_bind reads_boolean fun _ _ => reads_ok
  · exact reads_error rfl

theorem reads_description (kind : Description) : place.Reads (place.description kind value) := by
  cases kind <;> cases value <;> first | exact reads_ok | exact reads_error rfl

theorem reads_declaredId : place.Reads (place.declaredId value) := by
  refine reads_bind reads_string fun text _ => ?_
  split
  · split
    · exact reads_error rfl
    · exact reads_ok
  · exact reads_error rfl

theorem reads_dialectId (text : String) : place.Reads (Site.dialectId place text) := by
  unfold Site.dialectId
  split
  · exact reads_ok
  · exact reads_error rfl

/-! ## Keywords -/

variable (placed : places place.location)
include placed

theorem blames_read {reading : Except CompileError α} (reads : place.Reads reading) :
    Blames places (fun found => reading = .ok found) (liftM reading) := by
  cases reading with
  | ok found => exact fun _ => rfl
  | error cause =>
    have located : places cause.location := by
      rw [reads cause rfl]
      exact placed
    exact fun _ => located

theorem blames_discard {reading : Except CompileError α} (reads : place.Reads reading) :
    Blames places (fun _ => True) (discard (liftM reading)) :=
  blames_bind (blames_read placed reads) fun _ _ => blames_pure trivial

theorem blames_takeId (id : Url) : Blames places (fun _ => True) (place.takeId id) := by
  refine blames_bind blames_get fun assembly _ => ?_
  split
  · have thrown : Blames places (fun _ => True) (throw (.duplicateId place.location id) : Compile Unit) :=
      blames_throw placed
    exact blames_bind thrown fun _ _ => blames_set _
  · exact blames_set _

theorem blames_renameDocument (registered : Bool) (id : Url) :
    Blames places (fun _ => True) (place.renameDocument registered id) := by
  refine blames_bind blames_get fun assembly _ => ?_
  split
  · exact blames_bind (blames_takeId placed id) fun _ _ => blames_modify _
  · exact blames_pure trivial

theorem blames_startResource (id : Url) :
    Blames places (fun site => site.location = place.site.location) (place.startResource id) :=
  blames_bind (blames_takeId placed id) fun _ _ => blames_bind blames_get fun _ _ =>
    blames_bind (blames_modify _) fun _ _ => blames_pure rfl

theorem blames_declareId (registered : Bool) :
    Blames places (fun site => site.location = place.site.location) (place.declareId registered value) := by
  refine blames_bind (blames_read placed reads_declaredId) fun id _ => ?_
  split
  · exact blames_bind (blames_renameDocument placed registered id) fun _ _ => blames_pure rfl
  · exact blames_bind (blames_startResource placed id) fun _ same => blames_pure same

omit placed

/-- A keyword that leaves a rule stays at its place. -/
theorem blames_leaves {step : Compile α} {rule : α → Rule} {yields : α → Prop} (blames : Blames places yields step) :
    Blames places (fun result => result.1.location = place.site.location) (do return place.leaves (rule (← step))) :=
  blames_bind blames fun _ _ => blames_pure rfl

/-! ## Sub-schemas -/

/-- The location of a site further down leads further. -/
theorem resolve?_descend {whole inner : Json} {tokens : List String} (leads : place.location.resolve? whole = some value)
    (further : Pointer.follow? tokens value = some inner) :
    (place.site.descend (place.keyword :: tokens)).location.resolve? whole = some inner := by
  have location : (place.site.descend (place.keyword :: tokens)).location = place.location.append tokens := by
    simp [Site.descend, KeywordSite.location, Pointer.append, Pointer.push]
  rw [location, Pointer.resolve?, Pointer.append, Pointer.follow?_append]
  exact Option.bind_eq_some_iff.mpr ⟨value, leads, further⟩

variable {whole : Json} (names : whole.NamesOnce) (countable : whole.IsCountable)
  (below : BlamesBelow whole sub) (leads : place.location.resolve? whole = some value)

include names countable leads in
/-- A sub-schema that stands in a slot of some keyword is found where the slot leads. -/
theorem resolve?_slot (meaning : StandardKeyword) {slot : List String × Json} (member : slot ∈ meaning.slots value) :
    (place.site.descend (place.keyword :: slot.1)).location.resolve? whole = some slot.2 := by
  have inside := Pointer.values_subset_of_resolve? leads (Json.self_mem_values value)
  exact resolve?_descend leads (meaning.follow?_of_mem_slots (names _ inside) (countable _ inside) member)

include below leads

theorem blames_subschema : Blames whole.Holds (fun _ => True) (place.subschema sub value) :=
  below _ _ (resolve?_descend leads rfl)

include names countable

/-- A sub-schema that stands in a slot of some keyword is compiled where the slot leads. -/
theorem blames_slot (meaning : StandardKeyword) {slot : List String × Json} (member : slot ∈ meaning.slots value) :
    Blames whole.Holds (fun _ => True) (place.subschemaAt sub slot.1 slot.2) :=
  below _ _ (resolve?_slot names countable leads meaning member)

theorem blames_subschemas : Blames whole.Holds (fun _ => True) (place.subschemas sub value) := by
  refine blames_bind (blames_read (Json.holds_of_resolve? leads) reads_array) fun items read => ?_
  obtain rfl := array_eq_ok read
  exact blames_mapM fun item member =>
    blames_slot names countable below leads .prefixItems (List.mem_map.mpr ⟨item, member, rfl⟩)

theorem blames_someSubschemas : Blames whole.Holds (fun _ => True) (place.someSubschemas sub value) := by
  unfold someSubschemas
  split
  · exact (blames_read (Json.holds_of_resolve? leads) (reads_error rfl)).mono fun _ _ => trivial
  · exact blames_subschemas names countable below leads

theorem blames_subschemasBy {κ : Type} {key : String → Except CompileError κ} (reads : ∀ name, place.Reads (key name)) :
    Blames whole.Holds (fun _ => True) (place.subschemasBy sub key value) := by
  refine blames_bind (blames_read (Json.holds_of_resolve? leads) reads_object) fun members read => ?_
  obtain rfl := object_eq_ok read
  refine blames_mapM fun member inside => ?_
  refine blames_bind (blames_read (Json.holds_of_resolve? leads) (reads member.1)) fun _ _ => ?_
  have slot : ([member.1], member.2) ∈ StandardKeyword.properties.slots (.object members) :=
    List.mem_map.mpr ⟨member, inside, rfl⟩
  exact blames_bind (blames_slot names countable below leads .properties slot) fun _ _ => blames_pure trivial

/-- A keyword whose value is found at its location fails at a location that leads somewhere, and stays at its place. -/
theorem blames_compile (registered : Bool) (meaning : StandardKeyword) :
    Blames whole.Holds (fun result => result.1.location = place.site.location)
      (place.compile registered sub meaning value) := by
  have placed := Json.holds_of_resolve? leads
  have leaves {α : Type} {reading : Except CompileError α} {rule : α → Rule} (reads : place.Reads reading) :
      Blames whole.Holds (fun result => result.1.location = place.site.location)
        (do return place.leaves (rule (← liftM reading))) :=
    blames_leaves (blames_read placed reads)
  cases meaning with
  | id => exact blames_bind (blames_declareId placed registered) fun _ same => blames_pure same
  | schema => exact blames_bind (blames_discard placed reads_string) fun _ _ => blames_pure rfl
  | anchor | dynamicAnchor => exact blames_bind (blames_read placed reads_anchor) fun _ _ => blames_pure rfl
  | vocabulary => exact blames_bind (blames_read placed reads_vocabularies) fun _ _ => blames_pure rfl
  | ref | dynamicRef => exact leaves reads_reference
  | comment | format | formatAssertion | contentEncoding | contentMediaType => exact leaves reads_string
  | type => exact leaves reads_types
  | const => exact blames_pure rfl
  | enum => exact leaves reads_array
  | multipleOf => exact leaves reads_divisor
  | limit kind => exact leaves reads_number
  | count bound => exact leaves reads_count
  | pattern => exact blames_bind (blames_read placed reads_string) fun text _ => leaves (reads_pattern text)
  | uniqueItems => exact leaves reads_boolean
  | required => exact leaves reads_names
  | dependentRequired =>
    refine blames_bind (blames_read placed reads_object) fun members _ => blames_leaves (blames_mapM fun member _ => ?_)
    exact blames_bind (blames_read placed reads_names) fun _ _ => blames_pure trivial
  | description kind =>
    exact blames_bind (blames_read placed (reads_description kind)) fun _ _ => blames_pure rfl
  | items | contains | additionalProperties | propertyNames | condition | consequence | alternative | not =>
    exact blames_leaves (blames_subschema below leads)
  | unevaluatedItems | unevaluatedProperties | contentSchema => exact blames_leaves (blames_subschema below leads)
  | prefixItems | combination kind => exact blames_leaves (blames_someSubschemas names countable below leads)
  | defs | properties | dependentSchemas =>
    exact blames_leaves (blames_subschemasBy names countable below leads fun _ => reads_ok)
  | patternProperties => exact blames_leaves (blames_subschemasBy names countable below leads reads_pattern)

end KeywordSite

/-! ## Schemas -/

namespace Site

open Compile KeywordSite

variable {whole : Json} (names : whole.NamesOnce) (countable : whole.IsCountable) {options : Options}
  {registered : Bool} {sub : Site → Json → Compile Nat} (below : BlamesBelow whole sub) {site : Site} {value : Json}
  {members : List (String × Json)}

theorem blames_libraryDialect? {places : Pointer → Prop} (id : Url) :
    Blames places (fun _ => True) (libraryDialect? options id) := by
  unfold libraryDialect?
  split
  · exact blames_pure trivial
  · exact blames_bind blames_get fun _ _ => blames_bind (blames_set _) fun _ _ => blames_pure trivial

theorem blames_namedDialect {places : Pointer → Prop}
    (placed : places (KeywordSite.mk site StandardKeyword.schema.name).location) :
    Blames places (fun _ => True) (site.namedDialect options value) := by
  refine blames_bind (blames_read placed reads_string) fun text _ => ?_
  refine blames_bind (blames_read placed (reads_dialectId text)) fun id _ => ?_
  split
  · exact blames_pure trivial
  · split
    · exact blames_pure trivial
    · refine blames_bind (blames_libraryDialect? id) fun found _ => ?_
      split
      · exact blames_pure trivial
      · split
        · exact blames_pure trivial
        · split
          · split
            · exact blames_pure trivial
            · exact blames_throw placed
          · exact blames_throw placed

/-- The location of a member leads to its value. -/
theorem resolve?_of_mem {keyword : String} (leads : site.location.resolve? whole = some (.object members))
    (member : assoc? keyword members = some value) :
    (KeywordSite.mk site keyword).location.resolve? whole = some value := by
  rw [KeywordSite.location, Pointer.resolve?_push, leads]
  exact member

theorem blames_selectDialect (leads : site.location.resolve? whole = some (.object members)) :
    Blames whole.Holds (fun selected => selected.location = site.location) (site.selectDialect options members) := by
  unfold selectDialect
  split
  · exact blames_pure rfl
  · next value member =>
    refine blames_bind (blames_namedDialect (Json.holds_of_resolve? (resolve?_of_mem leads member))) fun dialect _ => ?_
    dsimp only
    split
    · exact blames_bind (blames_modify _) fun _ _ => blames_pure rfl
    · exact blames_pure rfl

/-- A keyword of a schema object is one of its members, whatever the dialect. -/
theorem mem_of_mem_inOrder {dialect : Dialect} {entry : KeywordEntry Json}
    (member : entry ∈ KeywordEntry.inOrder (knownMembers dialect members)) :
    (entry.spec.keyword, entry.item) ∈ members := by
  obtain ⟨⟨name, value⟩, inside, made⟩ := List.mem_filterMap.mp ((KeywordEntry.inOrder_perm _).subset member)
  obtain ⟨⟨position, spec⟩, found, rfl⟩ := Option.map_eq_some_iff.mp made
  obtain ⟨⟨other, place⟩, first, same⟩ := Option.map_eq_some_iff.mp found
  obtain ⟨rfl, rfl⟩ := Prod.mk.inj same
  have named := List.find?_some first
  rw [eq_of_beq named]
  exact inside

include names countable below

theorem blames_compileKeywords {entries : List (KeywordEntry Json)}
    (inside : ∀ entry ∈ entries, (entry.spec.keyword, entry.item) ∈ members)
    (leads : site.location.resolve? whole = some (.object members)) :
    Blames whole.Holds (fun _ => True) (compileKeywords registered sub site entries) := by
  have distinct := (names.mono (Pointer.values_subset_of_resolve? leads)).nodup
  induction entries generalizing site with
  | nil => exact blames_pure trivial
  | cons entry rest ih =>
    have member := assoc?_of_mem distinct (inside entry List.mem_cons_self)
    refine blames_bind (blames_compile names countable below (resolve?_of_mem leads member) registered _) ?_
    intro result same
    refine blames_bind (ih (fun other member => inside other (List.mem_cons_of_mem _ member)) ?_) fun _ _ =>
      blames_pure trivial
    rw [same]
    exact leads

theorem blames_compileMembers (leads : site.location.resolve? whole = some (.object members)) :
    Blames whole.Holds (fun _ => True) (site.compileMembers options registered sub members) := by
  refine blames_bind (blames_selectDialect leads) fun selected same => ?_
  have leadsSelected : selected.location.resolve? whole = some (.object members) := by
    rw [same]
    exact leads
  refine blames_bind (blames_compileKeywords names countable below (fun _ => mem_of_mem_inOrder) leadsSelected) ?_
  rintro ⟨final, rules⟩ -
  dsimp only
  split
  · exact blames_throw (Json.holds_of_resolve? leadsSelected)
  · exact blames_pure trivial
  · exact blames_pure trivial

theorem blames_compileShape (leads : site.location.resolve? whole = some value) :
    Blames whole.Holds (fun _ => True) (site.compileShape options registered sub value) := by
  unfold compileShape
  split
  · exact blames_pure trivial
  · exact blames_bind (blames_compileMembers names countable below leads) fun _ _ => blames_pure trivial
  · exact blames_throw (Json.holds_of_resolve? leads)

theorem blames_compileNode (leads : site.location.resolve? whole = some value) :
    Blames whole.Holds (fun _ => True) (site.compileNode options registered sub value) :=
  blames_bind blames_get fun _ _ => blames_bind (blames_modify _) fun _ _ =>
    blames_bind (blames_compileShape names countable below leads) fun _ _ =>
      blames_bind (blames_modify _) fun _ _ => blames_pure trivial

omit below

variable (options registered) in
/-- A value that stands at the location of its site fails to compile only at locations that lead somewhere. -/
theorem blames_compileWithin (depth : Nat) : BlamesBelow whole (compileWithin options registered depth) := by
  induction depth with
  | zero => exact fun _ _ leads => blames_throw (Json.holds_of_resolve? leads)
  | succ depth ih => exact fun _ _ leads => blames_compileNode names countable ih leads

end Site

/-- If a value does not compile then the location of the fault leads to a part of the value. -/
theorem Schema.resolve?_location_of_compileDocument {options : Options} {dialect : Dialect} {base : Url}
    {registered : Bool} {value : Json} {dialects : DialectCache} {cause : CompileError} (names : value.NamesOnce)
    (countable : value.IsCountable)
    (fails : (compileDocument options dialect base registered value dialects).1 = .error cause) :
    ∃ part, cause.location.resolve? value = some part := by
  have blames := Site.blames_compileWithin names countable options registered (value.depth + 1) (.root dialect base)
    value rfl (.start dialect base registered dialects)
  unfold compileDocument at fails
  dsimp only at fails
  revert blames fails
  rcases (Site.compileWithin options registered (value.depth + 1) (.root dialect base) value).run
    (.start dialect base registered dialects) with ⟨result, assembly⟩
  intro fails blames
  cases result with
  | error other =>
    obtain rfl : other = cause := Except.error.inj fails
    exact Option.isSome_iff_exists.mp blames
  | ok node =>
    -- The only fault that is left is that of a document with nodes that were not finished; it is found at the root.
    cases complete : assembly.document? with
    | some document =>
      dsimp only [bind, Except.bind] at fails
      rw [complete] at fails
      cases fails
    | none =>
      dsimp only [bind, Except.bind] at fails
      rw [complete] at fails
      obtain rfl := Except.error.inj fails
      exact ⟨value, rfl⟩

/-- A type that is none, below an id, in an array, and below names that have to be escaped. -/
theorem Schema.resolve?_location_of_compileDocument_embedded :
    let value : Json := .object [("$defs", .object [("a/b~", .object [("$id", .string "x"),
      ("allOf", .array [.bool true, .object [("properties", .object [("", .object [("type", .string "a")])])]])])])]
    let result := (compileDocument .standard Draft.dialect (Draft.url "example") true value []).1
    value.NamesOnce ∧ value.IsCountable ∧
      ∃ cause, result = .error cause ∧ cause.location.text = "/$defs/a~1b~0/allOf/1/properties//type" ∧
        ∃ part, cause.location.resolve? value = some part := by
  intro value result
  have names : value.NamesOnce := by decide
  have countable : value.IsCountable := by decide +kernel
  let location : Pointer := ⟨["$defs", "a/b~", "allOf", "1", "properties", "", "type"]⟩
  have fails : result = .error (.invalidValue location "unknown type 'a'") :=
    Compile.eq_error_of_fault? (by decide +kernel)
  exact ⟨names, countable, _, fails, by decide +kernel, resolve?_location_of_compileDocument names countable fails⟩

end JsonSchema
