import JsonSchema.Compile

/-! # Compilations side by side

Two steps of compilation are coupled if from related assemblies they lead to related assemblies and to values that
agree. Couplings are composed with rules for binding and for lists. The main case is the compilation of a keyword:
two sites at which sub-schemas are numbered differently give the same rule up to the numbers, if they resolve
references alike (`KeywordSite.couples_compile`).
-/

namespace JsonSchema

namespace Rule

/-- The rule with its sub-schemas renumbered. -/
def rename (number : Nat → Nat) : Rule → Rule
  | .combination kind schemas => .combination kind (schemas.map number)
  | .not schema => .not (number schema)
  | .condition schema => .condition (number schema)
  | .branch truth schema => .branch truth (number schema)
  | .dependentSchemas schemas => .dependentSchemas (schemas.map (Prod.map id number))
  | .prefixItems schemas => .prefixItems (schemas.map number)
  | .items schema => .items (number schema)
  | .contains schema => .contains (number schema)
  | .properties schemas => .properties (schemas.map (Prod.map id number))
  | .patternProperties schemas => .patternProperties (schemas.map (Prod.map id number))
  | .additionalProperties schema => .additionalProperties (number schema)
  | .propertyNames schema => .propertyNames (number schema)
  | .contentSchema schema => .contentSchema (number schema)
  | .unevaluatedItems schema => .unevaluatedItems (number schema)
  | .unevaluatedProperties schema => .unevaluatedProperties (number schema)
  | .defs schemas => .defs (schemas.map (Prod.map id number))
  | rule => rule

@[simp] theorem rename_id (rule : Rule) : rule.rename id = rule := by
  cases rule <;> simp [rename]

@[simp] theorem standard?_rename (number : Nat → Nat) (rule : Rule) :
    (rule.rename number).standard? = rule.standard? := by
  cases rule <;> rfl

end Rule

namespace Json

/-- A value itself, or one of its items or members. -/
inductive Part : Json → Json → Prop
  | self (value : Json) : Part value value
  | item {items : List Json} {inner : Json} (member : inner ∈ items) : Part inner (.array items)
  | member {members : List (String × Json)} {name : String} {inner : Json} (member : (name, inner) ∈ members) :
      Part inner (.object members)

end Json

namespace Compile

variable {α β γ δ : Type} {lax : Prop} {related : Assembly → Assembly → Prop}

/-- Whether two results of compilation go together: both are successes that agree, or both are failures. If failures of
the first one do not matter nothing is said of them. -/
def Match (lax : Prop) (related : Assembly → Assembly → Prop) (agree : α → β → Prop) :
    Except CompileError α × Assembly → Except CompileError β × Assembly → Prop
  | (.ok value, left), (.ok other, right) => agree value other ∧ related left right
  | (.ok _, _), (.error _, _) => False
  | (.error _, _), (.ok _, _) => lax
  | (.error _, left), (.error _, right) => lax ∨ related left right

/-- Whether two steps of compilation go together from related assemblies. -/
def Couples (lax : Prop) (related : Assembly → Assembly → Prop) (agree : α → β → Prop) (first : Compile α)
    (second : Compile β) : Prop :=
  ∀ left right, related left right → Match lax related agree (first.run left) (second.run right)

theorem couples_pure {agree : α → β → Prop} {value : α} {other : β} (agrees : agree value other) :
    Couples lax related agree (pure value) (pure other) :=
  fun _ _ kept => ⟨agrees, kept⟩

theorem couples_throw {agree : α → β → Prop} (cause other : CompileError) :
    Couples lax related agree (throw cause : Compile α) (throw other : Compile β) :=
  fun _ _ kept => .inr kept

/-- Readings that find the same value, whatever their faults, go together. -/
theorem couples_read {value other : Except CompileError α} (same : value.toOption = other.toOption) :
    Couples lax related (fun read read' => read = read' ∧ value = .ok read) (liftM value : Compile α) (liftM other) := by
  intro left right kept
  cases value <;> cases other <;> simp only [Except.toOption, Option.some.injEq, reduceCtorEq] at same
  · exact .inr kept
  · exact ⟨⟨same, rfl⟩, kept⟩

theorem couples_get : Couples lax related related (get : Compile Assembly) get :=
  fun _ _ kept => ⟨kept, kept⟩

theorem couples_modify {change other : Assembly → Assembly}
    (keeps : ∀ left right, related left right → related (change left) (other right)) :
    Couples lax related (fun _ _ : PUnit => True) (modify change) (modify other) :=
  fun left right kept => ⟨trivial, keeps left right kept⟩

theorem Couples.bind {agree : α → β → Prop} {agreeNext : γ → δ → Prop} {first : Compile α} {second : Compile β}
    {next : α → Compile γ} {other : β → Compile δ} (couples : Couples lax related agree first second)
    (couplesNext : ∀ value value', agree value value' → Couples lax related agreeNext (next value) (other value')) :
    Couples lax related agreeNext (first >>= next) (second >>= other) := by
  intro left right kept
  have matched := couples left right kept
  have runFirst : (first >>= next).run left = ExceptT.bindCont next (first.run left).1 (first.run left).2 := rfl
  have runSecond : (second >>= other).run right =
      ExceptT.bindCont other (second.run right).1 (second.run right).2 := rfl
  rw [runFirst, runSecond]
  match first.run left, second.run right, matched with
  | (.ok value, left'), (.ok value', right'), ⟨agrees, kept'⟩ => exact couplesNext value value' agrees left' right' kept'
  | (.error cause, left'), (.error cause', right'), kept' => exact kept'
  | (.error cause, left'), (.ok value', right'), lax =>
    show Match _ _ _ (.error cause, left') ((other value').run right')
    match (other value').run right' with
    | (.ok _, _) => exact lax
    | (.error _, _) => exact .inl lax

theorem Couples.mono {agree weaker : α → β → Prop} {first : Compile α} {second : Compile β}
    (couples : Couples lax related agree first second) (implies : ∀ value other, agree value other → weaker value other) :
    Couples lax related weaker first second := by
  intro left right kept
  have matched := couples left right kept
  match first.run left, second.run right, matched with
  | (.ok value, left'), (.ok other, right'), ⟨agrees, kept'⟩ => exact ⟨implies value other agrees, kept'⟩
  | (.error cause, left'), (.error cause', right'), kept' => exact kept'
  | (.error cause, left'), (.ok value', right'), lax => exact lax

/-- Steps over two lists of which one is made from the other go together. -/
theorem couples_mapM {list : List α} {step : α → Compile β} {other : α → Compile γ} {make : γ → β}
    (each : ∀ item ∈ list, Couples lax related (fun value value' => value = make value') (step item) (other item)) :
    Couples lax related (fun values values' => values = values'.map make) (list.mapM step) (list.mapM other) := by
  induction list with
  | nil => exact couples_pure rfl
  | cons first rest ih =>
    rw [List.mapM_cons, List.mapM_cons]
    refine (each first List.mem_cons_self).bind fun value value' same => ?_
    refine (ih fun item member => each item (List.mem_cons_of_mem _ member)).bind fun values values' sames => ?_
    exact couples_pure (by rw [same, sames, List.map_cons])

end Compile

/-! ## Readings -/

namespace KeywordSite

variable {α β : Type} (place other : KeywordSite)

theorem toOption_bind {value value' : Except CompileError α} {next next' : α → Except CompileError β}
    (same : value.toOption = value'.toOption) (sameNext : ∀ found, (next found).toOption = (next' found).toOption) :
    (value >>= next).toOption = (value' >>= next').toOption := by
  cases value <;> cases value' <;> simp only [Except.toOption, Option.some.injEq, reduceCtorEq] at same
  · rfl
  · rw [same]
    exact sameNext _

theorem toOption_mapM {list : List α} {step step' : α → Except CompileError β}
    (same : ∀ item, (step item).toOption = (step' item).toOption) :
    (list.mapM step).toOption = (list.mapM step').toOption := by
  induction list with
  | nil => rfl
  | cons first rest ih =>
    rw [List.mapM_cons, List.mapM_cons]
    exact toOption_bind (same first) fun _ => toOption_bind ih fun _ => rfl

theorem toOption_string (value : Json) : (place.string value).toOption = (other.string value).toOption := by
  cases value <;> rfl

theorem toOption_boolean (value : Json) : (place.boolean value).toOption = (other.boolean value).toOption := by
  cases value <;> rfl

theorem toOption_number (value : Json) : (place.number value).toOption = (other.number value).toOption := by
  cases value <;> rfl

theorem toOption_array (value : Json) : (place.array value).toOption = (other.array value).toOption := by
  cases value <;> rfl

theorem toOption_object (value : Json) : (place.object value).toOption = (other.object value).toOption := by
  cases value <;> rfl

theorem toOption_count (value : Json) : (place.count value).toOption = (other.count value).toOption := by
  cases value with
  | number n => simp only [count]; cases n.count? <;> rfl
  | _ => rfl

theorem toOption_distinctStrings (before : List String) (values : List Json) :
    (place.distinctStrings before values).toOption = (other.distinctStrings before values).toOption := by
  induction values generalizing before with
  | nil => rfl
  | cons value rest ih =>
    cases value with
    | string text =>
      simp only [distinctStrings]
      split
      · rfl
      · exact ih _
    | _ => rfl

theorem toOption_names (value : Json) : (place.names value).toOption = (other.names value).toOption :=
  toOption_bind (toOption_array place other value) fun _ => toOption_distinctStrings place other [] _

theorem toOption_typeName (value : Json) : (place.typeName value).toOption = (other.typeName value).toOption :=
  toOption_bind (toOption_string place other value) fun name => by cases InstanceType.ofName? name <;> rfl

theorem toOption_distinctTypes (before : List InstanceType) (values : List Json) :
    (place.distinctTypes before values).toOption = (other.distinctTypes before values).toOption := by
  induction values generalizing before with
  | nil => rfl
  | cons value rest ih =>
    refine toOption_bind (toOption_typeName place other value) fun type => ?_
    split
    · rfl
    · exact ih _

theorem toOption_types (value : Json) : (place.types value).toOption = (other.types value).toOption := by
  cases value with
  | string name => exact toOption_bind (toOption_typeName place other _) fun _ => rfl
  | array values =>
    cases values with
    | nil => rfl
    | cons first rest => exact toOption_distinctTypes place other [] (first :: rest)
  | _ => rfl

theorem toOption_divisor (value : Json) : (place.divisor value).toOption = (other.divisor value).toOption := by
  refine toOption_bind (toOption_number place other value) fun n => ?_
  split <;> rfl

theorem toOption_pattern (source : String) : (place.pattern source).toOption = (other.pattern source).toOption := by
  simp only [pattern]
  cases Pattern.ofSource? source <;> rfl

theorem toOption_anchor (value : Json) : (place.anchor value).toOption = (other.anchor value).toOption := by
  refine toOption_bind (toOption_string place other value) fun name => ?_
  split <;> rfl

theorem toOption_vocabularies (value : Json) :
    (place.vocabularies value).toOption = (other.vocabularies value).toOption := by
  refine toOption_bind (toOption_object place other value) fun members => toOption_mapM fun member => ?_
  dsimp only
  cases Url.parse member.1 with
  | ok url => exact toOption_bind (toOption_boolean place other member.2) fun _ => rfl
  | error cause => rfl

theorem toOption_description (kind : Description) (value : Json) :
    (place.description kind value).toOption = (other.description kind value).toOption := by
  cases kind <;> cases value <;> rfl

variable {place other}

theorem toOption_reference (base : place.site.base = other.site.base) (value : Json) :
    (place.reference value).toOption = (other.reference value).toOption := by
  refine toOption_bind (toOption_string place other value) fun text => ?_
  rw [base]
  cases other.site.base.join text <;> rfl

theorem toOption_declaredId (base : place.site.base = other.site.base) (value : Json) :
    (place.declaredId value).toOption = (other.declaredId value).toOption := by
  refine toOption_bind (toOption_string place other value) fun text => ?_
  rw [base]
  cases other.site.base.join text with
  | ok url =>
    dsimp only
    split <;> rfl
  | error cause => rfl

open Compile

variable {lax : Prop} {related : Assembly → Assembly → Prop} {number : Nat → Nat} {sub sub' : Site → Json → Compile Nat}
  {value : Json}

/-- Whether the sub-schemas in a value of a keyword are compiled alike at two sites, up to their numbers. -/
def CouplesBelow (lax : Prop) (related : Assembly → Assembly → Prop) (number : Nat → Nat)
    (sub sub' : Site → Json → Compile Nat) (site site' : Site) (value : Json) : Prop :=
  ∀ tokens inner, Json.Part inner value →
    Couples lax related (fun node node' => node = number node') (sub (site.descend tokens) inner)
      (sub' (site'.descend tokens) inner)

theorem array_eq_ok {items : List Json} (read : place.array value = .ok items) : value = .array items := by
  cases value <;> cases read
  rfl

theorem object_eq_ok {members : List (String × Json)} (read : place.object value = .ok members) :
    value = .object members := by
  cases value <;> cases read
  rfl

variable (named : place.keyword = other.keyword)
  (below : CouplesBelow lax related number sub sub' place.site other.site value)
include named below

theorem couples_subschemaAt (tokens : List String) {inner : Json} (part : Json.Part inner value) :
    Couples lax related (fun node node' => node = number node') (place.subschemaAt sub tokens inner)
      (other.subschemaAt sub' tokens inner) := by
  rw [subschemaAt, subschemaAt, named]
  exact below _ inner part

theorem couples_subschemas :
    Couples lax related (fun nodes nodes' => nodes = nodes'.map number) (place.subschemas sub value)
      (other.subschemas sub' value) := by
  refine (couples_read (toOption_array place other value)).bind ?_
  rintro items _ ⟨rfl, read⟩
  refine couples_mapM fun item member => couples_subschemaAt named below [toString item.2] ?_
  rw [array_eq_ok read]
  exact .item (List.fst_mem_of_mem_zipIdx member)

theorem couples_someSubschemas :
    Couples lax related (fun nodes nodes' => nodes = nodes'.map number) (place.someSubschemas sub value)
      (other.someSubschemas sub' value) := by
  unfold someSubschemas
  split
  · exact fun _ _ kept => .inr kept
  · exact couples_subschemas named below

theorem couples_subschemasBy {κ : Type} {key key' : String → Except CompileError κ}
    (same : ∀ name, (key name).toOption = (key' name).toOption) :
    Couples lax related (fun nodes nodes' => nodes = nodes'.map (Prod.map id number)) (place.subschemasBy sub key value)
      (other.subschemasBy sub' key' value) := by
  refine (couples_read (toOption_object place other value)).bind ?_
  rintro members _ ⟨rfl, read⟩
  refine couples_mapM fun member inside => ?_
  refine (couples_read (same member.1)).bind ?_
  rintro mapped _ ⟨rfl, -⟩
  refine (couples_subschemaAt named below [member.1] ?_).bind fun node node' renamed => couples_pure ?_
  · rw [object_eq_ok read]
    exact .member inside
  · rw [renamed]
    rfl

omit named below

/-- What the compilation of a keyword yields at two sites: related sites, and the same rule up to its numbers. -/
def LeavesAlike (sites : Site → Site → Prop) (number : Nat → Nat) (result result' : Site × Option Rule) : Prop :=
  sites result.1 result'.1 ∧ result.2 = result'.2.map (·.rename number)

variable {sites : Site → Site → Prop}

theorem couples_leaves {agree : α → β → Prop} {step : Compile α} {step' : Compile β} {rule : α → Rule} {rule' : β → Rule}
    (stays : sites place.site other.site) (couples : Couples lax related agree step step')
    (renames : ∀ found found', agree found found' → rule found = (rule' found').rename number) :
    Couples lax related (LeavesAlike sites number) (do return place.leaves (rule (← step)))
      (do return other.leaves (rule' (← step'))) :=
  couples.bind fun found found' agrees => couples_pure ⟨stays, congrArg some (renames found found' agrees)⟩

theorem couples_leaves_read {read read' : Except CompileError α} {rule : α → Rule} (stays : sites place.site other.site)
    (same : read.toOption = read'.toOption) (plain : ∀ found, (rule found).rename number = rule found) :
    Couples lax related (LeavesAlike sites number) (do return place.leaves (rule (← liftM (m := Compile) read)))
      (do return other.leaves (rule (← liftM (m := Compile) read'))) := by
  refine couples_leaves stays (couples_read same) ?_
  rintro found _ ⟨rfl, -⟩
  exact (plain found).symm

theorem couples_discard {value other : Except CompileError α} (same : value.toOption = other.toOption) :
    Couples lax related (fun _ _ => True) (discard (liftM value : Compile α)) (discard (liftM other : Compile α)) := by
  intro left right kept
  cases value <;> cases other <;> simp only [Except.toOption, Option.some.injEq, reduceCtorEq] at same
  · exact .inr kept
  · exact ⟨trivial, kept⟩

/-- A keyword is compiled alike at two sites with the same base, if the sub-schemas in it are, and if what identifies a
schema is declared alike at both. -/
theorem couples_compile {meaning : StandardKeyword} {registered registered' : Bool}
    (named : place.keyword = other.keyword) (base : place.site.base = other.site.base)
    (stays : sites place.site other.site)
    (declares : meaning = .id →
      Couples lax related sites (place.declareId registered value) (other.declareId registered' value))
    (anchored : meaning = .anchor → ∀ name,
      sites { place.site with anchor := some name } { other.site with anchor := some name })
    (dynamic : meaning = .dynamicAnchor → ∀ name,
      sites { place.site with dynamicAnchor := some name } { other.site with dynamicAnchor := some name })
    (described : meaning = .vocabulary → ∀ vocabularies,
      sites { place.site with vocabularies := some vocabularies } { other.site with vocabularies := some vocabularies })
    (below : CouplesBelow lax related number sub sub' place.site other.site value) :
    Couples lax related (LeavesAlike sites number) (place.compile registered sub meaning value)
      (other.compile registered' sub' meaning value) := by
  cases meaning with
  | id => exact (declares rfl).bind fun site site' kept => couples_pure ⟨kept, rfl⟩
  | schema => exact (couples_discard (toOption_string place other value)).bind fun _ _ _ => couples_pure ⟨stays, rfl⟩
  | anchor =>
    refine (couples_read (toOption_anchor place other value)).bind ?_
    rintro name _ ⟨rfl, -⟩
    exact couples_pure ⟨anchored rfl name, rfl⟩
  | dynamicAnchor =>
    refine (couples_read (toOption_anchor place other value)).bind ?_
    rintro name _ ⟨rfl, -⟩
    exact couples_pure ⟨dynamic rfl name, rfl⟩
  | vocabulary =>
    refine (couples_read (toOption_vocabularies place other value)).bind ?_
    rintro vocabularies _ ⟨rfl, -⟩
    exact couples_pure ⟨described rfl vocabularies, rfl⟩
  | ref => exact couples_leaves_read stays (toOption_reference base value) fun _ => rfl
  | dynamicRef => exact couples_leaves_read stays (toOption_reference base value) fun _ => rfl
  | comment | format | formatAssertion | contentEncoding | contentMediaType =>
    exact couples_leaves_read stays (toOption_string place other value) fun _ => rfl
  | type => exact couples_leaves_read stays (toOption_types place other value) fun _ => rfl
  | const => exact couples_pure ⟨stays, rfl⟩
  | enum => exact couples_leaves_read stays (toOption_array place other value) fun _ => rfl
  | multipleOf => exact couples_leaves_read stays (toOption_divisor place other value) fun _ => rfl
  | limit kind => exact couples_leaves_read stays (toOption_number place other value) fun _ => rfl
  | count bound => exact couples_leaves_read stays (toOption_count place other value) fun _ => rfl
  | pattern =>
    refine (couples_read (toOption_string place other value)).bind ?_
    rintro text _ ⟨rfl, -⟩
    exact couples_leaves_read stays (toOption_pattern place other text) fun _ => rfl
  | uniqueItems => exact couples_leaves_read stays (toOption_boolean place other value) fun _ => rfl
  | required => exact couples_leaves_read stays (toOption_names place other value) fun _ => rfl
  | dependentRequired =>
    refine (couples_read (toOption_object place other value)).bind ?_
    rintro members _ ⟨rfl, -⟩
    refine couples_leaves stays
      (couples_mapM fun member _ => ?_ : Couples lax related (fun found found' => found = found'.map id) _ _) ?_
    · refine (couples_read (toOption_names place other member.2)).bind ?_
      rintro names _ ⟨rfl, -⟩
      exact couples_pure rfl
    · rintro found found' rfl
      simp [Rule.rename]
  | description kind =>
    refine (couples_read (toOption_description place other kind value)).bind ?_
    rintro rule _ ⟨rfl, read⟩
    exact couples_pure ⟨stays, by cases kind <;> cases value <;> cases read <;> rfl⟩
  | items | contains | additionalProperties | propertyNames | condition | consequence | alternative | not =>
    exact couples_leaves stays (couples_subschemaAt named below [] (.self value)) fun _ _ same => by rw [same]; rfl
  | unevaluatedItems | unevaluatedProperties | contentSchema =>
    exact couples_leaves stays (couples_subschemaAt named below [] (.self value)) fun _ _ same => by rw [same]; rfl
  | prefixItems | combination kind =>
    exact couples_leaves stays (couples_someSubschemas named below) fun _ _ same => by rw [same]; rfl
  | defs | properties | dependentSchemas =>
    exact couples_leaves stays (couples_subschemasBy named below fun _ => rfl) fun _ _ same => by rw [same]; rfl
  | patternProperties =>
    exact couples_leaves stays (couples_subschemasBy named below (toOption_pattern place other)) fun _ _ same => by
      rw [same]; rfl

end KeywordSite

end JsonSchema
