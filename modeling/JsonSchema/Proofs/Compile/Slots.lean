import JsonSchema.Proofs.Compile.Coupling

/-! # The slots of keywords

A keyword that holds sub-schemas compiles them one after the other and puts their numbers into its rule. The places
where they stand are its slots. So what a keyword is compiled to, and to what state it leads, is decided by the
base of the site and by what the slots are compiled to (`KeywordSite.fillsSlots`), wherever the keyword stands.
Only an id does more.
-/

namespace JsonSchema

namespace Compile

variable {α β : Type}

/-- Whether a step of compilation from an assembly succeeds with a value and leads to another assembly. -/
def Yields (step : Compile α) (before : Assembly) (value : α) (after : Assembly) : Prop :=
  step.run before = (.ok value, after)

variable {before after : Assembly} {value : α}

theorem yields_pure {made : α} : Yields (pure made) before value after ↔ made = value ∧ before = after := by
  rw [Yields, ExceptT.run_pure]
  constructor
  · intro same
    obtain ⟨made, stays⟩ := Prod.mk.inj same
    exact ⟨Except.ok.inj made, stays⟩
  · rintro ⟨rfl, rfl⟩
    rfl

theorem yields_bind {step : Compile β} {next : β → Compile α} :
    Yields (step >>= next) before value after ↔
      ∃ found between, Yields step before found between ∧ Yields (next found) between value after := by
  have run : (step >>= next).run before = ExceptT.bindCont next (step.run before).1 (step.run before).2 := rfl
  rw [Yields, run]
  constructor
  · intro same
    cases result : step.run before with
    | mk found between =>
      rw [result] at same
      cases found with
      | ok found => exact ⟨found, between, result, same⟩
      | error cause => exact nomatch (Prod.mk.inj same).1
  · rintro ⟨found, between, first, second⟩
    rw [Yields] at first
    rw [first]
    exact second

theorem yields_read {read : Except CompileError α} :
    Yields (liftM read : Compile α) before value after ↔ read = .ok value ∧ before = after := by
  constructor
  · intro same
    obtain ⟨found, stays⟩ := Prod.mk.inj (same : (read, before) = _)
    exact ⟨found, stays⟩
  · rintro ⟨rfl, rfl⟩
    rfl

theorem yields_throw {cause : CompileError} : ¬ Yields (throw cause) before value after := by
  intro same
  exact nomatch (Prod.mk.inj same).1

theorem yields_get {assembly : Assembly} :
    Yields get before assembly after ↔ before = assembly ∧ before = after := by
  constructor
  · intro same
    obtain ⟨found, stays⟩ := Prod.mk.inj (same : (Except.ok before, before) = _)
    exact ⟨Except.ok.inj found, stays⟩
  · rintro ⟨rfl, rfl⟩
    rfl

theorem yields_set {assembly : Assembly} {done : PUnit} :
    Yields (set assembly) before done after ↔ assembly = after := by
  constructor
  · intro same
    exact (Prod.mk.inj (same : (Except.ok PUnit.unit, assembly) = _)).2
  · rintro rfl
    rfl

theorem yields_modify {change : Assembly → Assembly} {done : PUnit} :
    Yields (modify change) before done after ↔ change before = after := by
  constructor
  · intro same
    exact (Prod.mk.inj (same : (Except.ok PUnit.unit, change before) = _)).2
  · rintro rfl
    rfl

end Compile

/-- The sub-schemas in the value of a keyword in order, each with the tokens that lead to it. -/
def StandardKeyword.slots (meaning : StandardKeyword) (value : Json) : List (List String × Json) :=
  match meaning, value with
  | .items, _ | .contains, _ | .additionalProperties, _ | .propertyNames, _ => [([], value)]
  | .condition, _ | .consequence, _ | .alternative, _ | .not, _ => [([], value)]
  | .unevaluatedItems, _ | .unevaluatedProperties, _ | .contentSchema, _ => [([], value)]
  | .prefixItems, .array elements | .combination _, .array elements =>
    elements.zipIdx.map fun (element, index) => ([toString index], element)
  | .defs, .object members | .properties, .object members | .patternProperties, .object members =>
    members.map fun (name, member) => ([name], member)
  | .dependentSchemas, .object members => members.map fun (name, member) => ([name], member)
  | _, _ => []

namespace Site

/-- The site with what another site says of the node itself. -/
def marked (site other : Site) : Site :=
  { site with anchor := other.anchor, dynamicAnchor := other.dynamicAnchor, vocabularies := other.vocabularies }

end Site

namespace KeywordSite

open Compile

/-- Compiles slots of a keyword one after the other. -/
def compileSlots (place : KeywordSite) (sub : Site → Json → Compile Nat) (slots : List (List String × Json)) :
    Compile (List Nat) :=
  slots.mapM fun slot => place.subschemaAt sub slot.1 slot.2

/-- Whether what a keyword was compiled to is what it is compiled to at any place with the same base, if its slots are
compiled to these numbers up to renumbering. -/
def Remade (place : KeywordSite) (meaning : StandardKeyword) (value : Json) (numbers : List Nat)
    (result : Site × Option Rule) : Prop :=
  ∀ (other : KeywordSite) (registered : Bool) (sub : Site → Json → Compile Nat) (before after : Assembly)
    (renumbered : List Nat) (number : Nat → Nat), place.site.base = other.site.base →
    other.site.marked place.site = other.site →
    Yields (other.compileSlots sub (meaning.slots value)) before renumbered after → numbers = renumbered.map number →
      ∃ rule, Yields (other.compile registered sub meaning value) before (other.site.marked result.1, rule) after ∧
        result.2 = rule.map (·.rename number) ∧ ∀ found ∈ rule, found.subschemas = renumbered

/-- Whether a keyword does nothing but compile its slots and put their numbers into its rule. -/
def FillsSlots (meaning : StandardKeyword) (value : Json) : Prop :=
  ∀ (place : KeywordSite) (registered : Bool) (sub : Site → Json → Compile Nat) (before after : Assembly)
    (result : Site × Option Rule), Yields (place.compile registered sub meaning value) before result after →
      place.site.marked result.1 = result.1 ∧ ∃ numbers,
        Yields (place.compileSlots sub (meaning.slots value)) before numbers after ∧
        (∀ rule ∈ result.2, rule.subschemas = numbers) ∧ place.Remade meaning value numbers result

variable {meaning : StandardKeyword} {value : Json}

theorem toOption_eq_some {α : Type} {read other : Except CompileError α} (same : read.toOption = other.toOption)
    {value : α} (found : read = .ok value) : other = .ok value := by
  rw [found] at same
  cases other with
  | ok other => rw [Option.some.inj same]
  | error cause => cases same

/-- A keyword without slots that reads its value, leaves a mark on the site and perhaps a rule. -/
theorem fillsSlots_of_value {α : Type} (read : KeywordSite → Except CompileError α) (mark : Site → α → Site)
    (rule? : α → Option Rule)
    (compiles : ∀ place registered sub, compile place registered sub meaning value = do
      let found ← liftM (m := Compile) (read place)
      return (mark place.site found, rule? found))
    (none : meaning.slots value = [])
    (same : ∀ place other : KeywordSite, place.site.base = other.site.base →
      (read place).toOption = (read other).toOption)
    (marks : ∀ site other found, site.marked (mark site found) = mark site found ∧
      (other.marked site = other → other.marked (mark site found) = mark other found))
    (plain : ∀ place found, read place = .ok found → ∀ rule ∈ rule? found,
      (∀ number, rule.rename number = rule) ∧ rule.subschemas = []) :
    FillsSlots meaning value := by
  intro place registered sub before after result yields
  rw [compiles, yields_bind] at yields
  obtain ⟨found, between, yields, made⟩ := yields
  obtain ⟨read, rfl⟩ := yields_read.mp yields
  obtain ⟨rfl, rfl⟩ := yields_pure.mp made
  replace plain := plain place found read
  refine ⟨(marks place.site place.site found).1, [], ?_, fun rule member => (plain rule member).2, ?_⟩
  · rw [none]
    exact yields_pure.mpr ⟨rfl, rfl⟩
  · intro other registered sub before after renumbered number base kept yields numbers
    rw [none] at yields
    obtain ⟨rfl, rfl⟩ := yields_pure.mp yields
    refine ⟨rule? found, ?_, ?_, fun rule member => (plain rule member).2⟩
    · rw [compiles, yields_bind]
      exact ⟨found, before, yields_read.mpr ⟨toOption_eq_some (same place other base) read, rfl⟩,
        yields_pure.mpr ⟨Prod.ext ((marks place.site other.site found).2 kept).symm rfl, rfl⟩⟩
    · cases left : rule? found with
      | none => rfl
      | some rule => exact congrArg some ((plain rule left).1 number).symm

/-- A keyword without slots that only reads its value. -/
theorem fillsSlots_of_read {α : Type} (read : KeywordSite → Except CompileError α) (rule : α → Rule)
    (compiles : ∀ place registered sub,
      compile place registered sub meaning value = do return place.leaves (rule (← liftM (m := Compile) (read place))))
    (none : meaning.slots value = [])
    (same : ∀ place other : KeywordSite, place.site.base = other.site.base →
      (read place).toOption = (read other).toOption)
    (plain : ∀ place found, read place = .ok found →
      (∀ number, (rule found).rename number = rule found) ∧ (rule found).subschemas = []) :
    FillsSlots meaning value := by
  refine fillsSlots_of_value read (fun site _ => site) (some <| rule ·) compiles none same (fun _ _ _ => ⟨rfl, id⟩) ?_
  intro place found read made left
  rw [← Option.some.inj left]
  exact plain place found read

/-- A keyword that leaves a mark on the site and no rule. -/
theorem fillsSlots_of_mark {α : Type} (read : KeywordSite → Except CompileError α) (mark : Site → α → Site)
    (compiles : ∀ place registered sub,
      compile place registered sub meaning value =
        do return (mark place.site (← liftM (m := Compile) (read place)), none))
    (none : meaning.slots value = [])
    (same : ∀ place other : KeywordSite, (read place).toOption = (read other).toOption)
    (marks : ∀ site other found, site.marked (mark site found) = mark site found ∧
      (other.marked site = other → other.marked (mark site found) = mark other found)) :
    FillsSlots meaning value :=
  fillsSlots_of_value read mark (fun _ => Option.none) compiles none (fun place other _ => same place other) marks
    fun _ _ _ _ impossible => by cases impossible

/-- A keyword whose slots are filled by one of the ways to compile sub-schemas. -/
theorem fillsSlots_of_subschemas {α : Type} (step : KeywordSite → (Site → Json → Compile Nat) → Compile α)
    (rule : α → Rule) (rename : (Nat → Nat) → α → α)
    (compiles : ∀ place registered sub, compile place registered sub meaning value =
      do return place.leaves (rule (← step place sub)))
    (renames : ∀ found number, (rule found).rename number = rule (rename number found))
    (fills : ∀ place sub before found after, Yields (step place sub) before found after →
      Yields (place.compileSlots sub (meaning.slots value)) before (rule found).subschemas after ∧
      ∀ (other : KeywordSite) sub before renumbered after number,
        Yields (other.compileSlots sub (meaning.slots value)) before renumbered after →
        (rule found).subschemas = renumbered.map number →
          ∃ remade, Yields (step other sub) before remade after ∧ found = rename number remade ∧
            (rule remade).subschemas = renumbered) :
    FillsSlots meaning value := by
  intro place registered sub before after result yields
  rw [compiles, yields_bind] at yields
  obtain ⟨found, between, yields, made⟩ := yields
  obtain ⟨rfl, rfl⟩ := yields_pure.mp made
  obtain ⟨slots, remakes⟩ := fills place sub before found between yields
  refine ⟨rfl, (rule found).subschemas, slots, ?_, ?_⟩
  · intro made member
    rw [← Option.some.inj member]
  · intro other registered sub before after renumbered number base marks yields numbers
    obtain ⟨remade, yields, same, listed⟩ := remakes other sub before renumbered after number yields numbers
    refine ⟨some (rule remade), ?_, ?_, ?_⟩
    · rw [compiles, yields_bind]
      exact ⟨remade, after, yields, yields_pure.mpr ⟨Prod.ext marks.symm rfl, rfl⟩⟩
    · rw [same, ← renames]
      rfl
    · intro made member
      rw [← Option.some.inj member]
      exact listed

variable {place : KeywordSite} {sub : Site → Json → Compile Nat} {before after : Assembly}

theorem yields_compileSlots_nil {numbers : List Nat} :
    Yields (place.compileSlots sub []) before numbers after ↔ [] = numbers ∧ before = after := yields_pure

theorem yields_compileSlots_cons {slot : List String × Json} {slots : List (List String × Json)} {numbers : List Nat} :
    Yields (place.compileSlots sub (slot :: slots)) before numbers after ↔
      ∃ number rest between, numbers = number :: rest ∧
        Yields (place.subschemaAt sub slot.1 slot.2) before number between ∧
        Yields (place.compileSlots sub slots) between rest after := by
  rw [compileSlots, List.mapM_cons, yields_bind]
  constructor
  · rintro ⟨number, between, first, yields⟩
    obtain ⟨rest, end_, others, made⟩ := yields_bind.mp yields
    obtain ⟨rfl, rfl⟩ := yields_pure.mp made
    exact ⟨number, rest, between, rfl, first, others⟩
  · rintro ⟨number, rest, between, rfl, first, others⟩
    exact ⟨number, between, first, yields_bind.mpr ⟨rest, after, others, yields_pure.mpr ⟨rfl, rfl⟩⟩⟩

theorem yields_compileSlots_singleton {inner : Json} {numbers : List Nat} :
    Yields (place.compileSlots sub [([], inner)]) before numbers after ↔
      ∃ number, numbers = [number] ∧ Yields (place.subschema sub inner) before number after := by
  rw [yields_compileSlots_cons]
  constructor
  · rintro ⟨number, rest, between, rfl, first, others⟩
    obtain ⟨rfl, rfl⟩ := yields_compileSlots_nil.mp others
    exact ⟨number, rfl, first⟩
  · rintro ⟨number, rfl, first⟩
    exact ⟨number, [], after, rfl, first, yields_compileSlots_nil.mpr ⟨rfl, rfl⟩⟩

theorem yields_subschemas {numbers : List Nat} :
    Yields (place.subschemas sub value) before numbers after ↔ ∃ elements, value = .array elements ∧
      Yields (place.compileSlots sub (elements.zipIdx.map fun (element, index) => ([toString index], element)))
        before numbers after := by
  rw [subschemas, yields_bind]
  constructor
  · rintro ⟨elements, between, read, yields⟩
    obtain ⟨reads, rfl⟩ := yields_read.mp read
    refine ⟨elements, array_eq_ok reads, ?_⟩
    rw [compileSlots, List.mapM_map]
    exact yields
  · rintro ⟨elements, rfl, yields⟩
    rw [compileSlots, List.mapM_map] at yields
    exact ⟨elements, before, yields_read.mpr ⟨rfl, rfl⟩, yields⟩

theorem yields_someSubschemas {numbers : List Nat} :
    Yields (place.someSubschemas sub value) before numbers after ↔ ∃ first rest, value = .array (first :: rest) ∧
      Yields (place.compileSlots sub ((first :: rest).zipIdx.map fun (element, index) => ([toString index], element)))
        before numbers after := by
  unfold someSubschemas
  split
  · refine ⟨fun yields => ?_, fun ⟨first, rest, same, yields⟩ => by cases same⟩
    exact nomatch (yields_read.mp yields).1
  · next some =>
    rw [yields_subschemas]
    constructor
    · rintro ⟨elements, rfl, yields⟩
      cases elements with
      | nil => exact absurd rfl some
      | cons first rest => exact ⟨first, rest, rfl, yields⟩
    · rintro ⟨first, rest, rfl, yields⟩
      exact ⟨first :: rest, rfl, yields⟩

/-- The members of an object of sub-schemas are compiled in order, under their keys. -/
theorem yields_members {κ : Type} {key : String → Except CompileError κ} {members : List (String × Json)}
    {found : List (κ × Nat)} :
    Yields (members.mapM fun (name, member) => do
        let mapped ← key name
        return (mapped, ← place.subschemaAt sub [name] member)) before found after ↔
      members.map (fun member => key member.1) = found.map (fun entry => .ok entry.1) ∧
        Yields (place.compileSlots sub (members.map fun (name, member) => ([name], member))) before (found.map (·.2))
          after := by
  induction members generalizing before found with
  | nil =>
    rw [List.mapM_nil, yields_pure, List.map_nil, List.map_nil, yields_compileSlots_nil]
    constructor
    · rintro ⟨rfl, rfl⟩
      exact ⟨rfl, rfl, rfl⟩
    · rintro ⟨none, -, rfl⟩
      exact ⟨(List.map_eq_nil_iff.mp none.symm).symm, rfl⟩
  | cons member members ih =>
    rw [List.mapM_cons, yields_bind, List.map_cons, List.map_cons, yields_compileSlots_cons]
    constructor
    · rintro ⟨entry, between, yields, yieldsRest⟩
      obtain ⟨rest, end_, others, made⟩ := yields_bind.mp yieldsRest
      obtain ⟨rfl, rfl⟩ := yields_pure.mp made
      obtain ⟨mapped, start, read, yields⟩ := yields_bind.mp yields
      obtain ⟨reads, rfl⟩ := yields_read.mp read
      obtain ⟨number, stop, first, made⟩ := yields_bind.mp yields
      obtain ⟨rfl, rfl⟩ := yields_pure.mp made
      obtain ⟨keys, others⟩ := ih.mp others
      exact ⟨by rw [List.map_cons, reads, keys], number, rest.map (·.2), stop, rfl, first, others⟩
    · rintro ⟨keys, number, numbers, between, named, first, others⟩
      cases found with
      | nil => cases named
      | cons entry rest =>
        obtain ⟨rfl, rfl⟩ := List.cons.inj named
        obtain ⟨read, keys⟩ := List.cons.inj keys
        refine ⟨entry, between, ?_, yields_bind.mpr ⟨rest, after, ih.mpr ⟨keys, others⟩, yields_pure.mpr ⟨rfl, rfl⟩⟩⟩
        exact yields_bind.mpr ⟨entry.1, before, yields_read.mpr ⟨read, rfl⟩,
          yields_bind.mpr ⟨entry.2, between, first, yields_pure.mpr ⟨rfl, rfl⟩⟩⟩

theorem yields_subschemasBy {κ : Type} {key : String → Except CompileError κ} {found : List (κ × Nat)} :
    Yields (place.subschemasBy sub key value) before found after ↔ ∃ members, value = .object members ∧
      members.map (fun member => key member.1) = found.map (fun entry => .ok entry.1) ∧
        Yields (place.compileSlots sub (members.map fun (name, member) => ([name], member))) before (found.map (·.2))
          after := by
  rw [subschemasBy, yields_bind]
  constructor
  · rintro ⟨members, between, read, yields⟩
    obtain ⟨reads, rfl⟩ := yields_read.mp read
    exact ⟨members, object_eq_ok reads, yields_members.mp yields⟩
  · rintro ⟨members, rfl, yields⟩
    exact ⟨members, before, yields_read.mpr ⟨rfl, rfl⟩, yields_members.mpr yields⟩

/-! ## Keywords fill their slots -/

theorem fillsSlots_of_subschema (rule : Nat → Rule) (slots : meaning.slots value = [([], value)])
    (compiles : ∀ place registered sub, compile place registered sub meaning value =
      do return place.leaves (rule (← place.subschema sub value)))
    (renames : ∀ found number, (rule found).rename number = rule (number found))
    (lists : ∀ found, (rule found).subschemas = [found]) : FillsSlots meaning value := by
  refine fillsSlots_of_subschemas (fun place sub => place.subschema sub value) rule id compiles renames ?_
  intro place sub before found after yields
  rw [slots, lists]
  refine ⟨yields_compileSlots_singleton.mpr ⟨found, rfl, yields⟩, ?_⟩
  intro other sub before renumbered after number yields same
  obtain ⟨remade, rfl, yieldsRemade⟩ := yields_compileSlots_singleton.mp yields
  exact ⟨remade, yieldsRemade, List.singleton_inj.mp same, lists remade⟩

theorem fillsSlots_of_someSubschemas (rule : List Nat → Rule)
    (slots : ∀ elements, value = .array elements →
      meaning.slots value = elements.zipIdx.map fun (element, index) => ([toString index], element))
    (compiles : ∀ place registered sub, compile place registered sub meaning value =
      do return place.leaves (rule (← place.someSubschemas sub value)))
    (renames : ∀ found number, (rule found).rename number = rule (found.map number))
    (lists : ∀ found, (rule found).subschemas = found) : FillsSlots meaning value := by
  refine fillsSlots_of_subschemas (fun place sub => place.someSubschemas sub value) rule (fun number => List.map number)
    compiles renames ?_
  intro place sub before found after yields
  obtain ⟨first, rest, same, yields⟩ := yields_someSubschemas.mp yields
  rw [slots _ same, lists]
  refine ⟨yields, ?_⟩
  intro other sub before renumbered after number yields numbers
  exact ⟨renumbered, yields_someSubschemas.mpr ⟨first, rest, same, yields⟩, numbers, lists renumbered⟩

theorem fillsSlots_of_subschemasBy {κ : Type} (key : KeywordSite → String → Except CompileError κ)
    (rule : List (κ × Nat) → Rule)
    (slots : ∀ members, value = .object members →
      meaning.slots value = members.map fun (name, member) => ([name], member))
    (compiles : ∀ place registered sub, compile place registered sub meaning value =
      do return place.leaves (rule (← place.subschemasBy sub (key place) value)))
    (same : ∀ place other name, (key place name).toOption = (key other name).toOption)
    (renames : ∀ found number, (rule found).rename number = rule (found.map (Prod.map id number)))
    (lists : ∀ found, (rule found).subschemas = found.map (·.2)) : FillsSlots meaning value := by
  refine fillsSlots_of_subschemas (fun place sub => place.subschemasBy sub (key place) value) rule
    (fun number => List.map (Prod.map id number)) compiles renames ?_
  intro place sub before found after yields
  obtain ⟨members, object, keys, yields⟩ := yields_subschemasBy.mp yields
  rw [slots _ object, lists]
  refine ⟨yields, ?_⟩
  intro other sub before renumbered after number yieldsOther numbers
  have length : (found.map (·.1)).length = renumbered.length := by
    rw [List.length_map, ← List.length_map (fun entry : κ × Nat => entry.2), numbers, List.length_map]
  refine ⟨(found.map (·.1)).zip renumbered, yields_subschemasBy.mpr ⟨members, object, ?_, ?_⟩, ?_, ?_⟩
  · have alike : members.map (fun member => key other member.1) = members.map fun member => key place member.1 := by
      refine List.map_congr_left fun member inside => ?_
      obtain ⟨entry, -, named⟩ := List.mem_map.mp (keys ▸ List.mem_map_of_mem inside)
      rw [← named, toOption_eq_some (same place other member.1) named.symm]
    have firsts : found.map (fun entry => Except.ok (ε := CompileError) entry.1) =
        ((found.map (·.1)).zip renumbered).map fun entry => .ok entry.1 := by
      have named := congrArg (List.map (Except.ok (ε := CompileError))) (List.map_fst_zip (Nat.le_of_eq length))
      rw [List.map_map, List.map_map] at named
      exact named.symm
    rw [alike, keys, firsts]
  · rw [List.map_snd_zip (Nat.le_of_eq length.symm)]
    exact yieldsOther
  · rw [← List.zip_map, List.map_id, ← numbers]
    exact List.zip_of_prod rfl rfl
  · rw [lists, List.map_snd_zip (Nat.le_of_eq length.symm)]

theorem liftM_mapM {α β : Type} (list : List α) (read : α → Except CompileError β) :
    (liftM (list.mapM read) : Compile (List β)) = list.mapM fun item => liftM (read item) := by
  induction list with
  | nil => rfl
  | cons first rest ih =>
    rw [List.mapM_cons, List.mapM_cons, ← ih]
    cases read first with
    | error cause => rfl
    | ok found => cases rest.mapM read <;> rfl

/-- Every keyword but an id fills its slots. -/
theorem fillsSlots (meaning : StandardKeyword) (value : Json) (other : meaning ≠ .id) : FillsSlots meaning value := by
  have plain {α : Type} {read : KeywordSite → Except CompileError α} {rule : α → Rule}
      (renames : ∀ found number, (rule found).rename number = rule found)
      (lists : ∀ found, (rule found).subschemas = []) :
      ∀ place found, read place = .ok found →
        (∀ number, (rule found).rename number = rule found) ∧ (rule found).subschemas = [] :=
    fun _ found _ => ⟨renames found, lists found⟩
  cases meaning with
  | id => exact absurd rfl other
  | schema =>
    refine fillsSlots_of_mark (fun place => place.string value) (fun site _ => site) ?_ rfl
      (fun place other => toOption_string place other value) fun site other found => ⟨rfl, id⟩
    intro place registered sub
    simp only [compile]
    cases place.string value <;> rfl
  | anchor =>
    refine fillsSlots_of_mark (fun place => place.anchor value) (fun site name => { site with anchor := some name })
      (fun _ _ _ => rfl) rfl (fun place other => toOption_anchor place other value) fun site other found => ⟨rfl, ?_⟩
    intro kept
    rw [← kept]
    rfl
  | dynamicAnchor =>
    refine fillsSlots_of_mark (fun place => place.anchor value)
      (fun site name => { site with dynamicAnchor := some name })
      (fun _ _ _ => rfl) rfl (fun place other => toOption_anchor place other value) fun site other found => ⟨rfl, ?_⟩
    intro kept
    rw [← kept]
    rfl
  | vocabulary =>
    refine fillsSlots_of_mark (fun place => place.vocabularies value)
      (fun site vocabularies => { site with vocabularies := some vocabularies })
      (fun _ _ _ => rfl) rfl (fun place other => toOption_vocabularies place other value)
      fun site other found => ⟨rfl, ?_⟩
    intro kept
    rw [← kept]
    rfl
  | ref =>
    exact fillsSlots_of_read (fun place => place.reference value) .ref (fun _ _ _ => rfl) rfl
      (fun _ _ base => toOption_reference base value) (plain (fun _ _ => rfl) fun _ => rfl)
  | dynamicRef =>
    exact fillsSlots_of_read (fun place => place.reference value)
      (fun url => .dynamicRef url (if isAnchorName url.fragmentText then some url.fragmentText else none))
      (fun _ _ _ => rfl) rfl (fun _ _ base => toOption_reference base value) (plain (fun _ _ => rfl) fun _ => rfl)
  | comment =>
    exact fillsSlots_of_read (fun place => place.string value) .comment (fun _ _ _ => rfl) rfl
      (fun place other _ => toOption_string place other value) (plain (fun _ _ => rfl) fun _ => rfl)
  | format =>
    exact fillsSlots_of_read (fun place => place.string value) (.format · false) (fun _ _ _ => rfl) rfl
      (fun place other _ => toOption_string place other value) (plain (fun _ _ => rfl) fun _ => rfl)
  | formatAssertion =>
    exact fillsSlots_of_read (fun place => place.string value) (.format · true) (fun _ _ _ => rfl) rfl
      (fun place other _ => toOption_string place other value) (plain (fun _ _ => rfl) fun _ => rfl)
  | contentEncoding =>
    exact fillsSlots_of_read (fun place => place.string value) .contentEncoding (fun _ _ _ => rfl) rfl
      (fun place other _ => toOption_string place other value) (plain (fun _ _ => rfl) fun _ => rfl)
  | contentMediaType =>
    exact fillsSlots_of_read (fun place => place.string value) .contentMediaType (fun _ _ _ => rfl) rfl
      (fun place other _ => toOption_string place other value) (plain (fun _ _ => rfl) fun _ => rfl)
  | type =>
    exact fillsSlots_of_read (fun place => place.types value) (.assertion <| .type ·) (fun _ _ _ => rfl) rfl
      (fun place other _ => toOption_types place other value) (plain (fun _ _ => rfl) fun _ => rfl)
  | const =>
    exact fillsSlots_of_read (fun _ => .ok value) (.assertion <| .const ·) (fun _ _ _ => rfl) rfl
      (fun _ _ _ => rfl) (plain (fun _ _ => rfl) fun _ => rfl)
  | enum =>
    exact fillsSlots_of_read (fun place => place.array value) (.assertion <| .enum ·) (fun _ _ _ => rfl) rfl
      (fun place other _ => toOption_array place other value) (plain (fun _ _ => rfl) fun _ => rfl)
  | multipleOf =>
    exact fillsSlots_of_read (fun place => place.divisor value) (.assertion <| .multipleOf ·) (fun _ _ _ => rfl) rfl
      (fun place other _ => toOption_divisor place other value) (plain (fun _ _ => rfl) fun _ => rfl)
  | limit kind =>
    exact fillsSlots_of_read (fun place => place.number value) (.assertion <| .limit kind ·) (fun _ _ _ => rfl) rfl
      (fun place other _ => toOption_number place other value) (plain (fun _ _ => rfl) fun _ => rfl)
  | count bound =>
    exact fillsSlots_of_read (fun place => place.count value) (.assertion <| .count bound ·) (fun _ _ _ => rfl) rfl
      (fun place other _ => toOption_count place other value) (plain (fun _ _ => rfl) fun _ => rfl)
  | uniqueItems =>
    exact fillsSlots_of_read (fun place => place.boolean value) (.assertion <| .uniqueItems ·) (fun _ _ _ => rfl) rfl
      (fun place other _ => toOption_boolean place other value) (plain (fun _ _ => rfl) fun _ => rfl)
  | required =>
    exact fillsSlots_of_read (fun place => place.names value) (.assertion <| .required ·) (fun _ _ _ => rfl) rfl
      (fun place other _ => toOption_names place other value) (plain (fun _ _ => rfl) fun _ => rfl)
  | pattern =>
    refine fillsSlots_of_read (fun place => place.string value >>= place.pattern) (.assertion <| .pattern ·) ?_ rfl
      (fun place other _ => toOption_bind (toOption_string place other value) (toOption_pattern place other))
      (plain (fun _ _ => rfl) fun _ => rfl)
    intro place registered sub
    simp only [compile]
    cases place.string value <;> rfl
  | dependentRequired =>
    refine fillsSlots_of_read (fun place => do
        (← place.object value).mapM fun (name, names) => do return (name, ← place.names names))
      (.assertion <| .dependentRequired ·) ?_ rfl ?_ (plain (fun _ _ => rfl) fun _ => rfl)
    · intro place registered sub
      simp only [compile]
      cases place.object value with
      | error cause => rfl
      | ok members =>
        have lifts : (liftM (members.mapM fun (name, names) => do return (name, ← place.names names)) :
            Compile (List (String × List String))) =
            members.mapM fun (name, names) => do return (name, ← liftM (place.names names)) := by
          rw [liftM_mapM]
          congr 1
          funext member
          cases names : place.names member.2 <;> simp only [names] <;> rfl
        show (members.mapM fun (name, names) => do return (name, ← liftM (place.names names)) : Compile _) >>= _ = _
        rw [← lifts]
        rfl
    · intro place other _
      refine toOption_bind (toOption_object place other value) fun members => toOption_mapM fun member => ?_
      exact toOption_bind (toOption_names place other member.2) fun _ => rfl
  | description kind =>
    refine fillsSlots_of_read (fun place => place.description kind value) id (fun _ _ _ => rfl) rfl
      (fun place other _ => toOption_description place other kind value) ?_
    intro place found read
    cases kind <;> cases value <;> cases read <;> exact ⟨fun _ => rfl, rfl⟩
  | items => exact fillsSlots_of_subschema .items rfl (fun _ _ _ => rfl) (fun _ _ => rfl) fun _ => rfl
  | contains => exact fillsSlots_of_subschema .contains rfl (fun _ _ _ => rfl) (fun _ _ => rfl) fun _ => rfl
  | additionalProperties =>
    exact fillsSlots_of_subschema .additionalProperties rfl (fun _ _ _ => rfl) (fun _ _ => rfl) fun _ => rfl
  | propertyNames =>
    exact fillsSlots_of_subschema .propertyNames rfl (fun _ _ _ => rfl) (fun _ _ => rfl) fun _ => rfl
  | condition => exact fillsSlots_of_subschema .condition rfl (fun _ _ _ => rfl) (fun _ _ => rfl) fun _ => rfl
  | consequence => exact fillsSlots_of_subschema (.branch true) rfl (fun _ _ _ => rfl) (fun _ _ => rfl) fun _ => rfl
  | alternative => exact fillsSlots_of_subschema (.branch false) rfl (fun _ _ _ => rfl) (fun _ _ => rfl) fun _ => rfl
  | not => exact fillsSlots_of_subschema .not rfl (fun _ _ _ => rfl) (fun _ _ => rfl) fun _ => rfl
  | unevaluatedItems =>
    exact fillsSlots_of_subschema .unevaluatedItems rfl (fun _ _ _ => rfl) (fun _ _ => rfl) fun _ => rfl
  | unevaluatedProperties =>
    exact fillsSlots_of_subschema .unevaluatedProperties rfl (fun _ _ _ => rfl) (fun _ _ => rfl) fun _ => rfl
  | contentSchema =>
    exact fillsSlots_of_subschema .contentSchema rfl (fun _ _ _ => rfl) (fun _ _ => rfl) fun _ => rfl
  | prefixItems =>
    exact fillsSlots_of_someSubschemas .prefixItems (fun _ same => by rw [same]; rfl) (fun _ _ _ => rfl)
      (fun _ _ => rfl)
      fun _ => rfl
  | combination kind =>
    exact fillsSlots_of_someSubschemas (.combination kind) (fun _ same => by rw [same]; rfl) (fun _ _ _ => rfl)
      (fun _ _ => rfl) fun _ => rfl
  | defs =>
    exact fillsSlots_of_subschemasBy (fun _ => .ok) .defs (fun _ same => by rw [same]; rfl) (fun _ _ _ => rfl)
      (fun _ _ _ => rfl) (fun _ _ => rfl) fun _ => rfl
  | properties =>
    exact fillsSlots_of_subschemasBy (fun _ => .ok) .properties (fun _ same => by rw [same]; rfl) (fun _ _ _ => rfl)
      (fun _ _ _ => rfl) (fun _ _ => rfl) fun _ => rfl
  | dependentSchemas =>
    exact fillsSlots_of_subschemasBy (fun _ => .ok) .dependentSchemas (fun _ same => by rw [same]; rfl)
      (fun _ _ _ => rfl) (fun _ _ _ => rfl) (fun _ _ => rfl) fun _ => rfl
  | patternProperties =>
    exact fillsSlots_of_subschemasBy pattern .patternProperties (fun _ same => by rw [same]; rfl) (fun _ _ _ => rfl)
      toOption_pattern (fun _ _ => rfl) fun _ => rfl

end KeywordSite

end JsonSchema
