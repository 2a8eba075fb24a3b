import JsonSchema.Proofs.Compile.Strictness
import JsonSchema.Proofs.Json.Equality
import Mathlib.Data.Rat.Cast.Order

/-! # Counts

A number is a count if its value is a natural number that fits a word, in whatever form it is given. There is one
exception (`Number.count?_exact_iff`): the double just above the greatest word is taken for that word. The counting
keywords of a schema object and the bounds in its rules correspond one by one, each bound being the count that is
written under the keyword (`Schema.bounds_written`).
-/

namespace JsonSchema

open Compile

/-! ## Values of numbers -/

/-- The exact value of a number. -/
def Number.value : Number → ℚ
  | .integer n => n
  | .double x => x.units / Binary64.unit

/-- Whether a natural number is the count of a number: its value, if that fits a word, or the greatest word for the
double just above it. -/
def Number.Counts (v : Number) (n : Nat) : Prop :=
  v.value = n ∧ n ≤ Word.greatest ∨ (∃ x, v = .double x) ∧ v.value = Word.count ∧ n = Word.greatest

namespace Binary64

/-- The double just above the greatest word. -/
def aboveGreatest : Binary64 := ⟨false, Nat.pow 2 52, 1086, by decide, .inl (by decide), by decide⟩

/-- The value of a double is its absolute value just if it has no sign or is zero. -/
theorem units_eq_magnitude_iff (x : Binary64) : x.units = x.magnitude ↔ (!x.negative || x.significand == 0) = true := by
  rw [units, magnitude]
  cases x.negative with
  | false => simp
  | true =>
    have positive : 0 < Nat.pow 2 x.scale := Nat.two_pow_pos _
    rw [if_pos rfl, Bool.not_true, Bool.false_or, beq_iff_eq]
    constructor
    · intro same
      have none : x.significand * Nat.pow 2 x.scale = 0 := by omega
      exact (Nat.mul_eq_zero.mp none).resolve_right (Nat.ne_of_gt positive)
    · intro none
      rw [none, Nat.zero_mul]
      rfl

theorem units_eq_mul_iff {x : Binary64} {n : Nat} : x.units = n * unit ↔
    (x.isIntegral && (!x.negative || x.significand == 0)) = true ∧ x.floorMagnitude = n := by
  rw [Bool.and_eq_true, ← units_eq_magnitude_iff, isIntegral, floorMagnitude, decide_eq_true_eq]
  constructor
  · intro same
    have above : x.units = x.magnitude := by
      have nonnegative : 0 ≤ x.units := by
        rw [same]
        exact_mod_cast Nat.zero_le (n * unit)
      cases sign : x.negative with
      | false => rw [units, if_neg (by simp [sign])]
      | true =>
        rw [units, if_pos sign] at nonnegative ⊢
        omega
    have counted : x.magnitude = n * unit := by
      rw [above] at same
      exact_mod_cast same
    exact ⟨⟨by rw [counted, Nat.mul_mod_left], above⟩, by rw [counted, Nat.mul_div_cancel _ unit_pos]⟩
  · rintro ⟨⟨whole, above⟩, rfl⟩
    rw [above, ← Nat.cast_mul, Nat.div_mul_cancel (Nat.dvd_of_mod_eq_zero whole)]

theorem value_eq_natCast_iff {x : Binary64} {n : Nat} : (Number.double x).value = n ↔ x.units = n * unit := by
  have nonzero : (unit : ℚ) ≠ 0 := Nat.cast_ne_zero.mpr (Nat.ne_of_gt unit_pos)
  rw [Number.value, div_eq_iff nonzero]
  exact_mod_cast Iff.rfl

end Binary64

namespace Number

variable {v : Number} {n : Nat}

/-- What the count of a number is. -/
theorem count?_eq_some_iff : v.count? = some n ↔ v.Counts n := by
  have greatest : Word.greatest + 1 = Word.count := rfl
  cases v with
  | integer m =>
    have same : (Number.integer m).value = n ↔ m = n := by
      rw [value]
      exact_mod_cast Iff.rfl
    rw [count?, Counts, same, or_iff_left (by rintro ⟨⟨x, impossible⟩, -⟩; cases impossible),
      Option.ite_none_right_eq_some, Option.some.injEq]
    omega
  | double x =>
    rw [Counts, Binary64.value_eq_natCast_iff, Binary64.value_eq_natCast_iff, Binary64.units_eq_mul_iff,
      Binary64.units_eq_mul_iff, count?, Option.ite_none_right_eq_some, Bool.and_eq_true, decide_eq_true_eq,
      Option.some.injEq]
    generalize (x.isIntegral && (!x.negative || x.significand == 0)) = isCount
    have isDouble : ∃ y, Number.double x = .double y := ⟨x, rfl⟩
    constructor
    · rintro ⟨⟨counts, bound⟩, rfl⟩
      rcases Nat.lt_or_eq_of_le bound with below | same
      · exact .inl ⟨⟨counts, by omega⟩, Nat.min_le_right _ _⟩
      · exact .inr ⟨isDouble, ⟨counts, same⟩, by omega⟩
    · rintro (⟨⟨counts, rfl⟩, bound⟩ | ⟨-, ⟨counts, same⟩, rfl⟩)
      · exact ⟨⟨counts, by omega⟩, Nat.min_eq_left bound⟩
      · exact ⟨⟨counts, Nat.le_of_eq same⟩, by omega⟩

/-- The count of a number is its value unless it is the double just above the greatest word. -/
theorem count?_exact_iff : (∀ n, v.count? = some n ↔ v.value = n ∧ n ≤ Word.greatest) ↔
    ¬ ((∃ x, v = .double x) ∧ v.value = Word.count) := by
  constructor
  · rintro every ⟨isDouble, above⟩
    have counts : v.count? = some Word.greatest := count?_eq_some_iff.mpr (.inr ⟨isDouble, above, rfl⟩)
    have same := ((every _).mp counts).1
    rw [above] at same
    exact absurd (Nat.cast_injective same) (by decide)
  · intro other n
    rw [count?_eq_some_iff, Counts, or_iff_left fun exceptional => other ⟨exceptional.1, exceptional.2.1⟩]

end Number

/-! ## Bounds in rules -/

/-- The bound that a rule puts on a count. -/
def Rule.bound? : Rule → Option (CountBound × Nat)
  | .assertion (.count kind bound) => some (kind, bound)
  | _ => none

/-- The bounds that a node puts on counts. -/
def Node.bounds (node : Node) : List (CountBound × Nat) := node.rules.filterMap Rule.bound?

/-- The kind of bound that a keyword puts on a count. -/
def StandardKeyword.countBound? : StandardKeyword → Option CountBound
  | .count kind => some kind
  | _ => none

/-- What is written under the counting keywords of a dialect in a schema object. -/
def Dialect.countMembers (dialect : Dialect) (members : List (String × Json)) : List (CountBound × Json) :=
  (KeywordEntry.inOrder (Site.knownMembers dialect members)).filterMap fun entry =>
    entry.spec.meaning.countBound?.map (·, entry.item)

/-- Whether a bound is the count that is written under its keyword. -/
def IsWritten (member : CountBound × Json) (bound : CountBound × Nat) : Prop :=
  member.1 = bound.1 ∧ ∃ v, member.2 = .number v ∧ v.Counts bound.2

theorem Rule.bound?_eq_none {rule : Rule} {meaning : StandardKeyword} (means : rule.standard? = some meaning)
    (other : meaning.countBound? = none) : rule.bound? = none := by
  cases rule with
  | assertion check =>
    cases check with
    | count kind bound =>
      cases means
      cases other
    | _ => rfl
  | _ => rfl

section

variable {options : Options} {registered : Bool} {sub : Site → Json → Compile Nat} {before after : Assembly}

namespace KeywordSite

variable {place : KeywordSite} {value : Json}

theorem count_eq_ok_iff {n : Nat} : place.count value = .ok n ↔ ∃ v, value = .number v ∧ v.Counts n := by
  cases value with
  | number v =>
    rw [count]
    cases counts : v.count? with
    | none => simp [invalidValue, ← Number.count?_eq_some_iff, counts]
    | some found => simp [← Number.count?_eq_some_iff, counts]
  | _ => simp [count, invalidType]

theorem bounds_of_yields {meaning : StandardKeyword} {result : Site × Option Rule}
    (yields : Yields (place.compile registered sub meaning value) before result after) :
    List.Forall₂ IsWritten (meaning.countBound?.map (·, value)).toList (result.2.toList.filterMap Rule.bound?) := by
  cases bounds : meaning.countBound? with
  | none =>
    have silent : result.2.toList.filterMap Rule.bound? = [] := by
      refine List.filterMap_eq_nil_iff.mpr fun rule member => ?_
      exact Rule.bound?_eq_none ((leaves_of_yields yields).2 rule (Option.mem_toList.mp member)) bounds
    rw [silent]
    exact .nil
  | some kind =>
    obtain rfl : meaning = .count kind := by
      cases meaning <;> cases bounds
      rfl
    obtain ⟨bound, between, read, made⟩ := yields_bind.mp yields
    obtain ⟨rfl, rfl⟩ := yields_pure.mp made
    exact .cons ⟨rfl, count_eq_ok_iff.mp (yields_read.mp read).1⟩ .nil

end KeywordSite

theorem Site.bounds_of_yields_compileKeywords {site : Site} {entries : List (KeywordEntry Json)}
    {result : Site × List Rule} (yields : Yields (compileKeywords registered sub site entries) before result after) :
    List.Forall₂ IsWritten (entries.filterMap fun entry => entry.spec.meaning.countBound?.map (·, entry.item))
      (result.2.filterMap Rule.bound?) := by
  induction entries generalizing site before result with
  | nil =>
    obtain ⟨rfl, rfl⟩ := yields_compileKeywords_nil.mp yields
    exact .nil
  | cons entry entries ih =>
    obtain ⟨first, between, rest, yieldsFirst, yieldsRest, rfl⟩ := yields_compileKeywords_cons.mp yields
    have ahead := KeywordSite.bounds_of_yields yieldsFirst
    rw [List.filterMap_append, List.filterMap_cons]
    cases bounds : entry.spec.meaning.countBound?.map (·, entry.item) with
    | none =>
      rw [bounds] at ahead
      exact List.rel_append ahead (ih yieldsRest)
    | some member =>
      rw [bounds] at ahead
      exact List.rel_append ahead (ih yieldsRest)

/-- Rules for unknown keywords put no bounds on counts. -/
theorem UnknownKeywords.filterMap_bound?_complete? {treatment : UnknownKeywords} {unknown : List (String × Json)}
    {rules complete : List Rule} (completes : treatment.complete? unknown rules = some complete) :
    complete.filterMap Rule.bound? = rules.filterMap Rule.bound? := by
  obtain ⟨ahead, behind, same, inserted, -⟩ := Site.withUnknown_eq unknown rules
  have silent : (unknown.map fun member => Rule.unknown member.1 member.2).filterMap Rule.bound? = [] := by
    rw [List.filterMap_map]
    exact List.filterMap_eq_nil_iff.mpr fun _ _ => rfl
  unfold complete? at completes
  split at completes
  · cases completes
  · obtain rfl := Option.some.inj completes
    rw [inserted, same, List.filterMap_append, List.filterMap_append, List.filterMap_append, silent, List.append_nil]
  · rw [Option.some.inj completes]

/-- The counting keywords of a schema object are compiled to bounds one by one, whichever dialect it is compiled under. -/
theorem Node.CompiledUnder.bounds {dialect : Dialect} {node : Node} (compiled : node.CompiledUnder dialect)
    {members : List (String × Json)} (value : node.value = .object members) :
    List.Forall₂ IsWritten (dialect.countMembers members) node.bounds := by
  obtain ⟨site, options, registered, sub, before, final, after, run, rfl⟩ := compiled
  rw [value] at run
  obtain ⟨selected, start, rules, complete, -, keywords, completes, shape⟩ := Site.yields_compileShape_object.mp run
  have stays : final.dialect = selected.dialect := Site.dialect_of_yields_compileKeywords keywords
  rw [Node.bounds, Node.rules_of_shape shape, UnknownKeywords.filterMap_bound?_complete? completes, stays]
  exact Site.bounds_of_yields_compileKeywords keywords

end

/-! ## Bounds in documents -/

/-- Every node is compiled under some dialect. -/
theorem Site.keeps_compileWithin_compiled {options : Options} {registered : Bool} (depth : Nat) (site : Site)
    (value : Json) : Keeps (fun slots => ∀ node, some node ∈ slots → ∃ dialect, node.CompiledUnder dialect)
      (fun _ => True) (compileWithin options registered depth site value) := by
  induction depth generalizing site value with
  | zero => exact keeps_throw
  | succ depth ih =>
    exact keeps_compileNode (fun _ => True) (fun _ dialect _ compiled => ⟨dialect, compiled⟩)
      (fun _ _ site value _ => ih site value) site value trivial fun _ => keeps_selectDialect_of_nodes

namespace Schema

theorem exists_compiledUnder {options : Options} {dialect : Dialect} {base : Url} {registered : Bool} {value : Json}
    {dialects : DialectCache} {schema : Schema}
    (compiled : (compileDocument options dialect base registered value dialects).1 = .ok schema) (index : Nat) :
    ∃ governing, (schema.document.node index).CompiledUnder governing := by
  obtain ⟨root, assembly, yields, finished, -⟩ := exists_assembly_of_compileDocument compiled
  have nothing : ∀ node, some node ∈ (Assembly.start dialect base registered dialects).nodes →
      ∃ dialect, node.CompiledUnder dialect := fun node member => absurd member (by simp [Assembly.start])
  have all := ((Site.keeps_compileWithin_compiled _ _ value).of_yields yields nothing).1
  rcases schema.document.node_mem_or_beyond index with inside | beyond
  · exact all _ (Assembly.some_mem_of_document? finished inside)
  · rw [beyond]
    exact ⟨dialect, Node.compiledUnder_of_boolean dialect rfl rfl⟩

/-- A number is a count if its value is a natural number that fits a word, and the only exception is the double just above
the greatest word. Under whichever dialect a node was compiled, its bounds are the counts that are written under its
counting keywords. -/
theorem bounds_written (v : Number) :
    (∀ n, v.count? = some n ↔ v.Counts n) ∧
      ((∀ n, v.count? = some n ↔ v.value = n ∧ n ≤ Word.greatest) ↔
        ¬ ((∃ x, v = .double x) ∧ v.value = Word.count)) ∧
      ∀ {options : Options} {dialect : Dialect} {base : Url} {registered : Bool} {value : Json}
        {dialects : DialectCache} {schema : Schema},
        (compileDocument options dialect base registered value dialects).1 = .ok schema → ∀ index,
          (∃ governing, (schema.document.node index).CompiledUnder governing) ∧
            ∀ governing members, (schema.document.node index).CompiledUnder governing →
              (schema.document.node index).value = .object members →
                List.Forall₂ IsWritten (governing.countMembers members) (schema.document.node index).bounds :=
  ⟨fun _ => Number.count?_eq_some_iff, Number.count?_exact_iff, fun compiled index =>
    ⟨exists_compiledUnder compiled index, fun _ _ governs value => governs.bounds value⟩⟩

/-- A bound in the form of a double, and the double just above the greatest word in a schema inside. -/
theorem bounds_written_nested :
    let two : Number := .double ⟨false, Nat.pow 2 52, 1023, by decide, .inl (by decide), by decide⟩
    let inner : List (String × Json) := [("maxLength", .number (.double Binary64.aboveGreatest))]
    let value : Json := .object [("minItems", .number two), ("not", .object inner)]
    ∃ schema, (compileDocument .standard Draft.dialect (Draft.url "example") true value []).1 = .ok schema ∧
      (schema.document.node 0).bounds = [(.min .items, 2)] ∧
      (schema.document.node 1).bounds = [(.max .length, Word.greatest)] ∧
      (schema.document.node 1).value = .object inner ∧
      ∃ governing, (schema.document.node 1).CompiledUnder governing ∧
        List.Forall₂ IsWritten (governing.countMembers inner) (schema.document.node 1).bounds := by
  intro two inner value
  let check (schema : Schema) : Bool :=
    (schema.document.node 0).bounds = [(.min .items, 2)] ∧
      (schema.document.node 1).bounds = [(.max .length, Word.greatest)] ∧
      (schema.document.node 1).value = .object inner
  obtain ⟨schema, compiled, checked⟩ := Option.map_eq_some_iff.mp (by decide +kernel :
    (compileDocument .standard Draft.dialect (Draft.url "example") true value []).1.toOption.map check = some true)
  obtain ⟨first, second, inside⟩ := of_decide_eq_true checked
  have compiled := Except.eq_ok_of_toOption compiled
  obtain ⟨⟨governing, under⟩, every⟩ := (bounds_written two).2.2 compiled 1
  exact ⟨schema, compiled, first, second, inside, governing, under, every governing inner under inside⟩

/-- The double just above the greatest word is taken for a count that is not its value, also as a bound. -/
theorem greatest_counts_above :
    let above : Number := .double Binary64.aboveGreatest
    above.value = Word.count ∧ above.count? = some Word.greatest ∧
      ((compileDocument .standard Draft.dialect (Draft.url "example") true (.object [("minItems", .number above)])
        []).1.toOption.map fun schema => (schema.document.node 0).bounds) = some [(.min .items, Word.greatest)] ∧
      ¬ ∀ (v : Number) (n : Nat), v.count? = some n ↔ v.value = n ∧ n ≤ Word.greatest := by
  intro above
  have value : above.value = Word.count := Binary64.value_eq_natCast_iff.mpr (by decide +kernel)
  have counts : above.count? = some Word.greatest := by decide +kernel
  exact ⟨value, counts, by decide +kernel, fun every =>
    Number.count?_exact_iff.mp (every above) ⟨⟨_, rfl⟩, value⟩⟩

end Schema

end JsonSchema
