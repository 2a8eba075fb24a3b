import JsonSchema.Proofs.Compile.Standing
import JsonSchema.Proofs.Compile.Strictness

/-! # Registered resources

Whatever the dialects are, the resources of a document are a tree, and each of them has an id of its own
(`Schema.isTree_of_compileWith`): a resource starts inside the one around it and takes an id that is not taken yet. The
proof goes through the steps of compilation, which keep the resources registered (`Site.registersBelow_compileWithin`).
-/

namespace JsonSchema

open Compile

/-- Whether the resources of a document are a tree below the first one, with an id for each of them. -/
structure Document.IsTree (document : Document) : Prop where
  outermost : ∃ resource, document.resources[0]? = some resource ∧ resource.parent = none
  inner : ∀ index resource, document.resources[index]? = some resource → index ≠ 0 →
    ∃ parent < index, resource.parent = some parent
  distinct : ∀ (first second : Nat) (resource other : Resource), document.resources[first]? = some resource →
    document.resources[second]? = some other → resource.id = other.id → first = second

section

variable {options : Options} {registered : Bool} {sub : Site → Json → Compile Nat} {before after : Assembly}

/-- Whether compiling a sub-schema in a resource keeps the resources registered. -/
def RegistersBelow (registered : Bool) (sub : Site → Json → Compile Nat) : Prop :=
  ∀ site value before number after, Yields (sub site value) before number after → before.Registers registered →
    site.resource < before.resources.size →
      after.Registers registered ∧ before.resources.size ≤ after.resources.size

variable (below : RegistersBelow registered sub) (registers : before.Registers registered)
include below registers

namespace KeywordSite

variable {place : KeywordSite} {meaning : StandardKeyword} {value : Json}

theorem registers_compileSlots {slots : List (List String × Json)} {numbers : List Nat}
    (yields : Yields (place.compileSlots sub slots) before numbers after)
    (inside : place.site.resource < before.resources.size) :
    after.Registers registered ∧ before.resources.size ≤ after.resources.size := by
  induction slots generalizing before numbers with
  | nil =>
    obtain ⟨rfl, rfl⟩ := yields_compileSlots_nil.mp yields
    exact ⟨registers, le_rfl⟩
  | cons slot slots ih =>
    obtain ⟨number, rest, between, rfl, first, others⟩ := yields_compileSlots_cons.mp yields
    obtain ⟨registersBetween, le⟩ := below _ _ _ _ _ first registers inside
    obtain ⟨registersAfter, leAfter⟩ := ih registersBetween others (inside.trans_le le)
    exact ⟨registersAfter, le.trans leAfter⟩

/-- A keyword keeps the resources registered, and the site after it is in one of them. -/
theorem registers_compile {result : Site × Option Rule}
    (yields : Yields (place.compile registered sub meaning value) before result after)
    (inside : place.site.resource < before.resources.size) :
    after.Registers registered ∧ before.resources.size ≤ after.resources.size ∧
      result.1.resource < after.resources.size := by
  by_cases identifies : meaning = .id
  · subst identifies
    have present : (Json.object [(StandardKeyword.id.name, value)]).member? StandardKeyword.id.name = some value := rfl
    have opens := (opens_of_yields _ present yields).1
    obtain ⟨registersAfter, insideAfter⟩ := opens.registers registers inside
    exact ⟨registersAfter, opens.size_resources_le, insideAfter⟩
  · obtain ⟨marked, numbers, slots, -⟩ := fillsSlots meaning value identifies _ _ _ _ _ _ yields
    obtain ⟨registersAfter, le⟩ := registers_compileSlots below registers slots inside
    have stays : result.1.resource = place.site.resource := by
      rw [← marked]
      rfl
    exact ⟨registersAfter, le, stays ▸ inside.trans_le le⟩

end KeywordSite

namespace Site

variable {site : Site}

theorem registers_compileKeywords {entries : List (KeywordEntry Json)} {result : Site × List Rule}
    (yields : Yields (compileKeywords registered sub site entries) before result after)
    (inside : site.resource < before.resources.size) :
    after.Registers registered ∧ before.resources.size ≤ after.resources.size := by
  induction entries generalizing site before result with
  | nil =>
    obtain ⟨rfl, rfl⟩ := yields_compileKeywords_nil.mp yields
    exact ⟨registers, le_rfl⟩
  | cons entry entries ih =>
    obtain ⟨first, between, rest, yieldsFirst, yieldsRest, rfl⟩ := yields_compileKeywords_cons.mp yields
    obtain ⟨registersBetween, le, insideBetween⟩ := KeywordSite.registers_compile below registers yieldsFirst inside
    obtain ⟨registersAfter, leAfter⟩ := ih registersBetween yieldsRest insideBetween
    exact ⟨registersAfter, le.trans leAfter⟩

omit below

/-- To select a dialect changes neither the ids of resources nor what they are in. -/
theorem registers_selectDialect {members : List (String × Json)} {selected : Site}
    (yields : Yields (site.selectDialect options members) before selected after) :
    after.Registers registered ∧ after.resources.size = before.resources.size ∧ selected.resource = site.resource := by
  rcases cases_of_yields_selectDialect yields with ⟨-, rfl, rfl⟩ | ⟨value, dialect, dialects, -, -, rfl, rfl⟩
  · exact ⟨registers, rfl, rfl⟩
  · exact ⟨registers.congr (map_resources_selected before.resources dialect site fun _ => rfl) rfl rfl,
      size_resources_selected before.resources dialect site, rfl⟩

include below

theorem registers_compileShape {value : Json} {made : Site × Shape}
    (yields : Yields (site.compileShape options registered sub value) before made after)
    (inside : site.resource < before.resources.size) :
    after.Registers registered ∧ before.resources.size ≤ after.resources.size := by
  cases value with
  | bool accepts =>
    obtain ⟨-, rfl⟩ := yields_pure.mp yields
    exact ⟨registers, le_rfl⟩
  | object members =>
    obtain ⟨selected, start, rules, complete, selects, keywords, -⟩ := yields_compileShape_object.mp yields
    obtain ⟨registersStart, size, stays⟩ := registers_selectDialect registers selects
    rw [← size]
    exact registers_compileKeywords below registersStart keywords (by rwa [stays, size])
  | _ => exact absurd yields yields_throw

omit below registers

/-- Compilation keeps the resources registered. -/
theorem registersBelow_compileWithin (depth : Nat) :
    RegistersBelow registered (compileWithin options registered depth) := by
  induction depth with
  | zero => exact fun _ _ _ _ _ yields => absurd yields yields_throw
  | succ depth ih =>
    intro site value before number after yields registers inside
    obtain ⟨-, made, middle, shapes, finishes⟩ := yields_compileNode.mp yields
    have registersPushed : Assembly.Registers registered { before with nodes := before.nodes.push none } :=
      registers.congr (fun _ => rfl) rfl rfl
    obtain ⟨registersMiddle, le⟩ := registers_compileShape ih registersPushed shapes inside
    obtain rfl := yields_finish.mp finishes
    exact ⟨registers_finished registersMiddle, le.trans size_resources_finished.ge⟩

end Site

end

/-- The resources of a document that was compiled are a tree, and each has an id of its own. -/
theorem Schema.isTree_of_compileWith {options : Options} {url : Url} {value : Json} {dialects : DialectCache}
    {schema : Schema} (compiled : (compileWith options url value dialects).1 = .ok schema) :
    schema.document.IsTree ∧ schema.resource = 0 := by
  obtain ⟨root, final, yields, finished, first⟩ := exists_assembly_of_compileDocument compiled
  obtain ⟨registers, -⟩ := Site.registersBelow_compileWithin _ _ _ _ _ _ yields (registers_start _ _ _ _)
    Nat.zero_lt_one
  obtain ⟨resources, -⟩ := Assembly.resources_of_document? finished
  refine ⟨⟨resources ▸ registers.outermost, resources ▸ registers.inner, ?_⟩, first⟩
  intro first second resource other found foundOther same
  rw [resources] at found foundOther
  have named := registers.found first resource found fun _ => rfl
  have namedOther := registers.found second other foundOther fun _ => rfl
  exact Option.some.inj (named.symm.trans (same ▸ namedOther))

end JsonSchema
