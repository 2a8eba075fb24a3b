import JsonSchema.Proofs.Compile.Parallel
import JsonSchema.Proofs.Compile.Relocation

/-! # The depth of a value is bound enough

The compilation of a value calls itself for values inside it only, and so never as deep as its bound: with any other
bound above the depth of the value it does the same (`Site.compileWithin_eq`).
-/

namespace JsonSchema

open Compile

/-- What is part of a member's value is less deep than the object. -/
theorem Json.Part.depth_lt {members : List (String × Json)} {name : String} {value inner : Json}
    (member : (name, value) ∈ members) (part : Json.Part inner value) : inner.depth < (Json.object members).depth := by
  have below : inner.depth ≤ value.depth := by
    cases part with
    | self => exact Nat.le_refl _
    | item inside => exact (Json.depth_le_of_mem_items inside).trans (Nat.le_succ _)
    | member inside => exact (Json.depth_le_of_mem_members inside).trans (Nat.le_succ _)
  exact Nat.lt_succ_of_le (below.trans (Json.depth_le_of_mem_members member))

theorem Compile.mapM_congr {α β : Type} {step other : α → Compile β} {items : List α}
    (same : ∀ item ∈ items, step item = other item) : items.mapM step = items.mapM other := by
  induction items with
  | nil => rfl
  | cons item rest ih =>
    rw [List.mapM_cons, List.mapM_cons, same item List.mem_cons_self, ih fun item member =>
      same item (List.mem_cons_of_mem _ member)]

variable {sub other : Site → Json → Compile Nat} {registered : Bool} {value : Json}

namespace KeywordSite

variable (place : KeywordSite) (same : ∀ site inner, Json.Part inner value → sub site inner = other site inner)
include same

theorem subschema_congr : place.subschema sub value = place.subschema other value := same _ _ (.self value)

theorem subschemas_congr : place.subschemas sub value = place.subschemas other value := by
  unfold subschemas
  cases value with
  | array items =>
    exact mapM_congr fun entry member => same _ _ (.item (List.fst_mem_of_mem_zipIdx member))
  | _ => rfl

theorem someSubschemas_congr : place.someSubschemas sub value = place.someSubschemas other value := by
  unfold someSubschemas
  split
  · rfl
  · exact place.subschemas_congr same

theorem subschemasBy_congr {κ : Type} (key : String → Except CompileError κ) :
    place.subschemasBy sub key value = place.subschemasBy other key value := by
  unfold subschemasBy
  cases value with
  | object members =>
    refine mapM_congr fun entry member => congrArg (Bind.bind _) (funext fun mapped => ?_)
    rw [subschemaAt, same _ _ (.member member)]
    rfl
  | _ => rfl

/-- A keyword is compiled alike if the sub-schemas in its value are. -/
theorem compile_congr (meaning : StandardKeyword) :
    place.compile registered sub meaning value = place.compile registered other meaning value := by
  unfold compile
  simp only [place.subschema_congr same, place.someSubschemas_congr same, place.subschemasBy_congr same]

end KeywordSite

namespace Site

variable {options : Options}

theorem compileKeywords_congr {entries : List (KeywordEntry Json)}
    (same : ∀ entry ∈ entries, ∀ site inner, Json.Part inner entry.item → sub site inner = other site inner)
    (site : Site) : compileKeywords registered sub site entries = compileKeywords registered other site entries := by
  induction entries generalizing site with
  | nil => rfl
  | cons entry rest ih =>
    have rest (site : Site) := ih (fun entry member => same entry (List.mem_cons_of_mem _ member)) site
    simp only [compileKeywords, KeywordSite.compile_congr _ (same entry List.mem_cons_self), rest]

theorem compileNode_congr (same : ∀ site inner, inner.depth < value.depth → sub site inner = other site inner)
    (site : Site) : site.compileNode options registered sub value = site.compileNode options registered other value := by
  have shapes (site : Site) :
      site.compileShape options registered sub value = site.compileShape options registered other value := by
    cases value with
    | object members =>
      have keywords (dialect : Dialect) (site : Site) : compileKeywords registered sub site
          (KeywordEntry.inOrder (knownMembers dialect members)) = compileKeywords registered other site
            (KeywordEntry.inOrder (knownMembers dialect members)) := by
        refine compileKeywords_congr (fun entry member site inner part => ?_) site
        obtain ⟨name, inside⟩ := Options.Parallels.mem_of_mem_inOrder member
        exact same site inner (part.depth_lt inside)
      simp only [compileShape, compileMembers, keywords]
    | _ => rfl
  simp only [compileNode, shapes]

/-- A value is compiled alike with any two bounds above its depth. -/
theorem compileWithin_eq {depth more : Nat} (site : Site) (deep : value.depth < depth) (deeper : value.depth < more) :
    compileWithin options registered depth site value = compileWithin options registered more site value := by
  induction depth generalizing site value more with
  | zero => exact absurd deep (Nat.not_lt_zero _)
  | succ depth ih =>
    obtain _ | more := more
    · exact absurd deeper (Nat.not_lt_zero _)
    · exact compileNode_congr (fun site inner below => ih site (by omega) (by omega)) site

end Site

end JsonSchema
