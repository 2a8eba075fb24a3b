import JsonSchema.SchemaStore
import JsonSchema.Proofs.Compile.Registered
import Mathlib.Data.List.Induction

/-! # What a store holds

A store after any calls that register values, some of which may fail. A call that fails leaves the store as it is
(`SchemaStore.perform_of_error`). What is found under an id is what the last call that covers it has there: the resource
with the id, or else the whole document if the id is the URL from which it was retrieved (`SchemaStore.locate_after`).
-/

namespace JsonSchema

/-! ## Documents under ids -/

namespace Document

/-- What a document has under an id if it was retrieved from a URL: the resource with the id, or else the whole document
if the id is the URL. -/
inductive Offers (document : Document) (url id : Url) : Schema → Prop
  | resource {index : Nat} {resource : Resource} (found : document.resources[index]? = some resource)
      (named : resource.id = id) : Offers document url id ⟨document, index⟩
  | retrieved (same : id = url) (unnamed : ∀ resource ∈ document.resources, resource.id ≠ id) :
      Offers document url id ⟨document, 0⟩

/-- Whether an id is the URL from which a document was retrieved or the id of any of its resources. -/
def Covers (document : Document) (url id : Url) : Prop :=
  id = url ∨ ∃ resource ∈ document.resources, resource.id = id

variable {document : Document} {url id : Url}

theorem covers_iff_exists_offers : document.Covers url id ↔ ∃ schema, document.Offers url id schema := by
  constructor
  · intro covers
    by_cases named : ∃ resource ∈ document.resources, resource.id = id
    · obtain ⟨resource, member, named⟩ := named
      obtain ⟨index, bound, found⟩ := Array.mem_iff_getElem.mp member
      exact ⟨_, .resource (Array.getElem?_eq_some_iff.mpr ⟨bound, found⟩) named⟩
    · exact ⟨_, .retrieved (covers.resolve_right named) fun resource member same => named ⟨resource, member, same⟩⟩
  · rintro ⟨schema, offers⟩
    cases offers with
    | resource found named => exact .inr ⟨_, Array.mem_of_getElem? found, named⟩
    | retrieved same => exact .inl same

end Document

/-! ## Registering a document -/

namespace SchemaStore

theorem locate_insert_self (store : SchemaStore) {id : Url} (schema : Schema) {url : Url}
    (same : url.withoutFragment = id) : (store.insert id schema).locate url = some schema := by
  subst same
  exact assoc?_putEntry_self _ _ _

theorem locate_insert_of_ne (store : SchemaStore) {id : Url} (schema : Schema) {url : Url}
    (different : url.withoutFragment ≠ id) : (store.insert id schema).locate url = store.locate url :=
  assoc?_putEntry_of_ne different _ _

/-- Schemas of other ids do not change what is found. -/
theorem locate_foldl_insert_of_ne {store : SchemaStore} {members : List Schema} {id : Url}
    (different : ∀ member ∈ members, id.withoutFragment ≠ member.id) :
    (members.foldl (fun store member => store.insert member.id member) store).locate id = store.locate id := by
  induction members generalizing store with
  | nil => rfl
  | cons first rest ih =>
    obtain ⟨differentFirst, differentRest⟩ := List.forall_mem_cons.mp different
    exact (ih differentRest).trans (locate_insert_of_ne _ _ differentFirst)

/-- The only schema of an id is found. -/
theorem locate_foldl_insert_of_mem {store : SchemaStore} {members : List Schema} {schema : Schema} {id : Url}
    (member : schema ∈ members) (named : id.withoutFragment = schema.id)
    (only : ∀ other ∈ members, id.withoutFragment = other.id → other = schema) :
    (members.foldl (fun store member => store.insert member.id member) store).locate id = some schema := by
  induction members generalizing store with
  | nil => exact absurd member List.not_mem_nil
  | cons first rest ih =>
    obtain ⟨onlyFirst, onlyRest⟩ := List.forall_mem_cons.mp only
    by_cases later : schema ∈ rest
    · exact ih later onlyRest
    · obtain rfl : schema = first := (List.mem_cons.mp member).resolve_right later
      have different : ∀ other ∈ rest, id.withoutFragment ≠ other.id :=
        fun other inside same => later (onlyRest other inside same ▸ inside)
      exact (locate_foldl_insert_of_ne different).trans (locate_insert_self _ _ named)

variable {document : Document} (tree : document.IsTree)
include tree

/-- All resources of a document are inside the first one. -/
theorem familyOf_zero : familyOf ⟨document, 0⟩ = (List.range document.resources.size).map (⟨document, ·⟩) := by
  obtain ⟨root, outermost, noParent⟩ := tree.outermost
  have some : 0 < document.resources.size := (Array.getElem?_eq_some_iff.mp outermost).1
  unfold familyOf
  dsimp only
  congr 1
  generalize bound : document.resources.size = count at some ⊢
  replace bound : count ≤ document.resources.size := bound.ge
  induction count with
  | zero => exact absurd some (Nat.lt_irrefl _)
  | succ count ih =>
    rw [List.range_succ, List.foldl_append, List.foldl_cons, List.foldl_nil]
    rcases Nat.eq_zero_or_pos count with rfl | pos
    · rw [outermost, Option.bind_some, noParent]
      rfl
    · have present := Array.getElem?_eq_getElem bound
      obtain ⟨parent, below, held⟩ := tree.inner count _ present pos.ne'
      rw [ih pos (Nat.le_of_succ_le bound), present, Option.bind_some, held]
      dsimp only
      rw [if_pos (List.contains_iff_mem.mpr (List.mem_range.mpr below))]

theorem mem_familyOf_zero_iff {schema : Schema} : schema ∈ familyOf ⟨document, 0⟩ ↔
    ∃ (index : Nat) (resource : Resource), document.resources[index]? = some resource ∧ schema = ⟨document, index⟩ ∧
      schema.id = resource.id := by
  rw [familyOf_zero tree, List.mem_map]
  constructor
  · rintro ⟨index, bound, rfl⟩
    have found := Array.getElem?_eq_getElem (List.mem_range.mp bound)
    exact ⟨index, _, found, rfl, by rw [Schema.id, Schema.info?, found]; rfl⟩
  · rintro ⟨index, resource, found, rfl, -⟩
    exact ⟨index, List.mem_range.mpr (Array.getElem?_eq_some_iff.mp found).1, rfl⟩

/-- What a document that is registered has under an id is found there. -/
theorem locate_registerAs_of_offers (store : SchemaStore) {url id : Url} {schema : Schema}
    (offers : document.Offers url.withoutFragment id.withoutFragment schema) :
    (store.registerAs url ⟨document, 0⟩).locate id = some schema := by
  cases offers with
  | @resource index resource found named =>
    have id_eq : (Schema.mk document index).id = resource.id := by rw [Schema.id, Schema.info?, found]; rfl
    refine locate_foldl_insert_of_mem ((mem_familyOf_zero_iff tree).mpr ⟨index, resource, found, rfl, id_eq⟩)
      (named.symm.trans id_eq.symm) fun other member same => ?_
    obtain ⟨index', resource', found', rfl, id_eq'⟩ := (mem_familyOf_zero_iff tree).mp member
    rw [tree.distinct index' index resource' resource found' found (id_eq'.symm.trans (same.symm.trans named.symm))]
  | retrieved same unnamed =>
    refine (locate_foldl_insert_of_ne fun other member named => ?_).trans (locate_insert_self _ _ same)
    obtain ⟨index, resource, found, rfl, id_eq⟩ := (mem_familyOf_zero_iff tree).mp member
    exact unnamed resource (Array.mem_of_getElem? found) (id_eq.symm.trans named.symm)

/-- A document that is registered does not change what is found under ids that it does not cover. -/
theorem locate_registerAs_of_not_covers (store : SchemaStore) {url id : Url}
    (apart : ¬ document.Covers url.withoutFragment id.withoutFragment) :
    (store.registerAs url ⟨document, 0⟩).locate id = store.locate id := by
  refine (locate_foldl_insert_of_ne fun other member named => ?_).trans
    (locate_insert_of_ne _ _ fun same => apart (.inl same))
  obtain ⟨index, resource, found, rfl, id_eq⟩ := (mem_familyOf_zero_iff tree).mp member
  exact apart (.inr ⟨resource, Array.mem_of_getElem? found, id_eq.symm.trans named.symm⟩)

end SchemaStore

/-! ## Calls -/

/-- A call that registers a value as retrieved from a URL. The options may look schemas up in the store itself, and the
dialects are those found before. -/
structure Registration where
  options : SchemaStore → Options
  url : Url
  value : Json
  dialects : DialectCache

/-- What the value of a call compiles to, given the store. -/
def Registration.compile (call : Registration) (store : SchemaStore) : Except CompileError Schema :=
  (Schema.compileWith (call.options store) call.url call.value call.dialects).1

namespace SchemaStore

/-- The store after a call. -/
def perform (store : SchemaStore) (call : Registration) : SchemaStore :=
  match (store.registerValue (call.options store) call.url call.value call.dialects).1 with
  | .ok (_, next) => next
  | .error _ => store

theorem perform_eq (store : SchemaStore) (call : Registration) : store.perform call =
    match call.compile store with
    | .ok schema => store.registerAs call.url schema
    | .error _ => store := by
  have registered : (store.registerValue (call.options store) call.url call.value call.dialects).1 =
      (call.compile store).map fun schema => (schema, store.registerAs call.url schema) := rfl
  rw [perform, registered]
  cases call.compile store <;> rfl

theorem perform_of_ok {store : SchemaStore} {call : Registration} {schema : Schema}
    (compiles : call.compile store = .ok schema) : store.perform call = store.registerAs call.url schema := by
  rw [perform_eq, compiles]

/-- A call that fails leaves the store as it is. -/
theorem perform_of_error {store : SchemaStore} {call : Registration} {cause : CompileError}
    (fails : call.compile store = .error cause) : store.perform call = store := by
  rw [perform_eq, fails]

/-- The store after some calls. -/
def after (history : List Registration) : SchemaStore := history.foldl perform empty

theorem after_append (history : List Registration) (call : Registration) :
    after (history ++ [call]) = (after history).perform call := by
  rw [after, List.foldl_append]
  rfl

/-- Whether a call of a history succeeded with a schema, after those before it. -/
def Succeeded (history earlier : List Registration) (call : Registration) (found : Schema) : Prop :=
  earlier ++ [call] <+: history ∧ call.compile (after earlier) = .ok found

/-- Whether a call is the last one of a history that succeeded and covers an id. -/
structure IsLatest (history earlier : List Registration) (call : Registration) (found : Schema) (id : Url) : Prop where
  succeeded : Succeeded history earlier call found
  covers : found.document.Covers call.url.withoutFragment id.withoutFragment
  latest : ∀ others next made, Succeeded history others next made →
    made.document.Covers next.url.withoutFragment id.withoutFragment → others.length ≤ earlier.length

section

variable {history earlier others : List Registration} {call next last : Registration} {found made schema : Schema} {id : Url}

theorem succeeded_append_iff : Succeeded (history ++ [last]) earlier call found ↔
    earlier = history ∧ call = last ∧ last.compile (after history) = .ok found ∨
      Succeeded history earlier call found := by
  rw [Succeeded, List.prefix_concat_iff, or_and_right, Succeeded]
  refine or_congr_left ⟨?_, ?_⟩
  · rintro ⟨same, compiles⟩
    obtain ⟨rfl, own⟩ := List.append_inj' same rfl
    obtain rfl := List.singleton_inj.mp own
    exact ⟨rfl, rfl, compiles⟩
  · rintro ⟨rfl, rfl, compiles⟩
    exact ⟨rfl, compiles⟩

theorem Succeeded.length_lt (succeeded : Succeeded history earlier call found) : earlier.length < history.length := by
  have := succeeded.1.length_le
  rwa [List.length_append] at this

theorem IsLatest.unique (first : IsLatest history earlier call found id) (second : IsLatest history others next made id) :
    earlier = others ∧ call = next ∧ found = made := by
  have length : earlier.length = others.length := le_antisymm
    (second.latest _ _ _ first.succeeded first.covers) (first.latest _ _ _ second.succeeded second.covers)
  have same : earlier ++ [call] = others ++ [next] := by
    refine List.IsPrefix.eq_of_length ?_ (by simp [length])
    exact List.prefix_of_prefix_length_le first.succeeded.1 second.succeeded.1 (by simp [length])
  obtain ⟨rfl, own⟩ := List.append_inj same length
  obtain rfl := List.singleton_inj.mp own
  exact ⟨rfl, rfl, Except.ok.inj (first.succeeded.2.symm.trans second.succeeded.2)⟩

/-- A call that fails or does not cover an id leaves the latest one that does. -/
theorem IsLatest.append (latest : IsLatest history earlier call found id)
    (apart : ∀ made, last.compile (after history) = .ok made →
      ¬ made.document.Covers last.url.withoutFragment id.withoutFragment) :
    IsLatest (history ++ [last]) earlier call found id := by
  refine ⟨succeeded_append_iff.mpr (.inr latest.succeeded), latest.covers, fun others next made succeeded covers => ?_⟩
  rcases succeeded_append_iff.mp succeeded with ⟨rfl, rfl, compiles⟩ | succeeded
  · exact absurd covers (apart made compiles)
  · exact latest.latest others next made succeeded covers

/-- A call leaves what is found under the ids that it does not cover. -/
theorem locate_perform_of_not_covers {store : SchemaStore} (apart : ∀ made, call.compile store = .ok made →
      ¬ made.document.Covers call.url.withoutFragment id.withoutFragment) :
    (store.perform call).locate id = store.locate id := by
  cases compiles : call.compile store with
  | error cause => rw [perform_of_error compiles]
  | ok made =>
    obtain ⟨tree, root⟩ := Schema.isTree_of_compileWith compiles
    obtain ⟨document, index⟩ := made
    obtain rfl : index = 0 := root
    rw [perform_of_ok compiles]
    exact locate_registerAs_of_not_covers tree store (apart _ compiles)

/-- A call that succeeds puts what its document has under an id into its place. -/
theorem locate_perform_of_offers {store : SchemaStore} (compiles : call.compile store = .ok made)
    (offers : made.document.Offers call.url.withoutFragment id.withoutFragment schema) :
    (store.perform call).locate id = some schema := by
  obtain ⟨tree, root⟩ := Schema.isTree_of_compileWith compiles
  obtain ⟨document, index⟩ := made
  obtain rfl : index = 0 := root
  rw [perform_of_ok compiles]
  exact locate_registerAs_of_offers tree store offers

end

/-- What is found after a history is what the latest call that covers the id has there, if there is one. -/
theorem locate_after_cases (history : List Registration) (id : Url) :
    (∃ earlier call found schema, IsLatest history earlier call found id ∧
      found.document.Offers call.url.withoutFragment id.withoutFragment schema ∧
        (after history).locate id = some schema) ∨
    (∀ earlier call found, Succeeded history earlier call found →
      ¬ found.document.Covers call.url.withoutFragment id.withoutFragment) ∧ (after history).locate id = none := by
  induction history using List.reverseRecOn with
  | nil =>
    refine .inr ⟨fun earlier call found succeeded => ?_, rfl⟩
    exact absurd succeeded.length_lt (Nat.not_lt_zero _)
  | append_singleton history last ih =>
    rw [after_append]
    by_cases covered : ∃ made, last.compile (after history) = .ok made ∧
        made.document.Covers last.url.withoutFragment id.withoutFragment
    · obtain ⟨made, compiles, covers⟩ := covered
      obtain ⟨schema, offers⟩ := Document.covers_iff_exists_offers.mp covers
      refine .inl ⟨history, last, made, schema, ⟨?_, covers, fun others next other succeeded _ => ?_⟩, offers,
        locate_perform_of_offers compiles offers⟩
      · exact succeeded_append_iff.mpr (.inl ⟨rfl, rfl, compiles⟩)
      · exact Nat.le_of_lt_succ (by simpa using succeeded.length_lt)
    · have apart : ∀ made, last.compile (after history) = .ok made →
          ¬ made.document.Covers last.url.withoutFragment id.withoutFragment :=
        fun made compiles covers => covered ⟨made, compiles, covers⟩
      rw [locate_perform_of_not_covers apart]
      rcases ih with ⟨earlier, call, found, schema, latest, offers, located⟩ | ⟨none, located⟩
      · exact .inl ⟨earlier, call, found, schema, latest.append apart, offers, located⟩
      · refine .inr ⟨fun earlier call found succeeded => ?_, located⟩
        rcases succeeded_append_iff.mp succeeded with ⟨rfl, rfl, compiles⟩ | succeeded
        · exact apart found compiles
        · exact none earlier call found succeeded

/-- Over any history of calls, a call that fails changes nothing, and what is found under an id, whatever its fragment,
is what the last successful call that covers the id has there; nothing is found if there is none. -/
theorem locate_after (history : List Registration) :
    (∀ call cause, call.compile (after history) = .error cause → after (history ++ [call]) = after history) ∧
    ∀ id,
      (∀ schema, (after history).locate id = some schema ↔ ∃ earlier call found, IsLatest history earlier call found id ∧
        found.document.Offers call.url.withoutFragment id.withoutFragment schema) ∧
      ((after history).locate id = none ↔ ∀ earlier call found, Succeeded history earlier call found →
        ¬ found.document.Covers call.url.withoutFragment id.withoutFragment) := by
  refine ⟨fun call cause fails => ?_, fun id => ?_⟩
  · rw [after_append, perform_of_error fails]
  · rcases locate_after_cases history id with ⟨earlier, call, found, schema, latest, offers, located⟩ | ⟨none, located⟩
    · refine ⟨fun other => ⟨fun same => ?_, ?_⟩, fun impossible => ?_, fun none => ?_⟩
      · obtain rfl := Option.some.inj (located.symm.trans same)
        exact ⟨earlier, call, found, latest, offers⟩
      · rintro ⟨earlier', call', found', latest', offers'⟩
        obtain ⟨rfl, rfl, rfl⟩ := latest.unique latest'
        have compiles := latest.succeeded.2
        rw [located, ← locate_perform_of_offers compiles offers, locate_perform_of_offers compiles offers']
      · exact absurd (located.symm.trans impossible) (Option.some_ne_none _)
      · exact absurd latest.covers (none earlier call found latest.succeeded)
    · refine ⟨fun other => ⟨fun same => ?_, ?_⟩, fun _ => none, fun _ => located⟩
      · exact absurd (same.symm.trans located) (Option.some_ne_none _)
      · rintro ⟨earlier, call, found, latest, -⟩
        exact absurd latest.covers (none earlier call found latest.succeeded)

/-- A call may take an id from inside another document, and a call that fails after it does not matter. -/
theorem locate_after_overlap :
    let outer : Registration := ⟨fun _ => .standard, Draft.url "outer",
      .object [("$defs", .object [("k", .object [("$id", .string "inner")])])], []⟩
    let inner : Registration := ⟨fun _ => .standard, Draft.url "inner", .object [("type", .string "string")], []⟩
    let faulty : Registration := ⟨fun _ => .standard, Draft.url "inner", .string "s", []⟩
    after ([outer, inner] ++ [faulty]) = after [outer, inner] ∧
      ∃ schema, (after [outer, inner]).locate (Draft.url "inner") = some schema ∧
        ∃ earlier call found, IsLatest [outer, inner] earlier call found (Draft.url "inner") ∧
          found.document.Offers call.url.withoutFragment (Draft.url "inner").withoutFragment schema := by
  intro outer inner faulty
  have located : ((after [outer, inner]).locate (Draft.url "inner")).isSome = true := by
    dsimp only [outer, inner]
    decide +kernel
  obtain ⟨schema, located⟩ := Option.isSome_iff_exists.mp located
  refine ⟨(locate_after [outer, inner]).1 faulty _ rfl, schema, located, ?_⟩
  exact (((locate_after [outer, inner]).2 (Draft.url "inner")).1 schema).mp located

end SchemaStore

end JsonSchema
