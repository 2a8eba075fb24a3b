import JsonSchema.Proofs.Compile.Layout
import Mathlib.Data.List.Pairwise

/-! # Locations in compiled documents

A node of a compiled document is found from the root of each resource around it under the tokens of the slots that lead
to it (`Document.Leads`), and under nothing else; an anchor is found in the resource of the node that declares it
(`Schema.IsIndexed`). Nodes are entered under all of their locations when they are finished, and no location is entered
twice, since the tokens of two slots of a schema never begin with each other.
-/

namespace JsonSchema

open Compile

/-! ## Slots of a schema -/

/-- Whether neither of two lists of tokens begins with the other one. -/
def Diverge (one other : List String) : Prop := ¬ one <+: other ∧ ¬ other <+: one

theorem diverge_of_head {first second : String} (different : first ≠ second) (one other : List String) :
    Diverge (first :: one) (second :: other) := by
  constructor
  · exact fun begins => different (List.cons_prefix_cons.mp begins).1
  · exact fun begins => different (List.cons_prefix_cons.mp begins).1.symm

theorem Diverge.cons {one other : List String} (diverge : Diverge one other) (first : String) :
    Diverge (first :: one) (first :: other) := by
  constructor
  · exact fun begins => diverge.1 (List.cons_prefix_cons.mp begins).2
  · exact fun begins => diverge.2 (List.cons_prefix_cons.mp begins).2

theorem Diverge.symm {one other : List String} (diverge : Diverge one other) : Diverge other one :=
  ⟨diverge.2, diverge.1⟩

/-- Paths that go on from slots that diverge are not the same. -/
theorem Diverge.append_ne {one other : List String} (diverge : Diverge one other) (more further : List String) :
    one ++ more ≠ other ++ further := by
  intro same
  rcases List.prefix_or_prefix_of_prefix (List.prefix_append one more) (same ▸ List.prefix_append other further) with
    begins | begins
  · exact diverge.1 begins
  · exact diverge.2 begins

theorem pairwise_diverge_singletons {tokens : List String} (distinct : tokens.Nodup) :
    (tokens.map fun token => [token]).Pairwise Diverge :=
  List.pairwise_map.mpr (distinct.imp fun different => diverge_of_head different [] [])

theorem toString_index_injective : Function.Injective (toString : Nat → String) := by
  intro one other same
  have digits : Nat.toDigits 10 one = Nat.toDigits 10 other := by
    rw [← Nat.toList_repr, ← Nat.toList_repr, ← Nat.toString_eq_repr, ← Nat.toString_eq_repr, same]
  have values := congrArg (Nat.ofDigitChars 10 · 0) digits
  simpa [Nat.ofDigitChars_toDigits] using values

namespace Json

/-- Whether the items of a value can be counted in a machine word. -/
def FitsWord : Json → Prop
  | .array items => items.length ≤ Word.count
  | _ => True

instance : DecidablePred FitsWord
  | .array items => inferInstanceAs (Decidable (items.length ≤ Word.count))
  | .null | .bool _ | .number _ | .string _ | .object _ => .isTrue trivial

/-- Whether the items of all arrays in a value can be counted in a machine word. -/
def IsCountable (value : Json) : Prop := ∀ inner ∈ value.values, inner.FitsWord

instance : DecidablePred IsCountable := fun value => inferInstanceAs (Decidable (∀ inner ∈ value.values, _))

theorem IsCountable.mono {inner value : Json} (countable : value.IsCountable) (inside : inner.values ⊆ value.values) :
    inner.IsCountable :=
  fun other member => countable other (inside member)

end Json

/-- The written index of an item leads to it. -/
theorem Pointer.step?_toString {items : List Json} (fits : (Json.array items).FitsWord) {index : Nat} {item : Json}
    (found : items[index]? = some item) : step? (toString index) (.array items) = some item := by
  have small : index ≤ Word.greatest := by
    have bound := (List.getElem?_eq_some_iff.mp found).1
    have count : items.length ≤ Word.count := fits
    simp only [Word.greatest, Word.count] at *
    omega
  rw [step?, index?_toString small, Option.bind_some, found]

namespace StandardKeyword

/-- A keyword has no sub-schema, is one, or holds them as its items or members. -/
theorem slots_cases (meaning : StandardKeyword) (value : Json) :
    meaning.slots value = [] ∨ meaning.slots value = [([], value)] ∨
      (∃ items, value = .array items ∧
        meaning.slots value = items.zipIdx.map fun (item, index) => ([toString index], item)) ∨
      ∃ members, value = .object members ∧ meaning.slots value = members.map fun (name, member) => ([name], member) := by
  unfold slots
  split
  all_goals
    first
    | exact .inl rfl
    | exact .inr (.inl rfl)
    | exact .inr (.inr (.inl ⟨_, rfl, rfl⟩))
    | exact .inr (.inr (.inr ⟨_, rfl, rfl⟩))

variable {value : Json}

/-- The slots of a keyword diverge. -/
theorem pairwise_slots (meaning : StandardKeyword) (names : value.HasDistinctNames) :
    ((meaning.slots value).map (·.1)).Pairwise Diverge := by
  rcases slots_cases meaning value with none | own | ⟨items, -, slots⟩ | ⟨members, rfl, slots⟩
  · rw [none]
    exact .nil
  · rw [own]
    exact List.pairwise_singleton _ _
  · have indices : (meaning.slots value).map (·.1) =
        ((items.zipIdx.map (·.2)).map toString).map fun token => [token] := by
      rw [slots, List.map_map, List.map_map, List.map_map]
      rfl
    rw [indices]
    apply pairwise_diverge_singletons
    rw [List.zipIdx_map_snd]
    exact (List.nodup_range' 1 Nat.one_pos).map toString_index_injective
  · have keys : (meaning.slots (.object members)).map (·.1) = (members.map (·.1)).map fun token => [token] := by
      rw [slots, List.map_map, List.map_map]
      rfl
    rw [keys]
    exact pairwise_diverge_singletons names

/-- The tokens of a slot lead to its sub-schema. -/
theorem follow?_of_mem_slots (meaning : StandardKeyword) (names : value.HasDistinctNames) (fits : value.FitsWord)
    {slot : List String × Json} (member : slot ∈ meaning.slots value) : Pointer.follow? slot.1 value = some slot.2 := by
  rcases slots_cases meaning value with none | own | ⟨items, rfl, slots⟩ | ⟨members, rfl, slots⟩
  · rw [none] at member
    exact absurd member List.not_mem_nil
  · rw [own, List.mem_singleton] at member
    rw [member]
    rfl
  · rw [slots] at member
    obtain ⟨⟨item, index⟩, inside, rfl⟩ := List.mem_map.mp member
    rw [Pointer.follow?, Pointer.step?_toString fits (List.mem_zipIdx_iff_getElem?.mp inside)]
    rfl
  · rw [slots] at member
    obtain ⟨⟨name, value⟩, inside, rfl⟩ := List.mem_map.mp member
    simp [Pointer.follow?, Pointer.step?, assoc?_of_mem names inside]

end StandardKeyword

namespace Json

variable {value : Json}

/-- The slots of a schema diverge. -/
theorem pairwise_slots (names : value.NamesOnce) : (value.slots.map (·.1)).Pairwise Diverge := by
  cases value with
  | object members =>
    have distinct := Dialect.nodup_keywords_inOrder Draft.dialect names.nodup
    rw [slots, List.map_flatMap, List.pairwise_flatMap]
    rw [List.Nodup, List.pairwise_map] at distinct
    constructor
    · intro entry member
      have inside : entry.item.HasDistinctNames :=
        names _ (values_subset_of_mem (Draft.mem_of_mem_inOrder member).1 (self_mem_values _))
      rw [KeywordEntry.slots, List.map_map]
      have diverge := entry.spec.meaning.pairwise_slots inside
      rw [List.pairwise_map] at diverge ⊢
      exact diverge.imp fun diverge => diverge.cons _
    · refine distinct.imp fun different tokens inside others beside => ?_
      obtain ⟨slot, member, rfl⟩ := List.mem_map.mp inside
      obtain ⟨other, memberOther, rfl⟩ := List.mem_map.mp beside
      obtain ⟨inner, -, rfl⟩ := List.mem_map.mp member
      obtain ⟨innerOther, -, rfl⟩ := List.mem_map.mp memberOther
      exact diverge_of_head different _ _
  | _ => exact .nil

/-- The tokens of a slot lead to its sub-schema. -/
theorem follow?_of_mem_slots (names : value.NamesOnce) (countable : value.IsCountable) {slot : List String × Json}
    (member : slot ∈ value.slots) : Pointer.follow? slot.1 value = some slot.2 := by
  obtain ⟨members, rfl, entry, inside, found⟩ := exists_entry_of_mem_slots member
  obtain ⟨inner, innerInside, rfl⟩ := List.mem_map.mp found
  have own := (Draft.mem_of_mem_inOrder inside).1
  have within := values_subset_of_mem own (self_mem_values _)
  have further := entry.spec.meaning.follow?_of_mem_slots (names _ within) (countable _ within) innerInside
  rw [Pointer.follow?, Pointer.step?, assoc?_of_mem names.nodup own, Option.bind_some, further]

end Json

/-! ## Pointers into a value -/

namespace Pointer

/-- What a pointer finds in a value has no values inside that the value does not have. -/
theorem values_subset_of_resolve? {pointer : Pointer} {value found : Json}
    (resolves : pointer.resolve? value = some found) : found.values ⊆ value.values := by
  obtain ⟨tokens⟩ := pointer
  induction tokens generalizing value with
  | nil =>
    rw [Option.some.inj resolves]
    exact List.Subset.refl _
  | cons token rest ih =>
    obtain ⟨next, step, further⟩ := Option.bind_eq_some_iff.mp resolves
    refine List.Subset.trans (ih further) ?_
    cases value with
    | object members => exact Json.values_subset_of_mem (mem_of_assoc? step)
    | array items =>
      obtain ⟨index, -, there⟩ := Option.bind_eq_some_iff.mp step
      exact (Json.Part.item (List.mem_of_getElem? there)).values_subset
    | _ => cases step

theorem resolve?_push (pointer : Pointer) (token : String) (value : Json) :
    (pointer.push token).resolve? value = (pointer.resolve? value).bind (step? token) := by
  rw [resolve?, push, follow?_append]
  congr 1
  funext next
  exact Option.bind_fun_some _

end Pointer

/-! ## Nodes below a node -/

namespace Document

/-- Whether some tokens lead from a node to another one along the slots of the nodes between them. -/
inductive Leads (document : Document) : Nat → List String → Nat → Prop
  | self (index : Nat) : Leads document index [] index
  | slot {index child found : Nat} {tokens more : List String} (slot : (tokens, child) ∈ (document.node index).slots)
      (further : Leads document child more found) : Leads document index (tokens ++ more) found

/-- Whether the slots and keywords of a node are those of its value, which is a part of a whole. -/
structure Reflects (document : Document) (whole : Json) (index : Nat) : Prop where
  keywords : ∀ rule ∈ (document.node index).rules, ((document.node index).value.member? rule.keyword).isSome
  slots_eq : (document.node index).slots.map (fun slot => (slot.1, (document.node slot.2).value)) =
    (document.node index).value.slots
  inside : (document.node index).value.values ⊆ whole.values

variable {document : Document} {whole : Json} {index child found other : Nat} {tokens more path : List String}

theorem Leads.append (first : document.Leads index tokens child) (second : document.Leads child more found) :
    document.Leads index (tokens ++ more) found := by
  induction first with
  | self => exact second
  | slot inside _ ih =>
    rw [List.append_assoc]
    exact .slot inside (ih second)

theorem Leads.snoc (leads : document.Leads index tokens child) (inside : (more, found) ∈ (document.node child).slots) :
    document.Leads index (tokens ++ more) found := by
  have further := Leads.slot inside (.self found)
  rw [List.append_nil] at further
  exact leads.append further

namespace Reflects

variable (reflects : document.Reflects whole index)
include reflects

theorem mem_slots (inside : (tokens, child) ∈ (document.node index).slots) :
    (tokens, (document.node child).value) ∈ (document.node index).value.slots := by
  rw [← reflects.slots_eq]
  exact List.mem_map.mpr ⟨_, inside, rfl⟩

theorem ne_nil (inside : (tokens, child) ∈ (document.node index).slots) : tokens ≠ [] :=
  Json.ne_nil_of_mem_slots (reflects.mem_slots inside)

/-- Two slots of a node are the same or diverge. -/
theorem eq_or_diverge (names : whole.NamesOnce) {one other : List String × Nat}
    (inside : one ∈ (document.node index).slots) (beside : other ∈ (document.node index).slots) :
    one = other ∨ Diverge one.1 other.1 := by
  have diverge : (document.node index).slots.Pairwise fun one other => Diverge one.1 other.1 := by
    have pairwise := Json.pairwise_slots (names.mono reflects.inside)
    rw [← reflects.slots_eq, List.map_map, List.pairwise_map] at pairwise
    exact pairwise
  have symmetric : Std.Symm fun one other : List String × Nat => Diverge one.1 other.1 :=
    ⟨fun _ _ diverge => diverge.symm⟩
  by_cases same : one = other
  · exact .inl same
  · exact .inr (diverge.forall inside beside same)

end Reflects

section

variable (descends : ∀ index < document.nodes.size, ∀ child ∈ (document.node index).children,
  index < child ∧ child < document.nodes.size)
include descends

theorem lt_size_of_mem_slots (bound : index < document.nodes.size)
    (inside : (tokens, child) ∈ (document.node index).slots) : child < document.nodes.size := by
  refine (descends index bound child ?_).2
  rw [← Node.map_snd_slots]
  exact List.mem_map_of_mem inside

theorem Leads.lt_size (leads : document.Leads index tokens found) (bound : index < document.nodes.size) :
    found < document.nodes.size := by
  induction leads with
  | self => exact bound
  | slot inside _ ih => exact ih (lt_size_of_mem_slots descends bound inside)

variable (reflects : ∀ index < document.nodes.size, document.Reflects whole index)
include reflects

/-- Tokens lead to one node only. -/
theorem Leads.unique (names : whole.NamesOnce) (leads : document.Leads index tokens found)
    (bound : index < document.nodes.size) (leadsOther : document.Leads index tokens other) : found = other := by
  induction leads with
  | @self index =>
    generalize empty : ([] : List String) = path at leadsOther
    cases leadsOther with
    | self => rfl
    | slot inside => exact absurd (List.append_eq_nil_iff.mp empty.symm).1 ((reflects _ bound).ne_nil inside)
  | @slot index child found tokens more inside further ih =>
    generalize same : tokens ++ more = path at leadsOther
    cases leadsOther with
    | self => exact absurd (List.append_eq_nil_iff.mp same).1 ((reflects _ bound).ne_nil inside)
    | slot beside furtherOther =>
      rcases (reflects index bound).eq_or_diverge names inside beside with one | diverge
      · obtain ⟨rfl, rfl⟩ := Prod.mk.inj one
        rw [← List.append_cancel_left same] at furtherOther
        exact ih (lt_size_of_mem_slots descends bound inside) furtherOther
      · exact absurd same (diverge.append_ne _ _)

/-- Tokens that lead to a node resolve in the values. -/
theorem Leads.follow? (names : whole.NamesOnce) (countable : whole.IsCountable)
    (leads : document.Leads index tokens found) (bound : index < document.nodes.size) :
    Pointer.follow? tokens (document.node index).value = some (document.node found).value := by
  induction leads with
  | self => rfl
  | @slot index child found tokens more inside further ih =>
    have own := reflects index bound
    have first := Json.follow?_of_mem_slots (names.mono own.inside) (countable.mono own.inside) (own.mem_slots inside)
    rw [Pointer.follow?_append, first, Option.bind_some, ih (lt_size_of_mem_slots descends bound inside)]

end

/-! ## What schemas in a document enter -/

/-- Whether some node is found under a location in a resource. -/
def Locates (document : Document) (index : Nat) (pointer : Pointer) : Prop :=
  ∃ resource, document.resources[index]? = some resource ∧ (assoc? pointer resource.locations).isSome

/-- Whether a node is reached along the paths of a site from the roots of their resources. -/
def IsAt (document : Document) (site : Site) (index : Nat) : Prop :=
  ∀ path ∈ site.paths, ∃ resource, document.resources[path.1]? = some resource ∧
    document.Leads resource.node path.2.tokens index

variable {site opened : Site} {value : Json} {slots : List (List String × Json)} {start stop : Extent}
  {resources after : Nat} {below numbers : List Nat} {entries : List ((Nat × Pointer) × Nat)}

theorem Opens.headed (opens : document.Opens site value resources opened after) (headed : site.IsHeaded) :
    opened.IsHeaded := by
  cases opens with
  | resource => rfl
  | _ => exact headed

theorem Opens.paths_subset (opens : document.Opens site value resources opened after) : site.paths ⊆ opened.paths := by
  cases opens with
  | resource => exact List.subset_cons_self _ _
  | _ => exact List.Subset.refl _

theorem Opens.isAt (opens : document.Opens site value resources opened after) (at_ : document.IsAt site site.node) :
    document.IsAt opened site.node := by
  cases opens with
  | @resource id resource _ _ found node_eq =>
    intro path member
    rcases List.mem_cons.mp member with rfl | member
    · refine ⟨resource, found, ?_⟩
      rw [node_eq]
      exact .self _
    · exact at_ path member
  | _ => exact at_

theorem IsAt.descend (at_ : document.IsAt site index) (inside : (tokens, child) ∈ (document.node index).slots)
    (node : Nat) : document.IsAt ((site.descend tokens).start node) child := by
  intro path member
  obtain ⟨outer, outside, rfl⟩ := List.mem_map.mp member
  obtain ⟨resource, found, leads⟩ := at_ outer outside
  exact ⟨resource, found, leads.snoc inside⟩

/-- What is reached from a node is found under its location in all resources around. -/
theorem Has.locates (has : document.Has index value site below)
    (inner : ∀ slot ∈ (value.slots.map (·.1)).zip below, ∀ more found, document.Leads slot.2 more found →
      ∀ path ∈ site.paths, document.Locates path.1 (path.2.append (slot.1 ++ more)))
    (leads : document.Leads index tokens found) :
    ∀ path ∈ site.paths, document.Locates path.1 (path.2.append tokens) := by
  intro path inside
  cases leads with
  | self =>
    rw [Pointer.append_nil]
    exact has.located path inside
  | slot slot further =>
    rw [has.shown.slots_eq] at slot
    exact inner _ slot _ _ further path inside

namespace Lays

/-- What is entered for schemas is reached under its location. -/
theorem leads_of_mem (lays : document.Lays site slots start numbers entries stop)
    (at_ : ∀ slot ∈ (slots.map (·.1)).zip numbers, ∀ node, document.IsAt ((site.descend slot.1).start node) slot.2) :
    ∀ entry ∈ entries, ∃ resource, document.resources[entry.1.1]? = some resource ∧
      document.Leads resource.node entry.1.2.tokens entry.2 := by
  induction lays with
  | nil => exact fun entry member => absurd member List.not_mem_nil
  | @cons site opened tokens value slots start middle stop resources below numbers entries others opens has inner rest
      ihInner ihRest =>
    have own : document.IsAt opened start.nodes := opens.isAt (at_ _ List.mem_cons_self _)
    intro entry member
    rcases List.mem_append.mp member with member | member
    · rcases List.mem_append.mp member with member | member
      · refine ihInner (fun slot inside node => ?_) entry member
        rw [← has.shown.slots_eq] at inside
        exact own.descend inside node
      · obtain ⟨path, inside, rfl⟩ := List.mem_map.mp member
        exact own path inside
    · exact ihRest (fun slot inside => at_ slot (List.mem_cons_of_mem _ inside)) entry member

/-- Each node in a range of numbers is what some value was compiled to. -/
theorem exists_has (lays : document.Lays site slots start numbers entries stop) :
    ∀ index, start.nodes ≤ index → index < stop.nodes → ∃ value site below, document.Has index value site below := by
  induction lays with
  | nil => exact fun index least bound => absurd bound (Nat.not_lt.mpr least)
  | @cons site opened tokens value slots start middle stop resources below numbers entries others opens has inner rest
      ihInner ihRest =>
    intro index least bound
    rcases Nat.eq_or_lt_of_le least with rfl | later
    · exact ⟨value, opened, below, has⟩
    · by_cases early : index < middle.nodes
      · exact ihInner index later early
      · exact ihRest index (Nat.not_lt.mp early) bound

/-- The location of a node is entered into its resource. -/
theorem location_mem (lays : document.Lays site slots start numbers entries stop) (headed : site.IsHeaded) :
    ∀ index, start.nodes ≤ index → index < stop.nodes →
      (((document.node index).resource, (document.node index).location), index) ∈ entries := by
  induction lays with
  | nil => exact fun index least bound => absurd bound (Nat.not_lt.mpr least)
  | @cons site opened tokens value slots start middle stop resources below numbers entries others opens has inner rest
      ihInner ihRest =>
    have headedOpened := opens.headed (headed.descend tokens start.nodes)
    intro index least bound
    rcases Nat.eq_or_lt_of_le least with rfl | later
    · refine List.mem_append_left _ (List.mem_append_right _ (List.mem_map.mpr ⟨_, headedOpened.innermost_mem, ?_⟩))
      rw [has.resource_eq, has.location_eq, ← headedOpened.innermost_eq]
    · by_cases early : index < middle.nodes
      · exact List.mem_append_left _ (List.mem_append_left _ (ihInner headedOpened index later early))
      · exact List.mem_append_right _ (ihRest headed index (Nat.not_lt.mp early) bound)

/-- The numbers of schemas are those of nodes with their values. -/
theorem values_eq (lays : document.Lays site slots start numbers entries stop) :
    numbers.map (fun number => (document.node number).value) = slots.map (·.2) := by
  induction lays with
  | nil => rfl
  | cons opens has inner rest ihInner ihRest => rw [List.map_cons, List.map_cons, has.value_eq, ihRest]

/-- The slots of a node are those of its value. -/
theorem reflects (lays : document.Lays site slots start numbers entries stop)
    (inside : ∀ slot ∈ slots, slot.2.values ⊆ whole.values) :
    ∀ index, start.nodes ≤ index → index < stop.nodes → document.Reflects whole index := by
  induction lays with
  | nil => exact fun index least bound => absurd bound (Nat.not_lt.mpr least)
  | @cons site opened tokens value slots start middle stop resources below numbers entries others opens has inner rest
      ihInner ihRest =>
    have own : value.values ⊆ whole.values := inside _ List.mem_cons_self
    intro index least bound
    rcases Nat.eq_or_lt_of_le least with rfl | later
    · refine ⟨by rw [has.value_eq]; exact has.shown.keywords, ?_, by rw [has.value_eq]; exact own⟩
      have zipped : (value.slots.map (·.1)).zip (below.map fun number => (document.node number).value) =
          value.slots := by
        rw [inner.values_eq, ← List.unzip_fst, ← List.unzip_snd, List.zip_unzip]
      rw [has.shown.slots_eq, has.value_eq]
      refine Eq.trans ?_ zipped
      rw [List.zip_map_right]
      rfl
    · by_cases early : index < middle.nodes
      · refine ihInner (fun slot member => ?_) index later early
        obtain ⟨members, rfl, entry, known, found⟩ := Json.exists_entry_of_mem_slots member
        have part := Json.values_subset_of_mem (Draft.mem_of_mem_inOrder known).1
        exact List.Subset.trans (List.Subset.trans (KeywordEntry.values_subset_of_mem_slots found) part) own
      · exact ihRest (fun slot member => inside slot (List.mem_cons_of_mem _ member)) index (Nat.not_lt.mp early) bound

/-- What is reached from schemas is found under its location in all resources around. -/
theorem locates (lays : document.Lays site slots start numbers entries stop) :
    ∀ slot ∈ (slots.map (·.1)).zip numbers, ∀ more found, document.Leads slot.2 more found →
      ∀ path ∈ site.paths, document.Locates path.1 (path.2.append (slot.1 ++ more)) := by
  induction lays with
  | nil => exact fun slot member => absurd member List.not_mem_nil
  | @cons site opened tokens value slots start middle stop resources below numbers entries others opens has inner rest
      ihInner ihRest =>
    intro slot member more found leads path inside
    rcases List.mem_cons.mp member with rfl | member
    · have own := opens.paths_subset (List.mem_map_of_mem (f := fun path => (path.1, path.2.append tokens)) inside)
      have here := has.locates ihInner leads _ own
      rwa [Pointer.append_append] at here
    · exact ihRest slot member more found leads path inside

/-- What is reached from the root of a resource that was started is found under its location there. -/
theorem locates_below (lays : document.Lays site slots start numbers entries stop) :
    ∀ index, start.resources ≤ index → index < stop.resources → ∀ resource ∈ document.resources[index]?,
      ∀ more found, document.Leads resource.node more found → document.Locates index ⟨more⟩ := by
  induction lays with
  | nil => exact fun index least bound => absurd bound (Nat.not_lt.mpr least)
  | @cons site opened tokens value slots start middle stop resources below numbers entries others opens has inner rest
      ihInner ihRest =>
    intro index least bound resource there more found leads
    by_cases own : index < resources
    · cases opens with
      | plain => exact absurd own (Nat.not_lt.mpr least)
      | root => exact absurd own (Nat.not_lt.mpr least)
      | @resource id _ _ _ foundOwn node_eq =>
        obtain rfl : index = start.resources := Nat.le_antisymm (Nat.le_of_lt_succ own) least
        rw [Option.mem_def, foundOwn] at there
        obtain rfl := Option.some.inj there
        rw [node_eq] at leads
        exact has.locates inner.locates leads (start.resources, .root) List.mem_cons_self
    · by_cases early : index < middle.resources
      · exact ihInner index (Nat.not_lt.mp own) early resource there more found leads
      · exact ihRest index (Nat.not_lt.mp early) bound resource there more found leads

end Lays

end Document

/-! ## Anchors -/

/-- Whether what is found by an anchor is a finished node of the resource that declares it, and what is found by a
dynamic anchor is a finished node. -/
structure Assembly.NamesNodes (assembly : Assembly) : Prop where
  anchored : ∀ (index : Nat) (resource : Resource), assembly.resources[index]? = some resource →
    ∀ name number, assoc? name resource.anchors = some number →
      ∃ node, assembly.nodes[number]? = some (some node) ∧ node.resource = index ∧ node.value.anchor? = some name
  dynamic : ∀ (index : Nat) (resource : Resource), assembly.resources[index]? = some resource →
    ∀ name number, assoc? name resource.dynamicAnchors = some number → ∃ node, assembly.nodes[number]? = some (some node)

namespace Site

variable {registered : Bool} {site opened final : Site} {value : Json} {slots : List (List String × Json)}
  {before named middle after : Assembly} {numbers : List Nat} {shape : Shape}

/-- What is found under a key, when it may have been put there under an optional name. -/
theorem assoc?_match_putEntry {name : String} {declared? : Option String} {node number : Nat}
    {entries : List (String × Nat)}
    (found : assoc? name (match declared? with
      | some declared => putEntry declared node entries
      | none => entries) = some number) :
    assoc? name entries = some number ∨ number = node ∧ declared? = some name := by
  cases declared? with
  | none => exact .inl found
  | some declared =>
    dsimp only at found
    by_cases same : name = declared
    · rw [same, assoc?_putEntry_self] at found
      exact .inr ⟨(Option.some.inj found).symm, congrArg some same.symm⟩
    · rw [assoc?_putEntry_of_ne same] at found
      exact .inl found

/-- A resource into which a node is entered gets its anchor, if it is the resource of the node. -/
theorem assoc?_anchors_enteredResource {index number : Nat} {resource : Resource} {name : String}
    (found : assoc? name (site.enteredResource index resource).anchors = some number) :
    assoc? name resource.anchors = some number ∨
      number = site.node ∧ site.innermost.1 = index ∧ site.anchor = some name := by
  unfold enteredResource at found
  dsimp only at found
  split at found
  · next here =>
    rcases assoc?_match_putEntry found with old | ⟨own, declared⟩
    · exact .inl old
    · exact .inr ⟨own, here, declared⟩
  · exact .inl found

theorem assoc?_dynamicAnchors_enteredResource {index number : Nat} {resource : Resource} {name : String}
    (found : assoc? name (site.enteredResource index resource).dynamicAnchors = some number) :
    assoc? name resource.dynamicAnchors = some number ∨ number = site.node := by
  unfold enteredResource at found
  dsimp only at found
  split at found
  · exact (assoc?_match_putEntry found).imp_right And.left
  · exact .inl found

theorem Opens.namesNodes (opens : site.Opens registered value before opened after) (names : before.NamesNodes) :
    after.NamesNodes := by
  have nodes := opens.nodes_eq
  constructor
  all_goals
    intro index resource found name number anchored
    rw [nodes]
    obtain ⟨id, ⟨earlier, present, rfl⟩ | rfl⟩ := opens.cases_of_resource found
  · exact names.anchored index earlier present name number anchored
  · cases anchored
  · exact names.dynamic index earlier present name number anchored
  · cases anchored

theorem namesNodes_finished (surrounds : Surrounds before named middle final) (anchored : final.anchor = value.anchor?)
    (names : middle.NamesNodes) : (final.finished value shape middle).NamesNodes := by
  have kept {number : Nat} {node : Node} (finished : middle.nodes[number]? = some (some node)) :
      (final.finished value shape middle).nodes[number]? = some (some node) :=
    getElem?_setIfInBounds_of_free surrounds.started finished _
  have own : (final.finished value shape middle).nodes[final.node]? = some (some (final.finishedNode value shape)) :=
    getElem?_setIfInBounds_self_of_free surrounds.started _
  constructor
  · intro index later found name number located
    rw [getElem?_resources_finished, Option.map_eq_some_iff] at found
    obtain ⟨resource, found, rfl⟩ := found
    rcases assoc?_anchors_enteredResource located with old | ⟨rfl, innermost, declared⟩
    · obtain ⟨node, finished, belongs, declares⟩ := names.anchored index resource found name number old
      exact ⟨node, kept finished, belongs, declares⟩
    · exact ⟨_, own, innermost, anchored.symm.trans declared⟩
  · intro index later found name number located
    rw [getElem?_resources_finished, Option.map_eq_some_iff] at found
    obtain ⟨resource, found, rfl⟩ := found
    rcases assoc?_dynamicAnchors_enteredResource located with old | rfl
    · obtain ⟨node, finished⟩ := names.dynamic index resource found name number old
      exact ⟨node, kept finished⟩
    · exact ⟨_, own⟩

theorem Compiles.namesNodes (compiles : Compiles registered site slots before numbers after)
    (names : before.NamesNodes) : after.NamesNodes := by
  induction compiles with
  | nil => exact names
  | cons dialects opens inner marked anchored shown rest ihInner ihRest =>
    refine ihRest (namesNodes_finished (surrounds_of_opens opens inner.fills marked) anchored
      (ihInner (opens.namesNodes ⟨?_, ?_⟩)))
    · intro index resource found name number located
      obtain ⟨node, finished, same⟩ := names.anchored index resource found name number located
      exact ⟨node, getElem?_push_of_eq_some finished none, same⟩
    · intro index resource found name number located
      obtain ⟨node, finished⟩ := names.dynamic index resource found name number located
      exact ⟨node, getElem?_push_of_eq_some finished none⟩

end Site

theorem Assembly.namesNodes_start (dialect : Dialect) (base : Url) (registered : Bool) (dialects : DialectCache) :
    (Assembly.start dialect base registered dialects).NamesNodes := by
  have none {index : Nat} {resource : Resource}
      (found : (Assembly.start dialect base registered dialects).resources[index]? = some resource) :
      resource.anchors = [] ∧ resource.dynamicAnchors = [] := by
    obtain rfl : index = 0 := Nat.lt_one_iff.mp (Array.getElem?_eq_some_iff.mp found).1
    rw [← Option.some.inj found]
    exact ⟨rfl, rfl⟩
  constructor
  · intro index resource found name number located
    rw [(none found).1] at located
    cases located
  · intro index resource found name number located
    rw [(none found).2] at located
    cases located

/-! ## Dialects -/

/-- Whether all resources of an assembly are of the draft. -/
def Assembly.IsDrafted (assembly : Assembly) : Prop :=
  ∀ (index : Nat) (resource : Resource), assembly.resources[index]? = some resource → resource.dialect = Draft.dialect

namespace Site

variable {registered : Bool} {site opened : Site} {value : Json} {slots : List (List String × Json)}
  {before after : Assembly} {numbers : List Nat}

theorem Opens.isDrafted (opens : site.Opens registered value before opened after)
    (own : site.dialect = Draft.dialect) (drafted : before.IsDrafted) : after.IsDrafted := by
  intro index resource found
  obtain ⟨id, ⟨earlier, present, rfl⟩ | rfl⟩ := opens.cases_of_resource found
  · exact drafted index earlier present
  · exact own

theorem Compiles.isDrafted (compiles : Compiles registered site slots before numbers after)
    (own : site.dialect = Draft.dialect) (drafted : before.IsDrafted) : after.IsDrafted := by
  induction compiles with
  | nil => exact drafted
  | @cons site opened final _ _ _ _ _ middle _ _ _ _ dialects opens inner _ _ _ rest ihInner ihRest =>
    have draftedMiddle := ihInner (opens.dialect_eq.trans own) (opens.isDrafted own drafted)
    refine ihRest own fun index resource found => ?_
    rw [getElem?_resources_finished, Option.map_eq_some_iff] at found
    obtain ⟨earlier, foundEarlier, rfl⟩ := found
    rw [dialect_enteredResource]
    exact draftedMiddle index earlier foundEarlier

end Site

theorem Assembly.isDrafted_start (base : Url) (registered : Bool) (dialects : DialectCache) :
    (Assembly.start Draft.dialect base registered dialects).IsDrafted := by
  intro index resource found
  obtain rfl : index = 0 := Nat.lt_one_iff.mp (Array.getElem?_eq_some_iff.mp found).1
  rw [← Option.some.inj found]
  rfl

/-! ## Documents that unfold a value -/

/-- Whether a document is made of the schemas in a whole value, with each node entered where it stands. -/
structure Document.Unfolds (document : Document) (whole : Json) : Prop where
  outermost : ∃ resource, document.resources[0]? = some resource ∧ resource.node = 0
  descends : ∀ index < document.nodes.size, ∀ child ∈ (document.node index).children,
    index < child ∧ child < document.nodes.size
  reflects : ∀ index < document.nodes.size, document.Reflects whole index
  rooted : ∀ (index : Nat) (resource : Resource), document.resources[index]? = some resource →
    resource.node < document.nodes.size
  entered : ∀ (index : Nat) (resource : Resource), document.resources[index]? = some resource →
    ∀ entry ∈ resource.locations, document.Leads resource.node entry.1.tokens entry.2
  located : ∀ (index : Nat) (resource : Resource), document.resources[index]? = some resource →
    ∀ tokens found, document.Leads resource.node tokens found → (assoc? ⟨tokens⟩ resource.locations).isSome
  /-- The location of a node is the way to it from the nearest schema around it that declares an id. -/
  placed : ∀ index < document.nodes.size, ∃ resource,
    document.resources[(document.node index).resource]? = some resource ∧ document.Owner index resource.node ∧
      document.Leads resource.node (document.node index).location.tokens index
  named : ∀ (index : Nat) (resource : Resource), document.resources[index]? = some resource →
    ∀ name number, assoc? name resource.anchors = some number → number < document.nodes.size ∧
      (document.node number).resource = index ∧ (document.node number).value.anchor? = some name
  anchored : ∀ index < document.nodes.size, ∀ name, (document.node index).value.anchor? = some name →
    ∃ resource, document.resources[(document.node index).resource]? = some resource ∧
      (assoc? name resource.anchors).isSome
  dynamic : ∀ (index : Nat) (resource : Resource), document.resources[index]? = some resource →
    ∀ name number, assoc? name resource.dynamicAnchors = some number → number < document.nodes.size
  drafted : ∀ (index : Nat) (resource : Resource), document.resources[index]? = some resource →
    resource.dialect = Draft.dialect

section Whole

variable {document : Document} {base : Url} {value : Json} {entries : List ((Nat × Pointer) × Nat)} {stop : Extent}
  {outer : Resource} (lays : document.Lays (.root Draft.dialect base) [([], value)] ⟨0, 1⟩ [0] entries stop)
  (foundOuter : document.resources[0]? = some outer) (isRoot : outer.node = 0)
include lays foundOuter isRoot

theorem Document.Lays.root_lt (count : document.resources.size = stop.resources) {index : Nat} {resource : Resource}
    (found : document.resources[index]? = some resource) : resource.node < stop.nodes := by
  rcases Nat.eq_zero_or_pos index with rfl | inner
  · rw [foundOuter] at found
    rw [← Option.some.inj found, isRoot]
    exact (lays.inside 0 (List.mem_singleton_self _)).2
  · have bound := (Array.getElem?_eq_some_iff.mp found).1
    obtain ⟨same, foundSame, inside, -⟩ := lays.rooted index inner (count ▸ bound)
    rw [Option.some.inj (found.symm.trans foundSame)]
    exact inside

/-- What is entered into the resources of a document leads from their roots. -/
theorem Document.Lays.leads_of_entered : ∀ entry ∈ entries, ∃ resource,
    document.resources[entry.1.1]? = some resource ∧ document.Leads resource.node entry.1.2.tokens entry.2 := by
  refine lays.leads_of_mem fun slot member node path inside => ?_
  rw [List.mem_singleton.mp member] at inside ⊢
  rw [List.mem_singleton.mp inside]
  refine ⟨outer, foundOuter, ?_⟩
  rw [isRoot]
  exact .self 0

/-- What leads from the root of a resource of a document is entered into it. -/
theorem Document.Lays.locates_of_leads (count : document.resources.size = stop.resources) {index other : Nat}
    {resource : Resource} (found : document.resources[index]? = some resource) {tokens : List String}
    (way : document.Leads resource.node tokens other) : document.Locates index ⟨tokens⟩ := by
  rcases Nat.eq_zero_or_pos index with rfl | inner
  · rw [foundOuter] at found
    rw [← Option.some.inj found, isRoot] at way
    exact lays.locates _ (List.mem_singleton_self _) tokens other way _ (List.mem_singleton_self _)
  · have bound := (Array.getElem?_eq_some_iff.mp found).1
    exact lays.locates_below index inner (count ▸ bound) resource found tokens other way

end Whole

/-- A document that was compiled unfolds its value. -/
theorem Site.Compiles.unfolds {registered : Bool} {base : Url} {dialects : DialectCache} {value : Json}
    {after : Assembly} {document : Document} (compiles : Compiles registered (.root Draft.dialect base) [([], value)]
      (.start Draft.dialect base registered dialects) [0] after) (finishes : after.document? = some document) :
    document.Unfolds value := by
  obtain ⟨entries, lays, logged, outer, foundOuter, isRoot⟩ := compiles.lays_document finishes
  obtain ⟨resources, -⟩ := Assembly.resources_of_document? finishes
  have size : document.nodes.size = after.extent.nodes := Assembly.size_of_document? finishes
  have count : document.resources.size = after.extent.resources := congrArg Array.size resources
  have leads := lays.leads_of_entered foundOuter isRoot
  have names := compiles.namesNodes (Assembly.namesNodes_start _ _ _ _)
  exact {
    outermost := ⟨outer, foundOuter, isRoot⟩
    descends := by
      rw [size]
      exact fun index bound => lays.descends index (Nat.zero_le _) bound
    reflects := by
      rw [size]
      refine fun index bound => lays.reflects (fun slot member => ?_) index (Nat.zero_le _) bound
      rw [List.mem_singleton.mp member]
      exact List.Subset.refl _
    rooted := by
      rw [size]
      exact fun index resource found => lays.root_lt foundOuter isRoot count found
    entered := by
      intro index resource found entry member
      obtain ⟨same, foundSame, leads⟩ := leads _ (logged index resource found entry member)
      rw [Option.some.inj (found.symm.trans foundSame)]
      exact leads
    located := by
      intro index resource found tokens other way
      obtain ⟨same, foundSame, present⟩ := lays.locates_of_leads foundOuter isRoot count found way
      rwa [Option.some.inj (found.symm.trans foundSame)]
    placed := by
      rw [size]
      intro index bound
      obtain ⟨resource, found, owns⟩ := lays.owned foundOuter
        (fun number member _ => by rw [List.mem_singleton.mp member, isRoot]; exact .root) index (Nat.zero_le _) bound
      obtain ⟨same, foundSame, leads⟩ := leads _ (lays.location_mem rfl index (Nat.zero_le _) bound)
      refine ⟨resource, found, owns, ?_⟩
      rw [Option.some.inj (found.symm.trans foundSame)]
      exact leads
    named := by
      intro index resource found name number located
      obtain ⟨node, finished, own, declares⟩ := names.anchored index resource (resources ▸ found) name number located
      rw [Assembly.node_of_document? finishes finished]
      refine ⟨?_, own, declares⟩
      rw [size]
      exact (Array.getElem?_eq_some_iff.mp finished).1
    anchored := by
      rw [size]
      intro index bound name declares
      obtain ⟨value, site, below, has⟩ := lays.exists_has index (Nat.zero_le _) bound
      rw [has.value_eq] at declares
      rw [has.resource_eq]
      exact has.anchored name declares
    dynamic := by
      intro index resource found name number located
      obtain ⟨node, finished⟩ := names.dynamic index resource (resources ▸ found) name number located
      rw [size]
      exact (Array.getElem?_eq_some_iff.mp finished).1
    drafted := resources ▸ compiles.isDrafted rfl (Assembly.isDrafted_start _ _ _) }

/-! ## What can be found in a resource -/

/-- The root pointer names the root of a resource, and any other one names what is entered under it. -/
theorem Resource.nodeOfFragment?_text (resource : Resource) (pointer : Pointer) :
    resource.nodeOfFragment? pointer.text .standard =
      if pointer.isRoot then some resource.node else assoc? pointer resource.locations := by
  obtain ⟨tokens⟩ := pointer
  cases tokens with
  | nil => rfl
  | cons token tokens =>
    have written : (Pointer.text ⟨token :: tokens⟩).toList =
        '/' :: (Pointer.escape token.toList ++ Pointer.chars ⟨tokens⟩) := by
      rw [Pointer.text, String.toList_ofList, Pointer.chars, List.flatMap_cons, List.cons_append]
      rfl
    have some : (Pointer.text ⟨token :: tokens⟩).isEmpty = false := by
      refine Bool.eq_false_iff.mpr fun empty => ?_
      rw [String.isEmpty_iff.mp empty] at written
      cases written
    have slash : "/".isPrefixOf (Pointer.text ⟨token :: tokens⟩) = true := by
      refine String.startsWith_string_iff.mpr ?_
      rw [written]
      exact ⟨_, rfl⟩
    simp [nodeOfFragment?, some, slash, FragmentKinds.allowsStandard, Pointer.parse_text, Pointer.isRoot]

/-- Whether a fragment is neither empty nor a pointer. -/
def IsPlainName (fragment : String) : Prop := fragment.isEmpty = false ∧ "/".isPrefixOf fragment = false

theorem Resource.nodeOfFragment?_of_isPlainName {fragment : String} (plain : IsPlainName fragment)
    (resource : Resource) : resource.nodeOfFragment? fragment .standard = assoc? fragment resource.anchors := by
  simp [nodeOfFragment?, plain.1, plain.2, FragmentKinds.allowsStandard, FragmentKinds.allowsDynamic]

/-- Whether what fragments name in a resource is what stands there. -/
structure Schema.IsIndexed (schema : Schema) : Prop where
  /-- A pointer names the node to which its tokens lead from the root, also through other resources. -/
  named_iff : ∀ (pointer : Pointer) (index : Nat), schema.nodeOfFragment? pointer.text .standard = some index ↔
    schema.document.Leads schema.rootIndex pointer.tokens index
  /-- A pointer that leads to a node resolves to its value. -/
  resolves : ∀ (pointer : Pointer) (index : Nat), schema.document.Leads schema.rootIndex pointer.tokens index →
    pointer.resolve? schema.value = some (schema.document.node index).value
  /-- A plain name names a node of the resource that declares it as its anchor. -/
  declared : ∀ (name : String) (index : Nat), IsPlainName name → schema.nodeOfFragment? name .standard = some index →
    index < schema.document.nodes.size ∧ (schema.document.node index).resource = schema.resource ∧
      (schema.document.node index).value.anchor? = some name
  /-- Each anchor of a node of the resource names some node. -/
  anchored : ∀ (name : String) (index : Nat), IsPlainName name → index < schema.document.nodes.size →
    (schema.document.node index).resource = schema.resource →
      (schema.document.node index).value.anchor? = some name → (schema.nodeOfFragment? name .standard).isSome

/-- Whether all resources of a document are indexed, and each node has the location at which it is reached from the
nearest schema around it that declares an id. -/
structure Document.IsIndexed (document : Document) : Prop where
  resources : ∀ index < document.resources.size, (⟨document, index⟩ : Schema).IsIndexed
  placed : ∀ index < document.nodes.size, ∃ resource,
    document.resources[(document.node index).resource]? = some resource ∧ document.Owner index resource.node ∧
      document.Leads resource.node (document.node index).location.tokens index

namespace Document.Unfolds

variable {document : Document} {value : Json} (unfolds : document.Unfolds value) (names : value.NamesOnce)
  (countable : value.IsCountable)
include unfolds names countable

/-- What is named in a resource of a document that unfolds a value is what stands there. -/
theorem isIndexed_resource {index : Nat} (bound : index < document.resources.size) :
    (⟨document, index⟩ : Schema).IsIndexed := by
  obtain ⟨resource, found⟩ : ∃ resource, document.resources[index]? = some resource :=
    ⟨_, Array.getElem?_eq_getElem bound⟩
  have root : (⟨document, index⟩ : Schema).rootIndex = resource.node := by
    rw [Schema.rootIndex, Schema.info?, found]
    rfl
  have named (fragment : String) : (⟨document, index⟩ : Schema).nodeOfFragment? fragment .standard =
      resource.nodeOfFragment? fragment .standard := by
    rw [Schema.nodeOfFragment?, Schema.info?, found]
    rfl
  have inside := unfolds.rooted index resource found
  refine ⟨?_, ?_, ?_, ?_⟩
  · intro pointer number
    rw [named, root, Resource.nodeOfFragment?_text]
    have located : document.Leads resource.node pointer.tokens number →
        assoc? pointer resource.locations = some number := by
      intro leads
      obtain ⟨other, entered⟩ := Option.isSome_iff_exists.mp (unfolds.located index resource found _ _ leads)
      have leadsOther := unfolds.entered index resource found _ (mem_of_assoc? entered)
      rw [leads.unique unfolds.descends unfolds.reflects names inside leadsOther]
      exact entered
    split
    · next isRoot =>
      have empty : pointer.tokens = [] := List.isEmpty_iff.mp isRoot
      rw [empty]
      constructor
      · rintro ⟨rfl⟩
        exact .self _
      · intro leads
        rw [leads.unique unfolds.descends unfolds.reflects names inside (.self _)]
    · constructor
      · intro entered
        exact unfolds.entered index resource found _ (mem_of_assoc? entered)
      · exact located
  · intro pointer number leads
    rw [root] at leads
    rw [Schema.value, Schema.root, root]
    exact leads.follow? unfolds.descends unfolds.reflects names countable inside
  · intro name number plain names
    rw [named, Resource.nodeOfFragment?_of_isPlainName plain] at names
    exact unfolds.named index resource found name number names
  · intro name number plain bound own declares
    obtain ⟨same, foundSame, present⟩ := unfolds.anchored number bound name declares
    rw [own] at foundSame
    rw [named, Resource.nodeOfFragment?_of_isPlainName plain, Option.some.inj (found.symm.trans foundSame)]
    exact present

theorem isIndexed : document.IsIndexed :=
  ⟨fun _ bound => unfolds.isIndexed_resource names countable bound, unfolds.placed⟩

end Document.Unfolds

namespace Schema

variable {options : Options}

/-- A value whose nodes all compile under the draft compiles to a document in which everything is found where it
stands. -/
theorem isIndexed_of_compilesUnder {url : Url} {value : Json} {dialects : DialectCache} (names : value.NamesOnce)
    (countable : value.IsCountable)
    (compiles : CompilesUnder Draft.dialect options options.dialect url.withoutFragment true value dialects) :
    ∃ document, (compileWith options url value dialects).1 = .ok ⟨document, 0⟩ ∧ document.IsIndexed := by
  obtain ⟨document, assembly, compiled, finishes, made⟩ := exists_document_of_compilesUnder names compiles
  exact ⟨document, compiled, (made.unfolds finishes).isIndexed names countable⟩

/-- A schema with an id of its own and an anchor, inside a document with the same anchor. -/
theorem isIndexed_of_compilesUnder_embedded :
    let url := Draft.url "example"
    let value : Json := .object [("$anchor", .string "x"), ("allOf", .array [.bool true, .object
      [("$id", .string "a"), ("$defs", .object [("k", .object [("$anchor", .string "x")])])]])]
    value.NamesOnce ∧ value.IsCountable ∧ CompilesUnder Draft.dialect .standard Draft.dialect url true value [] ∧
      ∃ document, (compileWith .standard url value []).1 = .ok ⟨document, 0⟩ ∧ document.IsIndexed := by
  intro url value
  have names : value.NamesOnce := by decide
  have countable : value.IsCountable := by decide +kernel
  have compiles : CompilesUnder Draft.dialect .standard Draft.dialect url true value [] :=
    compilesUnder_of_compileDocument Options.knowsOnlyDraft_standard (by decide +kernel)
  exact ⟨names, countable, compiles, isIndexed_of_compilesUnder names countable compiles⟩

end Schema

end JsonSchema
