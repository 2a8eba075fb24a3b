import JsonSchema.Keyword.Order
import Mathlib.Data.List.Sort

/-! # Entries in order

Ordering the keywords of a schema object neither loses nor repeats one. A keyword may be called late if it
stands behind all others by its place and no other keyword waits for it; as long as dependencies descend, all
late keywords come last (`KeywordEntry.pairwise_inOrder`).
-/

namespace JsonSchema.KeywordEntry

variable {α : Type _}

/-- What is found is the first element with the property. -/
theorem extract?_eq_some {β : Type _} {p : β → Bool} {list others : List β} {found : β}
    (extracted : extract? p list = some (found, others)) :
    ∃ before after, list = before ++ found :: after ∧ others = before ++ after ∧ p found = true ∧
      ∀ earlier ∈ before, p earlier = false := by
  induction list generalizing found others with
  | nil => simp [extract?] at extracted
  | cons head rest ih =>
    cases holds : p head with
    | true =>
      rw [extract?, if_pos holds] at extracted
      obtain ⟨rfl, rfl⟩ := Prod.mk.inj (Option.some.inj extracted)
      exact ⟨[], rest, rfl, rfl, holds, by simp⟩
    | false =>
      rw [extract?, if_neg (by simp [holds]), Option.map_eq_some_iff] at extracted
      obtain ⟨⟨inner, left⟩, extracted, same⟩ := extracted
      obtain ⟨rfl, rfl⟩ := Prod.mk.inj same
      obtain ⟨before, after, rfl, rfl, holdsFound, none⟩ := ih extracted
      refine ⟨head :: before, after, rfl, rfl, holdsFound, ?_⟩
      intro earlier member
      rcases List.mem_cons.mp member with rfl | member
      · exact holds
      · exact none earlier member

theorem extract?_eq_none {β : Type _} {p : β → Bool} {list : List β} (nothing : extract? p list = none) :
    ∀ element ∈ list, p element = false := by
  induction list with
  | nil => exact fun element none => absurd none List.not_mem_nil
  | cons head rest ih =>
    cases holds : p head with
    | true => simp [extract?, holds] at nothing
    | false =>
      rw [extract?, if_neg (by simp [holds]), Option.map_eq_none_iff] at nothing
      exact List.forall_mem_cons.mpr ⟨holds, ih nothing⟩

/-- Nothing before the next entry is ready. -/
theorem next_eq (first : KeywordEntry α) (rest : List (KeywordEntry α)) :
    ∃ before after, first :: rest = before ++ (next first rest).1 :: after ∧ (next first rest).2 = before ++ after ∧
      ∀ earlier ∈ before, isReady (first :: rest) earlier = false := by
  unfold next
  cases extracted : extract? (isReady (first :: rest)) (first :: rest) with
  | none => exact ⟨[], rest, rfl, rfl, by simp⟩
  | some pair =>
    obtain ⟨found, others⟩ := pair
    obtain ⟨before, after, same, rfl, ready, waiting⟩ := extract?_eq_some extracted
    exact ⟨before, after, same, rfl, waiting⟩

theorem next_perm (first : KeywordEntry α) (rest : List (KeywordEntry α)) :
    ((next first rest).1 :: (next first rest).2).Perm (first :: rest) := by
  obtain ⟨before, after, same, left, -⟩ := next_eq first rest
  rw [same, left]
  exact List.perm_middle.symm

theorem next_sublist (first : KeywordEntry α) (rest : List (KeywordEntry α)) :
    (next first rest).2.Sublist (first :: rest) := by
  obtain ⟨before, after, same, left, -⟩ := next_eq first rest
  rw [same, left]
  exact List.Sublist.append_left (List.sublist_cons_self _ _) before

theorem next_eq_self {first : KeywordEntry α} {rest : List (KeywordEntry α)}
    (ready : isReady (first :: rest) first = true) : next first rest = (first, rest) := by
  rw [next, extract?, if_pos ready]
  rfl

theorem release_perm (entries : List (KeywordEntry α)) : (release entries).Perm entries := by
  fun_induction release entries with
  | case1 => exact .nil
  | case2 first rest ih => exact (ih.cons _).trans (next_perm first rest)

/-- Whether an entry waits for another. -/
def DependsOn (entry other : KeywordEntry α) : Prop := other.spec.keyword ∈ entry.spec.dependencies

instance (entry other : KeywordEntry α) : Decidable (entry.DependsOn other) :=
  inferInstanceAs (Decidable (_ ∈ entry.spec.dependencies))

theorem isReady_iff {entries : List (KeywordEntry α)} {entry : KeywordEntry α} :
    isReady entries entry = true ↔ ∀ other ∈ entries, ¬ entry.DependsOn other := by
  simp only [isReady, List.all_eq_true, Bool.not_eq_true', List.any_eq_false, beq_iff_eq, DependsOn]
  exact ⟨fun free other member depends => free _ depends other member rfl,
    fun free name depends other member same => free other member (same ▸ depends)⟩

/-- Entries that wait neither for themselves nor for any behind them go ahead as they stand. -/
theorem release_eq_self_of_pairwise {entries : List (KeywordEntry α)}
    (free : ∀ entry ∈ entries, ¬ entry.DependsOn entry) (ahead : entries.Pairwise fun a b => ¬ a.DependsOn b) :
    release entries = entries := by
  induction entries with
  | nil => rw [release]
  | cons first rest ih =>
    obtain ⟨freeFirst, free⟩ := List.forall_mem_cons.mp free
    obtain ⟨aheadFirst, ahead⟩ := List.pairwise_cons.mp ahead
    have ready : isReady (first :: rest) first = true :=
      isReady_iff.mpr (List.forall_mem_cons.mpr ⟨freeFirst, aheadFirst⟩)
    rw [release, next_eq_self ready, ih free ahead]

/-- Entries that wait for nothing go ahead as they stand. -/
theorem release_eq_self {entries : List (KeywordEntry α)} (free : ∀ entry ∈ entries, entry.spec.dependencies = []) :
    release entries = entries := by
  have independent (entry other : KeywordEntry α) (member : entry ∈ entries) : ¬ entry.DependsOn other := by
    rw [DependsOn, free entry member]
    exact List.not_mem_nil
  exact release_eq_self_of_pairwise (fun entry => independent entry entry)
    (List.pairwise_of_forall_mem_list fun entry member other _ => independent entry other member)

theorem byPlace_eq_insertionSort (entries : List (KeywordEntry α)) :
    byPlace entries = entries.insertionSort fun a b => precedes a b = true := by
  have inserts (entry : KeywordEntry α) (list : List (KeywordEntry α)) :
      insertByPlace entry list = list.orderedInsert (fun a b => precedes a b = true) entry := by
    induction list with
    | nil => rfl
    | cons first rest ih => rw [insertByPlace, ih, List.orderedInsert]
  induction entries with
  | nil => rfl
  | cons first rest ih => rw [byPlace, List.foldr_cons, ← byPlace, ih, inserts, List.insertionSort_cons]

theorem byPlace_perm (entries : List (KeywordEntry α)) : (byPlace entries).Perm entries := by
  rw [byPlace_eq_insertionSort]
  exact List.perm_insertionSort _ entries

theorem inOrder_perm (entries : List (KeywordEntry α)) : (inOrder entries).Perm entries :=
  (release_perm _).trans (byPlace_perm entries)

/-! ## Late entries -/

/-- How the entries of a schema object wait for each other: dependencies descend in rank, and an entry that is
not late depends on none that is late. -/
structure Layered (rank : String → Nat) (late : KeywordEntry α → Bool) (entries : List (KeywordEntry α)) : Prop where
  descends : ∀ entry ∈ entries, ∀ name ∈ entry.spec.dependencies, rank name < rank entry.spec.keyword
  ahead : ∀ entry ∈ entries, late entry = false → ∀ other ∈ entries,
    other.spec.keyword ∈ entry.spec.dependencies → late other = false

variable {rank : String → Nat} {late : KeywordEntry α → Bool} {entries : List (KeywordEntry α)}

theorem Layered.of_subset {fewer : List (KeywordEntry α)} (layered : Layered rank late entries)
    (subset : fewer ⊆ entries) : Layered rank late fewer :=
  ⟨fun entry member => layered.descends entry (subset member),
    fun entry member early other inside => layered.ahead entry (subset member) early other (subset inside)⟩

/-- As long as an entry is left that is not late, one of these is ready. -/
theorem Layered.exists_ready (layered : Layered rank late entries) {entry : KeywordEntry α} (member : entry ∈ entries)
    (early : late entry = false) : ∃ ready ∈ entries, late ready = false ∧ isReady entries ready = true := by
  -- The entry waits for one of lower rank unless it is ready itself.
  generalize bound : rank entry.spec.keyword = level
  induction level using Nat.strongRecOn generalizing entry with
  | ind level ih =>
    cases ready : isReady entries entry with
    | true => exact ⟨entry, member, early, ready⟩
    | false =>
      simp only [isReady, List.all_eq_false, Bool.not_eq_true', Bool.not_eq_false, List.any_eq_true] at ready
      obtain ⟨name, depends, other, inside, same⟩ := ready
      obtain rfl : other.spec.keyword = name := eq_of_beq same
      exact ih _ (bound ▸ layered.descends entry member _ depends) inside
        (layered.ahead entry member early other inside depends) rfl

/-- A late entry goes next only when all that are left are late. -/
theorem Layered.late_of_late_next {first : KeywordEntry α} {rest : List (KeywordEntry α)}
    (layered : Layered rank late (first :: rest))
    (sorted : (first :: rest).Pairwise fun a b => late a = true → late b = true)
    (lateNext : late (next first rest).1 = true) : ∀ entry ∈ first :: rest, late entry = true := by
  intro entry member
  refine Bool.of_not_eq_false fun early => ?_
  obtain ⟨ready, inside, earlyReady, isReady⟩ := layered.exists_ready member early
  obtain ⟨before, after, same, -, waiting⟩ := next_eq first rest
  rw [same] at inside sorted
  rcases List.mem_append.mp inside with ahead | behind
  · rw [waiting ready ahead] at isReady
    contradiction
  · rcases List.mem_cons.mp behind with rfl | behind
    · rw [lateNext] at earlyReady
      contradiction
    · have lateReady := (List.pairwise_cons.mp (List.pairwise_append.mp sorted).2.1).1 ready behind lateNext
      rw [lateReady] at earlyReady
      contradiction

theorem pairwise_release (layered : Layered rank late entries)
    (sorted : entries.Pairwise fun a b => late a = true → late b = true) :
    (release entries).Pairwise fun a b => late a = true → late b = true := by
  fun_induction release entries with
  | case1 => exact .nil
  | case2 first rest ih =>
    have fewer := next_sublist first rest
    refine List.pairwise_cons.mpr ⟨?_, ih (layered.of_subset fewer.subset) (sorted.sublist fewer)⟩
    intro entry member lateNext
    exact layered.late_of_late_next sorted lateNext entry (fewer.subset ((release_perm _).subset member))

instance : IsTrans (KeywordEntry α) fun a b => precedes a b = true where
  trans a b c first second := by
    simp only [precedes, Bool.or_eq_true, Bool.and_eq_true, decide_eq_true_eq, beq_iff_eq] at *
    omega

instance : Std.Total fun (a b : KeywordEntry α) => precedes a b = true where
  total a b := by
    simp only [precedes, Bool.or_eq_true, Bool.and_eq_true, decide_eq_true_eq, beq_iff_eq]
    omega

theorem pairwise_byPlace (entries : List (KeywordEntry α)) :
    (byPlace entries).Pairwise fun a b => precedes a b = true := by
  rw [byPlace_eq_insertionSort]
  exact List.pairwise_insertionSort _ entries

theorem precedes_refl (entry : KeywordEntry α) : precedes entry entry = true := by
  simp [precedes]

/-- Late entries come last if none of them precedes an entry that is not late. -/
theorem pairwise_inOrder_of_precedes (layered : Layered rank late entries)
    (behind : ∀ a ∈ entries, ∀ b ∈ entries, late a = true → late b = false → precedes a b = false) :
    (inOrder entries).Pairwise fun a b => late a = true → late b = true := by
  have subset := (byPlace_perm entries).subset
  refine pairwise_release (layered.of_subset subset) ((pairwise_byPlace entries).imp_of_mem ?_)
  intro a b memberA memberB before lateA
  refine Bool.of_not_eq_false fun earlyB => ?_
  rw [behind a (subset memberA) b (subset memberB) lateA earlyB] at before
  contradiction

/-- Late entries come last if they stand behind all others by their place. -/
theorem pairwise_inOrder (layered : Layered rank late entries)
    (behind : ∀ a ∈ entries, ∀ b ∈ entries, late a = true → late b = false → b.spec.order < a.spec.order) :
    (inOrder entries).Pairwise fun a b => late a = true → late b = true := by
  refine pairwise_inOrder_of_precedes layered fun a memberA b memberB lateA earlyB => ?_
  have further := behind a memberA b memberB lateA earlyB
  simp only [precedes, Bool.or_eq_false_iff, Bool.and_eq_false_imp, decide_eq_false_iff_not, beq_iff_eq]
  omega

end JsonSchema.KeywordEntry
