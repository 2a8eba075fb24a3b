import JsonSchema.Proofs.Keyword.Order
import Mathlib.Data.Set.Finite.Basic
import Mathlib.Logic.Relation
import Mathlib.Order.WellFounded

/-! # The canonical order

The order of application is a function of the set of entries, whatever their dependencies are: places and positions
decide between entries that do not wait for each other, so the order in which entries are given does not matter
(`KeywordEntry.inOrder_eq_of_perm`). As long as no entry waits for itself, not even through others, each entry in the
order is the least of those that are left and wait for nothing that is left (`KeywordEntry.inOrder_canonical`).
-/

namespace JsonSchema.KeywordEntry

variable {α : Type _} {entries : List (KeywordEntry α)}

/-! ## Input order -/

theorem eq_of_precedes (positions : (entries.map (·.position)).Nodup) {a b : KeywordEntry α} (memberA : a ∈ entries)
    (memberB : b ∈ entries) (before : precedes a b = true) (behind : precedes b a = true) : a = b := by
  refine List.inj_on_of_nodup_map positions memberA memberB ?_
  simp only [precedes, Bool.or_eq_true, Bool.and_eq_true, decide_eq_true_eq, beq_iff_eq] at before behind
  omega

/-- The same entries are given the same order. -/
theorem inOrder_eq_of_perm (positions : (entries.map (·.position)).Nodup) {others : List (KeywordEntry α)}
    (same : others.Perm entries) : inOrder others = inOrder entries := by
  have sorted := same.trans (byPlace_perm entries).symm
  refine congrArg release (List.Perm.eq_of_pairwise ?_ (pairwise_byPlace others) (pairwise_byPlace entries)
    ((byPlace_perm others).trans sorted))
  intro a b memberA memberB
  exact eq_of_precedes positions (same.subset ((byPlace_perm others).subset memberA))
    ((byPlace_perm entries).subset memberB)

/-! ## Entries that wait for themselves -/

/-- How entries of a list wait for each other. -/
def Awaits (entries : List (KeywordEntry α)) (entry other : KeywordEntry α) : Prop :=
  entry ∈ entries ∧ other ∈ entries ∧ entry.DependsOn other

/-- Whether no entry of a list waits for itself, be it through others. -/
def Acyclic (entries : List (KeywordEntry α)) : Prop :=
  ∀ entry, ¬ Relation.TransGen (Awaits entries) entry entry

theorem Acyclic.of_subset (acyclic : Acyclic entries) {fewer : List (KeywordEntry α)} (subset : fewer ⊆ entries) :
    Acyclic fewer := by
  intro entry cycle
  have within : Awaits fewer ≤ Awaits entries := fun a b waits => ⟨subset waits.1, subset waits.2.1, waits.2.2⟩
  exact acyclic entry (Relation.TransGen.mono within _ _ cycle)

/-- Entries that only wait for entries of lower rank do not wait for themselves. -/
theorem acyclic_of_rank (rank : KeywordEntry α → Nat)
    (descends : ∀ entry ∈ entries, ∀ other ∈ entries, entry.DependsOn other → rank other < rank entry) :
    Acyclic entries := by
  intro entry cycle
  have lower (other : KeywordEntry α) (waits : Relation.TransGen (Awaits entries) entry other) :
      rank other < rank entry := by
    induction waits with
    | single waits => exact descends _ waits.1 _ waits.2.1 waits.2.2
    | tail _ waits ih => exact (descends _ waits.1 _ waits.2.1 waits.2.2).trans ih
  exact Nat.lt_irrefl _ (lower entry cycle)

theorem Layered.acyclic {rank : String → Nat} {late : KeywordEntry α → Bool} (layered : Layered rank late entries) :
    Acyclic entries :=
  acyclic_of_rank (fun entry => rank entry.spec.keyword) fun entry member _ _ depends =>
    layered.descends entry member _ depends

/-- Waiting comes to an end among finitely many entries. -/
theorem Acyclic.wellFounded (acyclic : Acyclic entries) :
    WellFounded fun other entry : {entry // entry ∈ entries} => entry.val.DependsOn other.val := by
  have finite : Finite {entry // entry ∈ entries} := (List.finite_toSet entries).to_subtype
  let later (other entry : {entry // entry ∈ entries}) : Prop :=
    Relation.TransGen (Awaits entries) entry.val other.val
  have irreflexive : Std.Irrefl later := ⟨fun entry => acyclic entry.val⟩
  have transitive : IsTrans _ later := ⟨fun _ _ _ first second => second.trans first⟩
  exact (Finite.wellFounded_of_trans_of_irrefl later).mono fun other entry depends =>
    .single ⟨entry.property, other.property, depends⟩

/-- Some entry waits for no other. -/
theorem Acyclic.exists_ready (acyclic : Acyclic entries) (some : entries ≠ []) :
    ∃ entry ∈ entries, isReady entries entry = true := by
  obtain ⟨first, member⟩ := List.exists_mem_of_ne_nil entries some
  obtain ⟨least, -, minimal⟩ := acyclic.wellFounded.has_min Set.univ ⟨⟨first, member⟩, trivial⟩
  exact ⟨least.val, least.property, isReady_iff.mpr fun other inside => minimal ⟨other, inside⟩ trivial⟩

/-! ## One step -/

/-- If any entry is ready, the next one is. -/
theorem isReady_next {first : KeywordEntry α} {rest : List (KeywordEntry α)}
    (some : ∃ entry ∈ first :: rest, isReady (first :: rest) entry = true) :
    isReady (first :: rest) (next first rest).1 = true := by
  obtain ⟨entry, member, ready⟩ := some
  unfold next
  cases extracted : extract? (isReady (first :: rest)) (first :: rest) with
  | none => exact absurd ready (by simp [extract?_eq_none extracted entry member])
  | some pair =>
    obtain ⟨before, after, -, -, holds, -⟩ := extract?_eq_some extracted
    exact holds

/-- The next of some entries in place is the least of those that are ready. -/
theorem precedes_next {first : KeywordEntry α} {rest : List (KeywordEntry α)}
    (sorted : (first :: rest).Pairwise fun a b => precedes a b = true) {other : KeywordEntry α}
    (member : other ∈ first :: rest) (ready : isReady (first :: rest) other = true) :
    precedes (next first rest).1 other = true := by
  obtain ⟨before, after, same, -, waiting⟩ := next_eq first rest
  rw [same] at member sorted
  rcases List.mem_append.mp member with ahead | behind
  · rw [waiting other ahead] at ready
    cases ready
  · rcases List.mem_cons.mp behind with rfl | behind
    · exact precedes_refl _
    · exact (List.pairwise_cons.mp (List.pairwise_append.mp sorted).2.1).1 other behind

/-! ## All steps -/

theorem Acyclic.pairwise_release (acyclic : Acyclic entries) :
    (release entries).Pairwise fun a b => ¬ a.DependsOn b := by
  fun_induction release entries with
  | case1 => exact .nil
  | case2 first rest ih =>
    have fewer := (next_sublist first rest).subset
    have ready := isReady_next (acyclic.exists_ready (List.cons_ne_nil first rest))
    refine List.pairwise_cons.mpr ⟨fun other member => ?_, ih (acyclic.of_subset fewer)⟩
    exact isReady_iff.mp ready other (fewer ((release_perm _).subset member))

/-- No entry in the order waits for one behind it. -/
theorem Acyclic.pairwise_inOrder (acyclic : Acyclic entries) :
    (inOrder entries).Pairwise fun a b => ¬ a.DependsOn b :=
  (acyclic.of_subset (byPlace_perm entries).subset).pairwise_release

/-- What an entry goes ahead of is left when it is next, in the order of its place. -/
theorem exists_of_release_eq {before after : List (KeywordEntry α)} {entry : KeywordEntry α}
    (split : release entries = before ++ entry :: after) :
    ∃ first rest, (first :: rest).Sublist entries ∧ (first :: rest).Perm (entry :: after) ∧
      (next first rest).1 = entry := by
  fun_induction release entries generalizing before with
  | case1 => simp at split
  | case2 first rest ih =>
    cases before with
    | nil =>
      obtain ⟨rfl, left⟩ := List.cons.inj split
      refine ⟨first, rest, List.Sublist.refl _, (next_perm first rest).symm.trans (.cons _ ?_), rfl⟩
      exact left ▸ (release_perm _).symm
    | cons head before =>
      obtain ⟨-, split⟩ := List.cons.inj split
      obtain ⟨second, others, fewer, same, next⟩ := ih split
      exact ⟨second, others, fewer.trans (next_sublist first rest), same, next⟩

/-- Whether an entry comes after all that it waits for, and is the least of those that could come behind some others. -/
structure GoesBehind (entries before : List (KeywordEntry α)) (entry : KeywordEntry α) : Prop where
  ahead : ∀ other ∈ entries, entry.DependsOn other → other ∈ before
  least : ∀ other ∈ entries, other ∉ before → (∀ awaited ∈ entries, other.DependsOn awaited → awaited ∈ before) →
    precedes entry other = true

/-- Whether each entry of an order may come behind those in front of it. -/
def IsCanonical (entries order : List (KeywordEntry α)) : Prop :=
  ∀ before entry after, order = before ++ entry :: after → GoesBehind entries before entry

/-- The order of entries that do not wait for themselves is canonical. -/
theorem Acyclic.isCanonical (acyclic : Acyclic entries) (distinct : entries.Nodup) :
    IsCanonical entries (inOrder entries) := by
  intro before entry after split
  obtain ⟨first, rest, fewer, left, rfl⟩ := exists_of_release_eq split
  have whole : entries.Perm (before ++ (first :: rest)) :=
    (split ▸ inOrder_perm entries).symm.trans (left.symm.append_left before)
  have apart := List.disjoint_of_nodup_append (whole.nodup_iff.mp distinct)
  have subset : first :: rest ⊆ entries := fun other inside => whole.mem_iff.mpr (List.mem_append_right _ inside)
  -- An entry that is left is ready if all that it waits for has gone ahead.
  have ready (other : KeywordEntry α) :
      isReady (first :: rest) other = true ↔ ∀ awaited ∈ entries, other.DependsOn awaited → awaited ∈ before := by
    rw [isReady_iff]
    constructor
    · intro free awaited member depends
      exact (List.mem_append.mp (whole.subset member)).resolve_right fun inside => free awaited inside depends
    · intro gone awaited inside depends
      exact apart (gone awaited (subset inside) depends) inside
  constructor
  · exact (ready _).mp (isReady_next ((acyclic.of_subset subset).exists_ready (List.cons_ne_nil _ _)))
  · intro other member pending gone
    have inside := (List.mem_append.mp (whole.subset member)).resolve_left pending
    exact precedes_next ((pairwise_byPlace entries).sublist fewer) inside ((ready other).mpr gone)

/-- Entries that only wait for entries in front of them keep their places. -/
theorem Acyclic.inOrder_eq_byPlace (acyclic : Acyclic entries) (positions : (entries.map (·.position)).Nodup)
    (behind : ∀ entry ∈ entries, ∀ other ∈ entries, entry.DependsOn other → precedes other entry = true) :
    inOrder entries = byPlace entries := by
  have subset := (byPlace_perm entries).subset
  have free (entry : KeywordEntry α) (member : entry ∈ entries) : ¬ entry.DependsOn entry :=
    fun depends => acyclic entry (.single ⟨member, member, depends⟩)
  refine release_eq_self_of_pairwise (fun entry member => free entry (subset member)) ?_
  refine (pairwise_byPlace entries).imp_of_mem fun {a b} memberA memberB before depends => ?_
  obtain rfl := eq_of_precedes positions (subset memberA) (subset memberB) before
    (behind a (subset memberA) b (subset memberB) depends)
  exact free a (subset memberA) depends

/-- The order of application neither loses nor repeats an entry, whatever waits for what, and does not depend on the
order in which the entries are given. Unless an entry waits for itself, be it through others, the order is canonical,
and then it is that of the places if no entry waits for one behind it. -/
theorem inOrder_canonical (entries : List (KeywordEntry α)) (positions : (entries.map (·.position)).Nodup) :
    (inOrder entries).Perm entries ∧
      (∀ others : List (KeywordEntry α), others.Perm entries → inOrder others = inOrder entries) ∧
      (Acyclic entries → IsCanonical entries (inOrder entries) ∧
        ((∀ entry ∈ entries, ∀ other ∈ entries, entry.DependsOn other → precedes other entry = true) →
          (inOrder entries).Pairwise fun a b => precedes a b = true)) := by
  refine ⟨inOrder_perm entries, fun others => inOrder_eq_of_perm positions, fun acyclic => ⟨?_, fun behind => ?_⟩⟩
  · exact acyclic.isCanonical (List.Nodup.of_map _ positions)
  · rw [acyclic.inOrder_eq_byPlace positions behind]
    exact pairwise_byPlace entries

/-- An applicator that waits for an assertion comes after it, though its place is in front. -/
theorem inOrder_canonical_across_places :
    let entries : List (KeywordEntry Unit) :=
      [⟨0, { KeywordSpec.standard .items with dependencies := ["type", "prefixItems"] }, ()⟩,
        ⟨1, .standard .type, ()⟩, ⟨2, .standard (.combination .anyOf), ()⟩]
    (entries.map (·.position)).Nodup ∧ Acyclic entries ∧ IsCanonical entries (inOrder entries) ∧
      (inOrder entries).map (·.spec.keyword) = ["anyOf", "type", "items"] := by
  intro entries
  have positions : (entries.map (·.position)).Nodup := by decide
  have acyclic : Acyclic entries := acyclic_of_rank (fun entry => if entry.position = 0 then 1 else 0) (by decide)
  exact ⟨positions, acyclic, ((inOrder_canonical entries positions).2.2 acyclic).1, by decide +kernel⟩

end JsonSchema.KeywordEntry
