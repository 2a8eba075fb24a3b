import JsonSchema.Keyword.Assertion
import JsonSchema.Proofs.Compile.Locations
import JsonSchema.Proofs.Json.Reading
import Mathlib.Algebra.Group.Int.Defs
import Mathlib.Algebra.Group.Nat.Defs

/-! # Equality of values

Among values that name every member once, equality is reflexive and symmetric. Hence items are distinct or not in
whatever order they stand (`Json.allDistinct_order_free`). It is not transitive: two numbers are equal just if the
doubles nearest to them are equal and they are not different exact integers (`Number.compare_eq_eq_iff`), so a double
may equal two exact integers that differ. Nothing else breaks a chain of equal values (`Json.equivalent_trans_iff`).
-/

namespace JsonSchema

/-! ## Exact doubles -/

namespace Binary64

theorem unit_pos : 0 < unit := by decide +kernel

theorem roundHalfEven_mul (num : Nat) {den : Nat} (positive : 0 < den) : roundHalfEven (num * den) den = num := by
  simp [roundHalfEven, Nat.mul_div_cancel _ positive, positive]

/-- The exponent of a double can be told from its magnitude. -/
theorem log2_magnitude (x : Binary64) : x.magnitude.log2 - 52 = x.scale := by
  rcases x with ⟨negative, significand, scale, bound, normal, -⟩
  simp only [magnitude, Nat.pow_eq] at *
  rcases normal with normal | rfl
  · have positive : 0 < 2 ^ scale := Nat.two_pow_pos scale
    have leading : 2 ^ (52 + scale) ≤ significand * 2 ^ scale := by
      rw [Nat.pow_add]
      exact Nat.mul_le_mul_right _ normal
    have bounded : significand * 2 ^ scale < 2 ^ (53 + scale) := by
      rw [Nat.pow_add]
      exact Nat.mul_lt_mul_of_pos_right bound positive
    have exponent : (significand * 2 ^ scale).log2 = 52 + scale :=
      (Nat.log2_eq_iff (Nat.ne_of_gt (Nat.lt_of_lt_of_le (Nat.two_pow_pos _) leading))).mpr
        ⟨leading, by rwa [Nat.add_right_comm]⟩
    omega
  · rw [Nat.pow_zero, Nat.mul_one]
    rcases Nat.eq_zero_or_pos significand with rfl | positive
    · decide
    · have := (Nat.log2_lt (Nat.ne_of_gt positive)).mpr bound
      omega

/-- A double is the nearest one to its own value. -/
theorem roundMagnitude?_magnitude (x : Binary64) : roundMagnitude? x.negative x.magnitude 1 = some x := by
  have rounded : roundHalfEven x.magnitude (Nat.pow 2 x.scale) = x.significand :=
    roundHalfEven_mul _ (Nat.two_pow_pos _)
  have small : x.significand ≠ Nat.pow 2 53 := Nat.ne_of_lt x.significand_lt
  simp only [roundMagnitude?, Nat.div_one, Nat.one_mul, log2_magnitude, rounded, if_neg small]
  rw [dif_pos ⟨x.significand_lt, x.normal, x.scale_le⟩]

/-- An integer of at most 53 bits is a double. -/
theorem exists_magnitude_eq {n : Nat} (small : n < 2 ^ 53) (negative : Bool) :
    ∃ x : Binary64, x.magnitude = n * unit ∧ x.negative = negative := by
  rcases Nat.eq_zero_or_pos n with rfl | positive
  · exact ⟨{ zero with negative }, by rw [magnitude, zero, Nat.zero_mul, Nat.zero_mul], rfl⟩
  · have bits : n.log2 ≤ 52 := Nat.lt_succ_iff.mp ((Nat.log2_lt (Nat.ne_of_gt positive)).mpr small)
    have exponent : 1074 = 52 - n.log2 + (n.log2 + 1022) := by omega
    have scaled : n.log2 + 1022 ≤ 2045 := by omega
    obtain ⟨leading, bounded⟩ := (Nat.log2_eq_iff (Nat.ne_of_gt positive)).mp rfl
    have split : 2 ^ 52 = 2 ^ n.log2 * 2 ^ (52 - n.log2) := by rw [← Nat.pow_add, Nat.add_sub_cancel' bits]
    have least : Nat.pow 2 52 ≤ n * 2 ^ (52 - n.log2) := by
      rw [Nat.pow_eq, split]
      exact Nat.mul_le_mul_right _ leading
    have most : n * 2 ^ (52 - n.log2) < Nat.pow 2 53 := by
      rw [Nat.pow_eq, Nat.pow_succ, split, Nat.mul_right_comm, ← Nat.pow_succ]
      exact Nat.mul_lt_mul_of_pos_right bounded (Nat.two_pow_pos _)
    refine ⟨⟨negative, n * 2 ^ (52 - n.log2), n.log2 + 1022, most, .inl least, scaled⟩, ?_, rfl⟩
    have counted : unit = 2 ^ (52 - n.log2 + (n.log2 + 1022)) := by
      unfold unit
      rw [exponent]
      exact Nat.pow_eq
    rw [counted, Nat.pow_add, ← Nat.mul_assoc]
    rfl

/-- An integer of at most 53 bits is kept by its double. -/
theorem units_ofInt {n : Int} (small : n.natAbs < 2 ^ 53) : (ofInt n).units = n * unit := by
  obtain ⟨x, magnitude, negative⟩ := exists_magnitude_eq small (decide (n < 0))
  rw [ofInt, ofInt?, ← negative, ← magnitude, roundMagnitude?_magnitude, Option.getD_some, units, magnitude, negative,
    Int.natCast_mul]
  by_cases below : n < 0
  · rw [if_pos (decide_eq_true below), ← Int.neg_mul, Int.ofNat_natAbs_of_nonpos (Int.le_of_lt below), Int.neg_neg]
  · rw [if_neg (by simpa using below), Int.natAbs_of_nonneg (Int.not_lt.mp below)]

end Binary64

/-! ## Equality of numbers -/

namespace Number

variable {a b c : Number}

/-- Numbers are equal just if the nearest doubles are, unless they are different exact integers. -/
theorem compare_eq_eq_iff : a.compare b = .eq ↔
    a.toDouble.units = b.toDouble.units ∧ ∀ m n, a = .integer m → b = .integer n → m = n := by
  cases a with
  | integer m =>
    cases b with
    | integer n =>
      simp only [compare, Std.compare_eq_iff_eq, integer.injEq]
      exact ⟨fun same => ⟨by rw [same], fun _ _ left right => left ▸ right ▸ same⟩, fun both => both.2 m n rfl rfl⟩
    | double y => simp [compare, toDouble, Binary64.compare_eq_eq_iff]
  | double x => simp [compare, toDouble, Binary64.compare_eq_eq_iff]

theorem compare_self (a : Number) : a.compare a = .eq :=
  compare_eq_eq_iff.mpr ⟨rfl, fun _ _ left right => integer.inj (left.symm.trans right)⟩

theorem compare_eq_eq_comm : a.compare b = .eq ↔ b.compare a = .eq := by
  rw [compare_eq_eq_iff, compare_eq_eq_iff, eq_comm]
  exact and_congr_right fun _ =>
    ⟨fun same m n left right => (same n m right left).symm, fun same m n left right => (same n m right left).symm⟩

theorem compare_trans_iff (first : a.compare b = .eq) (second : b.compare c = .eq) :
    a.compare c = .eq ↔ ∀ m n, a = .integer m → c = .integer n → m = n := by
  rw [compare_eq_eq_iff] at first second ⊢
  exact and_iff_right (first.1.trans second.1)

end Number

namespace Json

/-- What holds of scalars, and of a container if it holds of all that stands directly in it, holds of every value. -/
@[elab_as_elim]
theorem inside_induction {motive : Json → Prop} (null : motive .null) (bool : ∀ value, motive (.bool value))
    (number : ∀ value, motive (.number value)) (string : ∀ text, motive (.string text))
    (array : ∀ items, (∀ item ∈ items, motive item) → motive (.array items))
    (object : ∀ members, (∀ member ∈ members, motive member.2) → motive (.object members)) :
    ∀ value, motive value
  | .null => null
  | .bool value => bool value
  | .number value => number value
  | .string text => string text
  | .array items => array items fun item _ => inside_induction null bool number string array object item
  | .object members => object members fun member inside =>
    have : sizeOf member.2 < sizeOf member := by cases member; simp +arith
    have := List.sizeOf_lt_of_mem inside
    inside_induction null bool number string array object member.2

/-! ## Equality of containers -/

theorem equivalentItems_iff {as bs : List Json} : equivalentItems as bs = true ↔
    as.length = bs.length ∧ ∀ (index : Nat) a b, as[index]? = some a → bs[index]? = some b → equivalent a b = true := by
  induction as generalizing bs with
  | nil => cases bs <;> simp [equivalentItems]
  | cons a as ih =>
    cases bs with
    | nil => simp [equivalentItems]
    | cons b bs =>
      rw [equivalentItems, Bool.and_eq_true, ih, and_left_comm, List.length_cons, List.length_cons, Nat.add_left_inj]
      refine and_congr_right fun _ => ?_
      conv_rhs => rw [← Nat.and_forall_add_one]
      simp

theorem equivalentMembers_iff {as bs : List (String × Json)} : equivalentMembers as bs = true ↔
    ∀ member ∈ as, ∃ b, assoc? member.1 bs = some b ∧ equivalent member.2 b = true := by
  induction as with
  | nil => simp [equivalentMembers]
  | cons first as ih =>
    obtain ⟨key, a⟩ := first
    rw [equivalentMembers, Bool.and_eq_true, ih, List.forall_mem_cons]
    refine and_congr_left fun _ => ?_
    cases assoc? key bs <;> simp

theorem equivalent_array_iff {as bs : List Json} : equivalent (.array as) (.array bs) = true ↔
    as.length = bs.length ∧ ∀ (index : Nat) a b, as[index]? = some a → bs[index]? = some b → equivalent a b = true := by
  rw [equivalent, equivalentItems_iff]

theorem equivalent_object_iff {as bs : List (String × Json)} :
    equivalent (.object as) (.object bs) = true ↔ as.length = bs.length ∧
      ∀ member ∈ as, ∃ b, assoc? member.1 bs = some b ∧ equivalent member.2 b = true := by
  rw [equivalent, Bool.and_eq_true, beq_iff_eq, equivalentMembers_iff]

theorem values_subset_array {items : List Json} {item : Json} (member : item ∈ items) :
    item.values ⊆ (Json.array items).values :=
  List.Subset.trans (values_subset_valuesOfItems member) (List.subset_cons_self _ _)

/-- A value that names every member once equals itself. -/
theorem equivalent_self {a : Json} (names : a.NamesOnce) : equivalent a a = true := by
  induction a using inside_induction with
  | null => rfl
  | bool value => simp [equivalent]
  | string text => simp [equivalent]
  | number value => rw [equivalent, beq_iff_eq, Number.compare_self]
  | array items ih =>
    refine equivalent_array_iff.mpr ⟨rfl, fun index item other here there => ?_⟩
    obtain rfl := Option.some.inj (here.symm.trans there)
    have inside := List.mem_of_getElem? here
    exact ih item inside (names.mono (values_subset_array inside))
  | object members ih =>
    refine equivalent_object_iff.mpr ⟨rfl, fun member inside => ⟨member.2, assoc?_of_mem names.nodup inside, ?_⟩⟩
    exact ih member inside (names.mono (values_subset_of_mem inside))

/-! ## Order of arguments -/

/-- Two objects of as many members have the same names if all names of the first are names of the second. -/
theorem perm_names_of_subset {as bs : List (String × Json)} (distinct : (as.map (·.1)).Nodup)
    (length_eq : as.length = bs.length) (subset : as.map (·.1) ⊆ bs.map (·.1)) :
    (as.map (·.1)).Perm (bs.map (·.1)) :=
  (List.subperm_of_subset distinct subset).perm_of_length_le (by simp [length_eq])

theorem equivalent_symm {a b : Json} (namesA : a.NamesOnce) (namesB : b.NamesOnce) (same : equivalent a b = true) :
    equivalent b a = true := by
  induction a using inside_induction generalizing b with
  | null => cases b <;> simp_all [equivalent]
  | bool value => cases b <;> simp_all [equivalent]
  | string text => cases b <;> simp_all [equivalent]
  | number value =>
    cases b with
    | number other =>
      rw [equivalent, beq_iff_eq] at same ⊢
      exact Number.compare_eq_eq_comm.mp same
    | _ => simp [equivalent] at same
  | array items ih =>
    cases b with
    | array others =>
      rw [equivalent_array_iff] at same ⊢
      refine ⟨same.1.symm, fun index other item there here => ?_⟩
      have inside := List.mem_of_getElem? here
      have insideToo := List.mem_of_getElem? there
      exact ih item inside (namesA.mono (values_subset_array inside)) (namesB.mono (values_subset_array insideToo))
        (same.2 index _ _ here there)
    | _ => simp [equivalent] at same
  | object members ih =>
    cases b with
    | object others =>
      rw [equivalent_object_iff] at same ⊢
      obtain ⟨length_eq, equal⟩ := same
      refine ⟨length_eq.symm, fun other inside => ?_⟩
      -- All names of the first object are names of the second, so those of the second are names of the first.
      have subset : members.map (·.1) ⊆ others.map (·.1) := by
        intro name named
        obtain ⟨member, inside, rfl⟩ := List.mem_map.mp named
        obtain ⟨found, here, -⟩ := equal member inside
        exact isSome_assoc?_iff.mp (Option.isSome_iff_exists.mpr ⟨found, here⟩)
      have named := (perm_names_of_subset namesA.nodup length_eq subset).mem_iff.mpr
        (List.mem_map_of_mem (f := (·.1)) inside)
      obtain ⟨value, here⟩ := Option.isSome_iff_exists.mp (isSome_assoc?_iff.mpr named)
      refine ⟨value, here, ?_⟩
      have member := mem_of_assoc? here
      obtain ⟨found, there, equal⟩ := equal _ member
      rw [assoc?_of_mem namesB.nodup inside] at there
      obtain rfl := Option.some.inj there
      exact ih _ member (namesA.mono (values_subset_of_mem member)) (namesB.mono (values_subset_of_mem inside)) equal
    | _ => simp [equivalent] at same

theorem equivalent_comm {a b : Json} (namesA : a.NamesOnce) (namesB : b.NamesOnce) :
    equivalent a b = equivalent b a :=
  Bool.eq_iff_iff.mpr ⟨equivalent_symm namesA namesB, equivalent_symm namesB namesA⟩

/-! ## Items in any order -/

/-- Items are distinct just if none equals another one, whichever of the two is compared with the other. -/
theorem allDistinct_iff_pairwise {items : List Json} (names : ∀ item ∈ items, item.NamesOnce) :
    allDistinct items = true ↔
      items.Pairwise fun item other => equivalent item other = false ∧ equivalent other item = false := by
  induction items with
  | nil => simp [allDistinct]
  | cons item rest ih =>
    rw [allDistinct, Bool.and_eq_true, List.pairwise_cons, ih fun other member => names other (.tail _ member),
      List.all_eq_true]
    refine and_congr_left fun _ => forall₂_congr fun other member => ?_
    rw [Bool.not_eq_true', equivalent_comm (names other (.tail _ member)) (names item (.head _)), and_self]

/-- Whether items are distinct does not depend on their order. -/
theorem allDistinct_eq_of_perm {items others : List Json} (names : ∀ item ∈ items, item.NamesOnce)
    (perm : others.Perm items) : allDistinct others = allDistinct items := by
  rw [Bool.eq_iff_iff, allDistinct_iff_pairwise names,
    allDistinct_iff_pairwise fun item member => names item (perm.subset member)]
  exact perm.pairwise_iff fun both => both.symm

/-- Items are distinct just if no two of them at different positions are equal in either order of comparison, and the
keyword that demands it says the same of them in every order. The values name every member once, as all values do that
are read (`namesOnce_read`). -/
theorem allDistinct_order_free (items : List Json) (names : (Json.array items).NamesOnce) :
    (allDistinct items = true ↔ ∀ (first second : Nat) a b, items[first]? = some a → items[second]? = some b →
        first ≠ second → equivalent a b = false) ∧
      ∀ (others : List Json), others.Perm items → ∀ demanded matched,
        (Assertion.uniqueItems demanded).check matched (.array others) =
          (Assertion.uniqueItems demanded).check matched (.array items) := by
  have named : ∀ item ∈ items, item.NamesOnce := fun item member => names.mono (values_subset_array member)
  refine ⟨?_, fun others perm demanded matched => ?_⟩
  · rw [allDistinct_iff_pairwise named, List.pairwise_iff_getElem]
    constructor
    · intro apart first second a b here there different
      obtain ⟨inside, rfl⟩ := List.getElem?_eq_some_iff.mp here
      obtain ⟨insideToo, rfl⟩ := List.getElem?_eq_some_iff.mp there
      rcases Nat.lt_or_gt_of_ne different with before | behind
      · exact (apart first second inside insideToo before).1
      · exact (apart second first insideToo inside behind).2
    · intro apart first second inside insideToo before
      have here := List.getElem?_eq_getElem inside
      have there := List.getElem?_eq_getElem insideToo
      exact ⟨apart first second _ _ here there (Nat.ne_of_lt before),
        apart second first _ _ there here (Nat.ne_of_gt before)⟩
  · rw [Assertion.check, Assertion.check, Assertion.holds, Assertion.holds, allDistinct_eq_of_perm named perm]
    rfl

/-- Of three items that are read from a text the last one equals both others, which differ. -/
theorem allDistinct_order_free_read :
    let text := "[\x7b\"n\": 9007199254740993\x7d, \x7b\"n\": 9007199254740992\x7d, \x7b\"n\": 9007199254740992.0\x7d]"
    ∃ items, (read text).toOption = some (.array items) ∧ (Json.array items).NamesOnce ∧
      allDistinct (items.take 2) = true ∧ ∀ (others : List Json), others.Perm items →
        (Assertion.uniqueItems true).check none (.array others) = .fail "Must contain unique items" := by
  let items : List Json := [.object [("n", .ofInt (2 ^ 53 + 1))], .object [("n", .ofInt (2 ^ 53))],
    .object [("n", .number (.double (.ofInt (2 ^ 53))))]]
  suffices made : (read _).toOption = some (.array items) by
    have names := namesOnce_read made
    have repeated : allDistinct items = false := by decide +kernel
    refine ⟨items, made, names, by decide +kernel, fun others perm => ?_⟩
    rw [(allDistinct_order_free items names).2 others perm true none, Assertion.check, Assertion.holds, repeated]
    rfl
  decide +kernel

/-! ## Chains of equal values -/

/-- One step into a value leads into an equal one too, to an equal value. -/
theorem exists_step?_of_equivalent {a b x : Json} {token : String} (same : equivalent a b = true)
    (leads : Pointer.step? token a = some x) :
    ∃ y, Pointer.step? token b = some y ∧ equivalent x y = true := by
  cases a with
  | array items =>
    cases b with
    | array others =>
      obtain ⟨length_eq, equal⟩ := equivalent_array_iff.mp same
      obtain ⟨index, numeral, found⟩ := Option.bind_eq_some_iff.mp leads
      obtain ⟨inside, -⟩ := List.getElem?_eq_some_iff.mp found
      have there := List.getElem?_eq_getElem (length_eq ▸ inside : index < others.length)
      exact ⟨others[index], by rw [Pointer.step?, numeral, Option.bind_some, there], equal index _ _ found there⟩
    | _ => simp [equivalent] at same
  | object members =>
    cases b with
    | object others => exact (equivalent_object_iff.mp same).2 _ (mem_of_assoc? leads)
    | _ => simp [equivalent] at same
  | _ => cases leads

/-- What a pointer leads to in a value equals what it leads to in an equal one. -/
theorem exists_follow?_of_equivalent {tokens : List String} {a b x : Json} (same : equivalent a b = true)
    (leads : Pointer.follow? tokens a = some x) :
    ∃ y, Pointer.follow? tokens b = some y ∧ equivalent x y = true := by
  induction tokens generalizing a b with
  | nil => exact ⟨b, rfl, Option.some.inj leads ▸ same⟩
  | cons token tokens ih =>
    obtain ⟨inner, step, leads⟩ := Option.bind_eq_some_iff.mp leads
    obtain ⟨other, stepOther, same⟩ := exists_step?_of_equivalent same step
    obtain ⟨y, found, equal⟩ := ih same leads
    exact ⟨y, by rw [Pointer.follow?, stepOther, Option.bind_some, found], equal⟩

/-- Whether no place holds different exact integers in two values. -/
def IntegersMatch (a c : Json) : Prop :=
  ∀ (place : Pointer) (m n : Int), place.resolve? a = some (.number (.integer m)) →
    place.resolve? c = some (.number (.integer n)) → m = n

/-- Whether the exact integers in a value have at most 53 bits. -/
def IntegersAreDoubles (value : Json) : Prop :=
  ∀ (place : Pointer) (n : Int), place.resolve? value = some (.number (.integer n)) → n.natAbs < 2 ^ 53

theorem IntegersMatch.step {a c x z : Json} {token : String} (integers : IntegersMatch a c)
    (first : Pointer.step? token a = some x) (last : Pointer.step? token c = some z) : IntegersMatch x z := by
  intro place m n here there
  refine integers ⟨token :: place.tokens⟩ m n ?_ ?_
  · rw [Pointer.resolve?, Pointer.follow?, first]
    exact here
  · rw [Pointer.resolve?, Pointer.follow?, last]
    exact there

theorem integersMatch_of_equivalent {a c : Json} (same : equivalent a c = true) : IntegersMatch a c := by
  intro place m n here there
  obtain ⟨found, leads, equal⟩ := exists_follow?_of_equivalent same here
  obtain rfl := Option.some.inj (leads.symm.trans there)
  rw [equivalent, beq_iff_eq] at equal
  exact (Number.compare_eq_eq_iff.mp equal).2 m n rfl rfl

/-- Integers of at most 53 bits that equal one value are the same. -/
theorem integersMatch_of_chain {a b c : Json} (first : equivalent a b = true) (second : equivalent b c = true)
    (doublesA : a.IntegersAreDoubles) (doublesC : c.IntegersAreDoubles) : IntegersMatch a c := by
  intro place m n here there
  obtain ⟨y, found, equalFirst⟩ := exists_follow?_of_equivalent first here
  obtain ⟨z, leads, equalSecond⟩ := exists_follow?_of_equivalent second found
  obtain rfl := Option.some.inj (leads.symm.trans there)
  cases y with
  | number between =>
    rw [equivalent, beq_iff_eq, Number.compare_eq_eq_iff] at equalFirst equalSecond
    have units : (Binary64.ofInt m).units = (Binary64.ofInt n).units := equalFirst.1.trans equalSecond.1
    rw [Binary64.units_ofInt (doublesA place m here), Binary64.units_ofInt (doublesC place n there)] at units
    exact Int.eq_of_mul_eq_mul_right (Int.natCast_ne_zero.mpr (Nat.ne_of_gt Binary64.unit_pos)) units
  | _ => simp [equivalent] at equalFirst

/-- A chain of two equal values holds together if no place holds different exact integers at its ends. -/
theorem equivalent_of_integersMatch {a b c : Json} (names : a.NamesOnce) (countable : a.IsCountable)
    (first : equivalent a b = true) (second : equivalent b c = true) (integers : IntegersMatch a c) :
    equivalent a c = true := by
  induction a using inside_induction generalizing b c with
  | null => cases b <;> cases c <;> simp_all [equivalent]
  | bool value => cases b <;> cases c <;> simp_all [equivalent]
  | string text => cases b <;> cases c <;> simp_all [equivalent]
  | number x =>
    cases b with
    | number y =>
      cases c with
      | number z =>
        rw [equivalent, beq_iff_eq] at first second ⊢
        refine (Number.compare_trans_iff first second).mpr fun m n left right => ?_
        subst left right
        exact integers .root m n rfl rfl
      | _ => simp [equivalent] at second
    | _ => simp [equivalent] at first
  | array xs ih =>
    cases b with
    | array ys =>
      cases c with
      | array zs =>
        obtain ⟨lengthFirst, equalFirst⟩ := equivalent_array_iff.mp first
        obtain ⟨lengthSecond, equalSecond⟩ := equivalent_array_iff.mp second
        refine equivalent_array_iff.mpr ⟨lengthFirst.trans lengthSecond, fun index x z here there => ?_⟩
        obtain ⟨inside, -⟩ := List.getElem?_eq_some_iff.mp there
        have between := List.getElem?_eq_getElem (lengthSecond ▸ inside : index < ys.length)
        have fits := countable _ (self_mem_values _)
        have fitsLast : (Json.array zs).FitsWord := by
          rw [FitsWord, ← lengthSecond, ← lengthFirst]
          exact fits
        have member := List.mem_of_getElem? here
        have subset := values_subset_array member
        exact ih x member (names.mono subset) (countable.mono subset) (equalFirst index _ _ here between)
          (equalSecond index _ _ between there)
          (integers.step (Pointer.step?_toString fits here) (Pointer.step?_toString fitsLast there))
      | _ => simp [equivalent] at second
    | _ => simp [equivalent] at first
  | object xs ih =>
    cases b with
    | object ys =>
      cases c with
      | object zs =>
        obtain ⟨lengthFirst, equalFirst⟩ := equivalent_object_iff.mp first
        obtain ⟨lengthSecond, equalSecond⟩ := equivalent_object_iff.mp second
        refine equivalent_object_iff.mpr ⟨lengthFirst.trans lengthSecond, fun member inside => ?_⟩
        obtain ⟨y, found, firstEqual⟩ := equalFirst member inside
        obtain ⟨z, leads, secondEqual⟩ := equalSecond _ (mem_of_assoc? found)
        have subset := values_subset_of_mem inside
        exact ⟨z, leads, ih member inside (names.mono subset) (countable.mono subset) firstEqual secondEqual
          (integers.step (assoc?_of_mem names.nodup inside) leads)⟩
      | _ => simp [equivalent] at second
    | _ => simp [equivalent] at first

/-- Of three values of which the first two and the last two are equal, the first and the last are equal just if no
place holds different exact integers in them. There is no such place if all exact integers have at most 53 bits. -/
theorem equivalent_trans_iff {a b c : Json} (names : a.NamesOnce) (countable : a.IsCountable)
    (first : equivalent a b = true) (second : equivalent b c = true) :
    (equivalent a c = true ↔ IntegersMatch a c) ∧
      (a.IntegersAreDoubles → c.IntegersAreDoubles → equivalent a c = true) := by
  have together := equivalent_of_integersMatch names countable first second
  exact ⟨⟨integersMatch_of_equivalent, together⟩,
    fun doublesA doublesC => together (integersMatch_of_chain first second doublesA doublesC)⟩

/-- The same numbers in other forms, inside of arrays and objects: no place holds different exact integers. -/
theorem equivalent_trans_iff_nested :
    let a : Json := .object [("n", .array [.ofInt 3, .number (.double (.ofInt 4))]), ("s", .string "x")]
    let b : Json := .object [("n", .array [.number (.double (.ofInt 3)), .ofInt 4]), ("s", .string "x")]
    let c : Json := .object [("n", .array [.ofInt 3, .ofInt 4]), ("s", .string "x")]
    a.NamesOnce ∧ a.IsCountable ∧ equivalent a b = true ∧ equivalent b c = true ∧ equivalent a c = true ∧
      IntegersMatch a c := by
  intro a b c
  have names : a.NamesOnce := by decide +kernel
  have countable : a.IsCountable := by decide +kernel
  have first : equivalent a b = true := by decide +kernel
  have second : equivalent b c = true := by decide +kernel
  have last : equivalent a c = true := by decide +kernel
  exact ⟨names, countable, first, second, last, (equivalent_trans_iff names countable first second).1.mp last⟩

/-- The double of `2 ^ 53` equals two exact integers that differ. -/
theorem equivalent_chain_breaks :
    equivalent (.ofInt (2 ^ 53 + 1)) (.number (.double (.ofInt (2 ^ 53)))) = true ∧
      equivalent (.number (.double (.ofInt (2 ^ 53)))) (.ofInt (2 ^ 53)) = true ∧
      equivalent (.ofInt (2 ^ 53 + 1)) (.ofInt (2 ^ 53)) = false := by
  decide +kernel

end Json

end JsonSchema
