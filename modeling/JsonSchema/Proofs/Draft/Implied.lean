import JsonSchema.Proofs.Draft.Forms

/-! # What forms imply

Whether every value of a form satisfies an assertion can be computed for the assertions of the draft's own documents
(`Form.implies`), and what is computed is right (`Form.holds_of_implies`). The assertion that takes the most is the
pattern of anchors, which the compiler states as a predicate of characters.
-/

namespace JsonSchema

open Regex

/-! ## Patterns of anchors -/

namespace Regex.Expression

theorem mem_distinct {e : Expression} {expressions : List Expression} :
    e ∈ distinct expressions ↔ e ∈ expressions := by
  unfold distinct
  split
  · exact List.mem_eraseDups
  · rw [Std.HashSet.mem_toList, Std.HashSet.mem_ofList, List.contains_iff_mem]

/-- How what is left of an expression takes up a text from a position on. -/
inductive TakesUp : Expression → Option Char → List Char → Prop
  | done {left : Expression} {before : Option Char} {text : List Char}
      (empty : left.matchesEmpty ⟨before, text.head?⟩ = true) : TakesUp left before text
  | next {left rest : Expression} {before : Option Char} {c : Char} {text : List Char}
      (derivative : rest ∈ left.derivatives ⟨before, some c⟩ c) (takes : TakesUp rest (some c) text) :
      TakesUp left before (c :: text)

/-- The search finds what some part of the expressions under way takes up. -/
theorem search_of_takesUp {e left : Expression} {begun : List Expression} {before : Option Char} {text : List Char}
    (takes : left.TakesUp before text) (member : left ∈ e :: begun) : e.search begun before text = true := by
  induction takes generalizing begun with
  | @done left before text empty =>
    have found : (e :: begun).any (·.matchesEmpty ⟨before, text.head?⟩) = true :=
      List.any_eq_true.mpr ⟨left, member, empty⟩
    cases text with
    | nil => exact found
    | cons c rest => exact Bool.or_eq_true_iff.mpr (.inl found)
  | @next left rest before c text derivative _ ih =>
    refine Bool.or_eq_true_iff.mpr (.inr (ih (List.mem_cons_of_mem _ ?_)))
    exact mem_distinct.mpr (List.mem_flatMap.mpr ⟨left, member, derivative⟩)

/-- Any number of characters of a set up to the end of the text. -/
def runOf (others : CharSet) : Expression :=
  .concat (.repeated (.set others) 0 none) (.assertion .textEnd)

theorem takesUp_runOf {others : CharSet} {text : List Char} (before : Option Char)
    (members : ∀ c ∈ text, others.contains c.toNat = true) : (runOf others).TakesUp before text := by
  induction text generalizing before with
  | nil => exact .done rfl
  | cons c rest ih =>
    obtain ⟨first, members⟩ := List.forall_mem_cons.mp members
    refine .next ?_ (ih (some c) members)
    simp [runOf, derivatives, first, andThen, matchesEmpty]

/-- Whether the sets for the first and for the other characters of an anchor's name hold all that may stand there. -/
def CoverAnchorNames (first others : CharSet) : Prop :=
  ∀ n < 128, let c := Char.ofNat n
    (c.isAlpha || c == '_' → first.contains n = true) ∧
      (c.isAlphanum || c == '-' || c == '.' || c == '_' → others.contains n = true)

instance (first others : CharSet) : Decidable (CoverAnchorNames first others) :=
  inferInstanceAs (Decidable (∀ n < 128, _))

/-- Whether an expression is seen to match every name of an anchor from the start to the end. -/
def matchesAnchorNames : Expression → Bool
  | .concat (.assertion .textStart) (.concat (.set first)
      (.concat (.repeated (.set others) 0 none) (.assertion .textEnd))) => CoverAnchorNames first others
  | _ => false

theorem lt_of_isAlphanum {c : Char} (isPart : c.isAlphanum || c == '-' || c == '.' || c == '_') : c.toNat < 128 := by
  simp only [Bool.or_eq_true, beq_iff_eq] at isPart
  rcases isPart with ((isPart | rfl) | rfl) | rfl
  · have below (last : Char) (small : last.toNat < 128) (upTo : c.val ≤ last.val) : c.toNat < 128 :=
      Nat.lt_of_le_of_lt (UInt32.le_iff_toNat_le.mp upTo) small
    rcases Bool.or_eq_true_iff.mp isPart with letter | digit
    · rcases Bool.or_eq_true_iff.mp letter with upper | lower
      · exact below 'Z' (by decide) (of_decide_eq_true upper).2
      · exact below 'z' (by decide) (of_decide_eq_true (Bool.and_eq_true_iff.mp lower).2)
    · exact below '9' (by decide) (of_decide_eq_true (Bool.and_eq_true_iff.mp digit).2)
  all_goals decide

theorem isMatch_of_matchesAnchorNames {e : Expression} (sees : e.matchesAnchorNames = true) {text : String}
    (isName : isAnchorName text = true) : e.isMatch text = true := by
  unfold matchesAnchorNames at sees
  split at sees
  · next first others =>
    have cover := of_decide_eq_true sees
    unfold isAnchorName at isName
    unfold isMatch
    split at isName
    · cases isName
    · next c rest chars =>
      obtain ⟨begins, goesOn⟩ := Bool.and_eq_true_iff.mp isName
      have start : c.isAlphanum || c == '-' || c == '.' || c == '_' := by
        rw [Char.isAlphanum]
        grind
      have begun : runOf others ∈
          (Expression.concat (.assertion .textStart) (.concat (.set first) (runOf others))).derivatives ⟨none, some c⟩ c := by
        have known := (cover c.toNat (lt_of_isAlphanum start)).1
        rw [Char.ofNat_toNat] at known
        simp [derivatives, matchesEmpty, Assertion.holds, known begins, andThen]
      rw [chars]
      refine search_of_takesUp (.next begun (takesUp_runOf _ fun d member => ?_)) List.mem_cons_self
      have isPart := List.all_eq_true.mp goesOn d member
      have known := (cover d.toNat (lt_of_isAlphanum isPart)).2
      rw [Char.ofNat_toNat] at known
      exact known isPart
  · cases sees

end Regex.Expression

/-! ## Numbers -/

namespace Binary64

theorem units_zero : zero.units = 0 := by decide

theorem units_ofInt_zero : (ofInt 0).units = 0 := by decide +kernel

theorem negative_of_roundMagnitude? {negative : Bool} {num den : Nat} {x : Binary64}
    (rounds : roundMagnitude? negative num den = some x) : x.negative = negative := by
  simp only [roundMagnitude?, Option.dite_none_right_eq_some, Option.some.injEq] at rounds
  obtain ⟨-, rfl⟩ := rounds
  rfl

/-- The double nearest to a negative integer is not above zero. -/
theorem units_ofInt_nonpos {n : Int} (below : n < 0) : (ofInt n).units ≤ 0 := by
  rw [ofInt]
  cases rounds : ofInt? n with
  | none => exact units_zero.le
  | some x =>
    have negative : x.negative = true := (negative_of_roundMagnitude? rounds).trans (decide_eq_true below)
    rw [Option.getD_some, units, if_pos negative]
    omega

end Binary64

namespace Number

theorem isIntegral_of_count? {n : Number} {count : Nat} (counts : n.count? = some count) : n.isIntegral = true := by
  cases n with
  | integer n => rfl
  | double x =>
    rw [count?] at counts
    split at counts
    · next count => exact (Bool.and_eq_true_iff.mp (Bool.and_eq_true_iff.mp count).1).1
    · cases counts

/-- A count is not less than zero. -/
theorem compare_ne_lt_of_count? {n : Number} {count : Nat} (counts : n.count? = some count) :
    n.compare (.integer 0) ≠ .lt := by
  cases n with
  | integer n =>
    rw [count?] at counts
    split at counts
    · next range => exact fun less => absurd (Int.compare_eq_lt.mp less) (not_lt.mpr range.1)
    · cases counts
  | double x =>
    rw [count?] at counts
    split at counts
    · next count =>
      have sign := (Bool.and_eq_true_iff.mp (Bool.and_eq_true_iff.mp count).1).2
      have above : 0 ≤ x.units := by
        rcases Bool.or_eq_true_iff.mp sign with positive | zero
        · rw [Bool.not_eq_true'] at positive
          simp [Binary64.units, positive]
        · simp [Binary64.units, Binary64.magnitude, eq_of_beq zero]
      intro less
      have below : x.units < (Binary64.ofInt 0).units := Int.compare_eq_lt.mp less
      rw [Binary64.units_ofInt_zero] at below
      omega
    · cases counts

/-- A number whose double is above zero is above the integer zero. -/
theorem compare_eq_gt_of_toDouble {n : Number} (above : n.toDouble.compare .zero = .gt) :
    n.compare (.integer 0) = .gt := by
  have positive : 0 < n.toDouble.units := Binary64.units_zero ▸ Int.compare_eq_gt.mp above
  cases n with
  | integer n =>
    refine Int.compare_eq_gt.mpr (lt_of_not_ge fun atMost => ?_)
    rcases lt_or_eq_of_le atMost with below | rfl
    · exact absurd (Binary64.units_ofInt_nonpos below) (not_le.mpr positive)
    · exact absurd Binary64.units_ofInt_zero positive.ne'
  | double x =>
    refine Int.compare_eq_gt.mpr ?_
    rw [toDouble, Binary64.units_ofInt_zero]
    exact positive

end Number

/-! ## Assertions -/

namespace Form

/-- The type of the values of a form. -/
def type? : Form → Option InstanceType
  | .text | .anchor | .typeName => some .string
  | .flag => some .boolean
  | .number | .divisor => some .number
  | .count => some .integer
  | .list _ _ _ => some .array
  | .object _ | .keywords => some .object
  | _ => none

/-- Whether the values of a form are arrays that hold something. -/
def isOccupied : Form → Bool
  | .list occupied _ _ => occupied
  | _ => false

/-- Whether the values of a form are arrays that hold nothing twice. -/
def isDistinct : Form → Bool
  | .list _ distinct _ => distinct
  | _ => false

/-- Whether a form is seen to imply an assertion. -/
def implies (form : Form) : Assertion → Bool
  | .type types => form.type?.any types.contains
  | .enum values => form = .typeName && InstanceType.all.all fun type => values.contains (.string type.name)
  | .limit .minimum bound => form = .count && bound = .integer 0
  | .limit .exclusiveMinimum bound => form = .divisor && bound = .integer 0
  | .count (.min .items) least => form.isOccupied && least ≤ 1
  | .pattern pattern => form = .anchor && pattern.expression.matchesAnchorNames
  | .uniqueItems _ => form.isDistinct
  | _ => false

variable {isSchema : Json → Prop} {form : Form} {value : Json}

theorem exists_elements_of_isOccupied (occupied : form.isOccupied = true) (fits : form.Describes isSchema value) :
    ∃ elements, value = .array elements ∧ elements ≠ [] := by
  cases form with
  | list =>
    obtain ⟨elements, rfl, some, -⟩ := fits
    exact ⟨elements, rfl, some occupied⟩
  | _ => cases occupied

theorem exists_elements_of_isDistinct (distinct : form.isDistinct = true) (fits : form.Describes isSchema value) :
    ∃ elements, value = .array elements ∧ Json.allDistinct elements = true := by
  cases form with
  | list =>
    obtain ⟨elements, rfl, -, once, -⟩ := fits
    exact ⟨elements, rfl, once distinct⟩
  | _ => cases distinct

theorem admits_of_type? {type : InstanceType} (typed : form.type? = some type)
    (fits : form.Describes isSchema value) : type.admits value = true := by
  cases form <;> simp only [type?, reduceCtorEq, Option.some.injEq] at typed <;> subst typed
  case keywords =>
    obtain ⟨members, rfl, -⟩ := fits
    rfl
  case count =>
    obtain ⟨n, count, rfl, counts⟩ := fits
    exact Number.isIntegral_of_count? counts
  all_goals
    obtain ⟨_, fits⟩ := fits
    first
    | subst fits
      rfl
    | obtain ⟨rfl, -⟩ := fits
      rfl

/-- What a form is seen to imply holds of its values. -/
theorem holds_of_implies {assertion : Assertion} (implied : form.implies assertion = true)
    (fits : form.Describes isSchema value) (matched : Option Nat) : assertion.holds matched value = true := by
  cases assertion with
  | type types =>
    obtain ⟨type, typed, listed⟩ := (Option.any_eq_true _ _).mp implied
    exact List.any_eq_true.mpr ⟨type, List.contains_iff_mem.mp listed, admits_of_type? typed fits⟩
  | enum values =>
    obtain ⟨isName, listed⟩ := Bool.and_eq_true_iff.mp implied
    obtain rfl := of_decide_eq_true isName
    obtain ⟨type, rfl⟩ := fits
    have inside := List.all_eq_true.mp listed type (by cases type <;> decide)
    exact List.any_eq_true.mpr ⟨_, List.contains_iff_mem.mp inside, beq_self_eq_true _⟩
  | limit kind bound =>
    cases kind with
    | minimum =>
      obtain ⟨isCount, zero⟩ := Bool.and_eq_true_iff.mp implied
      obtain rfl := of_decide_eq_true isCount
      obtain rfl := of_decide_eq_true zero
      obtain ⟨n, count, rfl, counts⟩ := fits
      exact bne_iff_ne.mpr (Number.compare_ne_lt_of_count? counts)
    | exclusiveMinimum =>
      obtain ⟨isDivisor, zero⟩ := Bool.and_eq_true_iff.mp implied
      obtain rfl := of_decide_eq_true isDivisor
      obtain rfl := of_decide_eq_true zero
      obtain ⟨n, rfl, above⟩ := fits
      exact beq_iff_eq.mpr (Number.compare_eq_gt_of_toDouble above)
    | _ => cases implied
  | count kind least =>
    cases kind with
    | max measure => cases implied
    | min measure =>
      cases measure with
      | items =>
        obtain ⟨occupied, atMost⟩ := Bool.and_eq_true_iff.mp implied
        obtain ⟨elements, rfl, some⟩ := exists_elements_of_isOccupied occupied fits
        exact decide_eq_true ((of_decide_eq_true atMost).trans (List.length_pos_iff.mpr some))
      | _ => cases implied
  | pattern pattern =>
    obtain ⟨isAnchor, sees⟩ := Bool.and_eq_true_iff.mp implied
    obtain rfl := of_decide_eq_true isAnchor
    obtain ⟨name, rfl, isName⟩ := fits
    exact Regex.Expression.isMatch_of_matchesAnchorNames sees isName
  | uniqueItems demanded =>
    obtain ⟨elements, rfl, once⟩ := exists_elements_of_isDistinct implied fits
    exact Bool.or_eq_true_iff.mpr (.inr once)
  | _ => cases implied

end Form

end JsonSchema
