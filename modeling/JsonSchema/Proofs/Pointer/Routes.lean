import JsonSchema.Pointer

/-! # Routes through values

The tokens of a pointer take a route through a value: from an object to a member of some name and from an array to the
item at some index. A pointer resolves to the end of its route (`Pointer.resolve?_eq_some_iff`), and since an index has only
one token (`Pointer.index?_eq_some_iff`) different pointers take different routes (`Pointer.eq_of_route?`).
-/

namespace JsonSchema

namespace Json

/-- A step from a value to one that stands directly in it. -/
inductive Step where
  | member (name : String)
  | item (index : Nat)
  deriving DecidableEq

/-- The value behind a step. -/
def at? : Json → Step → Option Json
  | .object members, .member name => assoc? name members
  | .array items, .item index => items[index]?
  | _, _ => none

/-- The value behind steps. -/
def walk? : List Step → Json → Option Json
  | [], value => some value
  | step :: rest, value => (value.at? step).bind (walk? rest)

end Json

namespace Pointer

/-! ## Indices and their tokens -/

/-- A digit is the numeral of its value. -/
theorem toDigits_of_isDigit {c : Char} (digit : c.isDigit = true) :
    c.toNat - '0'.toNat < 10 ∧ Nat.toDigits 10 (c.toNat - '0'.toNat) = [c] := by
  have zero : '0'.toNat = 48 := rfl
  have nine : '9'.toNat = 57 := rfl
  obtain ⟨least, greatest⟩ := Char.isDigit_iff_toNat.mp digit
  have small : c.toNat - '0'.toNat < 10 := by omega
  refine ⟨small, ?_⟩
  rw [Nat.toDigits_of_lt_base small, List.singleton_inj, ← Char.toNat_inj, Nat.toNat_digitChar_of_lt_ten small]
  omega

/-- Further digits extend the numeral of a number. -/
theorem toDigits_ofDigitChars {digits : List Char} (digital : ∀ c ∈ digits, c.isDigit = true) {n : Nat} (pos : 0 < n) :
    Nat.toDigits 10 (Nat.ofDigitChars 10 digits n) = Nat.toDigits 10 n ++ digits := by
  induction digits generalizing n with
  | nil => rw [Nat.ofDigitChars_nil, List.append_nil]
  | cons c digits ih =>
    obtain ⟨small, own⟩ := toDigits_of_isDigit (digital c List.mem_cons_self)
    rw [Nat.ofDigitChars_cons, ih (fun d member => digital d (List.mem_cons_of_mem _ member)) (by omega),
      ← Nat.toDigits_append_toDigits (by decide) pos small, own, List.append_assoc, List.singleton_append]

theorem isDigit_of_decimalValue? {digits : List Char} {n : Nat} (value : decimalValue? digits = some n) :
    ∀ c ∈ digits, c.isDigit = true := by
  rw [decimalValue?] at value
  generalize 0 = start at value
  induction digits generalizing start with
  | nil => exact fun c member => absurd member List.not_mem_nil
  | cons c digits ih =>
    rw [List.foldlM_cons] at value
    split at value
    · next range =>
      refine List.forall_mem_cons.mpr ⟨?_, ih _ value⟩
      simpa [Char.isDigit, Char.le_def] using range
    · cases value

/-- Digits without a leading zero are the numeral of their value. -/
theorem eq_toDigits_of_decimalValue? {c : Char} {digits : List Char} {n : Nat}
    (value : decimalValue? (c :: digits) = some n) (leads : c = '0' → digits = []) :
    c :: digits = Nat.toDigits 10 n := by
  have digital := isDigit_of_decimalValue? value
  rw [decimalValue?_of_digits digital, Option.some.injEq, Nat.ofDigitChars_cons, Nat.mul_zero, Nat.zero_add] at value
  obtain ⟨first, further⟩ := List.forall_mem_cons.mp digital
  have own := (toDigits_of_isDigit first).2
  rcases Nat.eq_zero_or_pos (c.toNat - '0'.toNat) with zero | pos
  · have isZero : c = '0' := by
      rw [zero] at own
      exact (List.singleton_inj.mp own).symm
    rw [leads isZero, Nat.ofDigitChars_nil] at value
    rw [leads isZero, ← value, own]
  · rw [← value, toDigits_ofDigitChars further pos, own, List.singleton_append]

/-- The tokens that are indices are the numerals of words. -/
theorem index?_eq_some_iff {token : String} {n : Nat} :
    index? token = some n ↔ token = toString n ∧ n ≤ Word.greatest := by
  constructor
  · intro index
    unfold index? at index
    split at index
    · cases index
    · cases index
    · next empty leading =>
      obtain ⟨value, small⟩ := Option.filter_eq_some_iff.mp index
      refine ⟨?_, by simpa using small⟩
      rw [← String.toList_inj, Nat.toString_eq_repr, Nat.toList_repr]
      cases digits : token.toList with
      | nil => exact absurd digits empty
      | cons c rest =>
        rw [digits] at value
        refine eq_toDigits_of_decimalValue? value ?_
        rintro rfl
        cases rest with
        | nil => rfl
        | cons d more => exact absurd digits (leading d more)
  · rintro ⟨rfl, small⟩
    exact index?_toString small

/-! ## Routes -/

/-- The step that a token takes from a value. -/
def stepOf? (token : String) : Json → Option Json.Step
  | .object _ => some (.member token)
  | .array _ => (index? token).map .item
  | _ => none

/-- The steps that tokens take from a value, if they lead somewhere. -/
def routeOf? : List String → Json → Option (List Json.Step)
  | [], _ => some []
  | token :: rest, value => do
    let step ← stepOf? token value
    let next ← value.at? step
    let route ← routeOf? rest next
    return step :: route

/-- The steps that a pointer takes through a value, if it leads somewhere. -/
def route? (p : Pointer) (value : Json) : Option (List Json.Step) := routeOf? p.tokens value

theorem step?_eq_bind (token : String) (value : Json) : step? token value = (stepOf? token value).bind value.at? := by
  cases value with
  | array items => cases index : index? token <;> simp [step?, stepOf?, index, Json.at?]
  | object members => rfl
  | _ => rfl

theorem stepOf?_inj {value : Json} {one other : String} {step : Json.Step} (first : stepOf? one value = some step)
    (second : stepOf? other value = some step) : one = other := by
  cases value with
  | object members =>
    obtain rfl := Option.some.inj first
    exact (Json.Step.member.inj (Option.some.inj second)).symm
  | array items =>
    obtain ⟨n, index, rfl⟩ := Option.map_eq_some_iff.mp first
    obtain ⟨m, indexOther, same⟩ := Option.map_eq_some_iff.mp second
    obtain rfl := Json.Step.item.inj same
    rw [(index?_eq_some_iff.mp index).1, (index?_eq_some_iff.mp indexOther).1]
  | _ => cases first

theorem routeOf?_cons_eq_some_iff {token : String} {rest : List String} {value : Json} {route : List Json.Step} :
    routeOf? (token :: rest) value = some route ↔ ∃ step next further, stepOf? token value = some step ∧
      value.at? step = some next ∧ routeOf? rest next = some further ∧ route = step :: further := by
  simp only [routeOf?, Option.bind_eq_bind, Option.bind_eq_some_iff, Option.pure_def, Option.some.injEq]
  constructor
  · rintro ⟨step, taken, next, reached, further, goesOn, same⟩
    exact ⟨step, next, further, taken, reached, goesOn, same.symm⟩
  · rintro ⟨step, next, further, taken, reached, goesOn, same⟩
    exact ⟨step, taken, next, reached, further, goesOn, same.symm⟩

/-- Tokens lead to the end of their route. -/
theorem follow?_eq_some_iff {tokens : List String} {value found : Json} :
    follow? tokens value = some found ↔ ∃ route, routeOf? tokens value = some route ∧ value.walk? route = some found := by
  induction tokens generalizing value with
  | nil => simp [follow?, routeOf?, Json.walk?]
  | cons token rest ih =>
    rw [follow?, step?_eq_bind, Option.bind_assoc, Option.bind_eq_some_iff]
    constructor
    · rintro ⟨step, taken, leads⟩
      obtain ⟨next, reached, leads⟩ := Option.bind_eq_some_iff.mp leads
      obtain ⟨route, further, ends⟩ := ih.mp leads
      refine ⟨step :: route, routeOf?_cons_eq_some_iff.mpr ⟨step, next, route, taken, reached, further, rfl⟩, ?_⟩
      rw [Json.walk?, reached]
      exact ends
    · rintro ⟨_, whole, ends⟩
      obtain ⟨step, next, route, taken, reached, further, rfl⟩ := routeOf?_cons_eq_some_iff.mp whole
      rw [Json.walk?, reached] at ends
      exact ⟨step, taken, Option.bind_eq_some_iff.mpr ⟨next, reached, ih.mpr ⟨route, further, ends⟩⟩⟩

/-- Tokens that take the same route are the same. -/
theorem routeOf?_inj {one other : List String} {value : Json} {route : List Json.Step}
    (first : routeOf? one value = some route) (second : routeOf? other value = some route) : one = other := by
  induction one generalizing other value route with
  | nil =>
    obtain rfl := Option.some.inj first
    cases other with
    | nil => rfl
    | cons token rest =>
      obtain ⟨_, _, _, -, -, -, impossible⟩ := routeOf?_cons_eq_some_iff.mp second
      cases impossible
  | cons token rest ih =>
    obtain ⟨step, next, further, taken, reached, goesOn, rfl⟩ := routeOf?_cons_eq_some_iff.mp first
    cases other with
    | nil => cases second
    | cons token' rest' =>
      obtain ⟨_, _, _, taken', reached', goesOn', same⟩ := routeOf?_cons_eq_some_iff.mp second
      obtain ⟨rfl, rfl⟩ := List.cons.inj same
      obtain rfl := Option.some.inj (reached.symm.trans reached')
      rw [stepOf?_inj taken taken', ih goesOn goesOn']

/-- A pointer resolves to the end of its route. -/
theorem resolve?_eq_some_iff {p : Pointer} {value found : Json} :
    p.resolve? value = some found ↔ ∃ route, p.route? value = some route ∧ value.walk? route = some found :=
  follow?_eq_some_iff

/-- Pointers that take the same route are the same. -/
theorem eq_of_route? {p q : Pointer} {value : Json} {route : List Json.Step} (first : p.route? value = some route)
    (second : q.route? value = some route) : p = q := by
  rcases p with ⟨one⟩
  rcases q with ⟨other⟩
  exact congrArg Pointer.mk (routeOf?_inj first second)

end Pointer

end JsonSchema
