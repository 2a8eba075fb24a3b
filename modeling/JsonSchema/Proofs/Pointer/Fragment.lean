import JsonSchema.Proofs.Pointer.Text
import JsonSchema.Proofs.Url.Escapes
import JsonSchema.Url.Resolution

/-! # Pointers in fragments

The text of a pointer is encoded as the fragment of a URL, and the decoded fragment is read as a pointer. Blanks, quotes
and characters outside ASCII come back, but a fragment has no tabs and line breaks, and a percent sign of a token is
taken for an escape if a number follows it. All tokens without these come back, and no others
(`Pointer.parse_fragmentText_withFragment_iff`).
-/

namespace JsonSchema

namespace Url

/-! ## Texts in fragments -/

theorem isIgnored_eq_false_iff {c : Char} : isIgnored c = false ↔ c ≠ '\t' ∧ c ≠ '\n' ∧ c ≠ '\r' := by
  simp [isIgnored, and_assoc]

theorem toNat_lt_of_not_inFragmentSet (c : Char) (outside : inFragmentSet c = false) : c.toNat < 0x80 := by
  simp only [inFragmentSet, isControl, Bool.or_eq_false_iff, decide_eq_false_iff_not] at outside
  omega

theorem inFragmentSet_of_isHexDigit {c : Char} (digit : isHexDigit c = true) : inFragmentSet c = false := by
  have every : ∀ n < 0x80, isHexDigit (Char.ofNat n) = true → inFragmentSet (Char.ofNat n) = false := by decide
  have small := toNat_lt_of_isHexDigit digit
  rw [← Char.ofNat_toNat c] at digit ⊢
  exact every _ small digit

theorem inFragmentSet_of_isNumberPair (high low : Char) (pair : IsNumberPair high low) :
    inFragmentSet high = false ∧ inFragmentSet low = false := by
  obtain ⟨digit | rfl, second⟩ := pair
  · exact ⟨inFragmentSet_of_isHexDigit digit, inFragmentSet_of_isHexDigit second⟩
  · exact ⟨by decide, inFragmentSet_of_isHexDigit second⟩

theorem fragmentText_withFragment (base : Url) (text : String) : ((base.withFragment text).fragmentText).toList =
    Utf8.lossy (decodeBytesBy signedPair? (written inFragmentSet (text.toList.filter (!isIgnored ·)))) := by
  simp only [withFragment, fragmentText, percentDecode, Utf8.decodeLossy_eq, String.toList_ofList, encodeFragment,
    Utf8.bytes, written]

/-- The texts that come back from a fragment are those without tabs, line breaks and escapes. -/
theorem fragmentText_withFragment_iff (base : Url) (text : String) : (base.withFragment text).fragmentText = text ↔
    (∀ c ∈ text.toList, isIgnored c = false) ∧ ¬ HoldsEscape IsNumberPair text.toList := by
  rw [← String.toList_inj, fragmentText_withFragment]
  have bound := length_lossy_written readsPairs_signedPair? toNat_lt_of_not_inFragmentSet inFragmentSet_of_isNumberPair
    (by decide) (text.toList.filter (!isIgnored ·))
  constructor
  · intro same
    rw [same] at bound
    have whole := List.length_filter_eq_length_iff.mp (Nat.le_antisymm (List.length_filter_le _ _) bound.1)
    refine ⟨fun c member => by simpa using whole c member, fun holds => ?_⟩
    rw [List.filter_eq_self.mpr whole] at bound
    exact Nat.lt_irrefl _ (bound.2 holds)
  · rintro ⟨kept, free⟩
    rw [List.filter_eq_self.mpr fun c member => by simp [kept c member],
      decodeBytesBy_written readsPairs_signedPair? toNat_lt_of_not_inFragmentSet fun _ => free, Utf8.lossy_encode]

end Url

namespace Pointer

open Url (IsNumberPair HoldsEscape StartsWithPair holdsEscape_cons isIgnored)

/-! ## Tokens in texts -/

theorem escape_cons_of_ne {c : Char} (notTilde : c ≠ '~') (notSlash : c ≠ '/') (rest : List Char) :
    escape (c :: rest) = c :: escape rest := by
  rw [escape]
  · exact notTilde
  · exact notSlash

theorem forall_escape_iff {token : List Char} :
    (∀ c ∈ escape token, isIgnored c = false) ↔ ∀ c ∈ token, isIgnored c = false := by
  induction token using escape.induct with
  | case1 => rfl
  | case2 rest ih => simp [escape, ih, show isIgnored '~' = false by decide, show isIgnored '0' = false by decide]
  | case3 rest ih =>
    simp [escape, ih, show isIgnored '~' = false by decide, show isIgnored '1' = false by decide,
      show isIgnored '/' = false by decide]
  | case4 c rest notTilde notSlash ih =>
    simp [escape_cons_of_ne (fun same => notTilde same) (fun same => notSlash same), ih]

/-- Neither a slash nor what is written for one is a digit, so that a number stands in a text where it stands in a
token. -/
theorem exists_escape_append_eq_cons_iff {digit : Char} (number : Url.isHexDigit digit = true ∨ digit = '+')
    {token behind : List Char} (divided : ∀ c ∈ behind.head?, c = '/') :
    (∃ rest, escape token ++ behind = digit :: rest) ↔ ∃ rest, token = digit :: rest := by
  have notTilde : '~' ≠ digit := by
    rintro rfl
    revert number
    decide
  have notSlash : '/' ≠ digit := by
    rintro rfl
    revert number
    decide
  cases token using escape.fun_cases with
  | case1 =>
    rcases behind with - | ⟨c, behind⟩
    · simp [escape]
    · obtain rfl := divided c rfl
      simp [escape, notSlash]
  | case2 rest => simp [escape, notTilde]
  | case3 rest => simp [escape, notTilde, notSlash]
  | case4 c rest notTilde notSlash =>
    simp [escape_cons_of_ne (fun same => notTilde same) (fun same => notSlash same)]

theorem startsWithPair_escape_append_iff {token behind : List Char} (divided : ∀ c ∈ behind.head?, c = '/') :
    StartsWithPair IsNumberPair (escape token ++ behind) ↔ StartsWithPair IsNumberPair token := by
  have first {high : Char} {rest : List Char} (plain : high ≠ '~' ∧ high ≠ '/') :
      escape (high :: rest) ++ behind = high :: (escape rest ++ behind) := by
    rw [escape_cons_of_ne plain.1 plain.2, List.cons_append]
  have plain {high : Char} (number : Url.isHexDigit high = true ∨ high = '+') : high ≠ '~' ∧ high ≠ '/' := by
    constructor <;> (rintro rfl; revert number; decide)
  constructor
  · rintro ⟨high, low, rest, same, pair⟩
    obtain ⟨more, rfl⟩ := (exists_escape_append_eq_cons_iff pair.1 divided).mp ⟨_, same⟩
    rw [first (plain pair.1), List.cons.injEq] at same
    obtain ⟨further, rfl⟩ := (exists_escape_append_eq_cons_iff (.inl pair.2) divided).mp ⟨_, same.2⟩
    exact ⟨high, low, further, rfl, pair⟩
  · rintro ⟨high, low, rest, rfl, pair⟩
    obtain ⟨more, same⟩ := (exists_escape_append_eq_cons_iff (.inl pair.2) divided).mpr ⟨rest, rfl⟩
    exact ⟨high, low, more, by rw [first (plain pair.1), same], pair⟩

theorem holdsEscape_escape_append_iff {token behind : List Char} (divided : ∀ c ∈ behind.head?, c = '/') :
    HoldsEscape IsNumberPair (escape token ++ behind) ↔
      HoldsEscape IsNumberPair token ∨ HoldsEscape IsNumberPair behind := by
  induction token using escape.induct with
  | case1 =>
    have empty : ¬ HoldsEscape IsNumberPair [] := by
      rintro ⟨rest, suffix, -⟩
      simp at suffix
    simp [escape, empty]
  | case2 rest ih => simp [escape, holdsEscape_cons, ih]
  | case3 rest ih => simp [escape, holdsEscape_cons, ih]
  | case4 c rest notTilde notSlash ih =>
    rw [escape_cons_of_ne (fun same => notTilde same) (fun same => notSlash same), List.cons_append, holdsEscape_cons,
      holdsEscape_cons, startsWithPair_escape_append_iff divided, ih, or_assoc]

theorem forall_text_iff {p : Pointer} : (∀ c ∈ p.text.toList, isIgnored c = false) ↔
    ∀ token ∈ p.tokens, ∀ c ∈ token.toList, isIgnored c = false := by
  simp only [text, String.toList_ofList, chars, List.mem_flatMap, forall_exists_index, and_imp]
  constructor
  · intro every token member
    exact forall_escape_iff.mp fun c inside => every c token member (List.mem_cons_of_mem _ inside)
  · intro every c token member inside
    rcases List.mem_cons.mp inside with rfl | inside
    · decide
    · exact forall_escape_iff.mpr (every token member) c inside

theorem holdsEscape_text_iff {p : Pointer} : HoldsEscape IsNumberPair p.text.toList ↔
    ∃ token ∈ p.tokens, HoldsEscape IsNumberPair token.toList := by
  obtain ⟨tokens⟩ := p
  rw [text, String.toList_ofList, chars]
  induction tokens with
  | nil =>
    simp only [List.flatMap_nil, List.not_mem_nil, false_and, exists_false, iff_false]
    rintro ⟨rest, suffix, -⟩
    simp at suffix
  | cons token tokens ih =>
    have divided : ∀ c ∈ (tokens.flatMap fun token => '/' :: escape token.toList).head?, c = '/' := by
      cases tokens <;> simp
    rw [List.flatMap_cons, List.cons_append, holdsEscape_cons, holdsEscape_escape_append_iff divided]
    simp [ih]

/-- A pointer comes back from the fragment of any URL exactly if its tokens have no tabs and line breaks, and no percent
sign with two hexadecimal digits, or a plus sign and one, behind it. -/
theorem parse_fragmentText_withFragment_iff (base : Url) (p : Pointer) :
    parse (base.withFragment p.text).fragmentText = .ok p ↔ ∀ token ∈ p.tokens,
      (∀ c ∈ token.toList, c ≠ '\t' ∧ c ≠ '\n' ∧ c ≠ '\r') ∧ ¬ HoldsEscape IsNumberPair token.toList := by
  rw [parse_eq_ok_iff, eq_comm, Url.fragmentText_withFragment_iff, forall_text_iff, holdsEscape_text_iff]
  simp only [Url.isIgnored_eq_false_iff]
  exact ⟨fun both token member => ⟨both.1 token member, fun holds => both.2 ⟨token, member, holds⟩⟩,
    fun both => ⟨fun token member => (both token member).1, fun ⟨token, member, holds⟩ => (both token member).2 holds⟩⟩

/-- The text of a pointer may be that of another one in a fragment: an escape in a token is decoded, and a tab is
lost. -/
theorem fragment_mistakes_tokens :
    parse (Url.defaultBase.withFragment (text ⟨["$defs", "a%25b"]⟩)).fragmentText = .ok ⟨["$defs", "a%b"]⟩ ∧
      parse (Url.defaultBase.withFragment (text ⟨["$defs", "a\tb"]⟩)).fragmentText = .ok ⟨["$defs", "ab"]⟩ ∧
      ¬ ∀ (base : Url) (p : Pointer), parse (base.withFragment p.text).fragmentText = .ok p := by
  refine ⟨by decide +kernel, by decide +kernel, fun every => ?_⟩
  have other : parse (Url.defaultBase.withFragment (text ⟨["a%25b"]⟩)).fragmentText = .ok ⟨["a%b"]⟩ := by
    decide +kernel
  have different := (every Url.defaultBase ⟨["a%25b"]⟩).symm.trans other
  revert different
  decide

/-- Blanks, quotes, percent signs without a number and characters outside ASCII come back. -/
example : parse (Url.defaultBase.withFragment (text ⟨["100% \"é\"", "~/<%é%4>"]⟩)).fragmentText =
    .ok ⟨["100% \"é\"", "~/<%é%4>"]⟩ := by
  decide +kernel

end Pointer

end JsonSchema
