import JsonSchema.Proofs.Text.Utf8
import JsonSchema.Url.Percent
import Mathlib.Data.List.Basic

/-! # Decoding what was encoded

Encoding leaves a percent sign as it is unless the set of the component has it, so that decoding may take one of the
text for the start of an escape. Where the text has no such sign, the bytes of the text come back
(`Url.decodeBytesBy_written`); where it has one, fewer characters come back than the text has
(`Url.length_lossy_written`). This is so however two bytes are taken for a number, as long as these are hexadecimal
digits (`Url.ReadsPairs`).
-/

namespace JsonSchema.Url

open Utf8 (encode encodeChar lossy)

/-- Whether a character is a hexadecimal digit. -/
def isHexDigit (c : Char) : Bool := c.isDigit || ('a' ≤ c && c ≤ 'f') || ('A' ≤ c && c ≤ 'F')

/-- Whether two characters are hexadecimal digits. -/
def IsDigitPair (high low : Char) : Prop := isHexDigit high = true ∧ isHexDigit low = true

/-- Whether two characters are hexadecimal digits, or a plus sign and one. -/
def IsNumberPair (high low : Char) : Prop := (isHexDigit high = true ∨ high = '+') ∧ isHexDigit low = true

/-- Whether a text starts with two characters of a kind. -/
def StartsWithPair (isPair : Char → Char → Prop) (text : List Char) : Prop :=
  ∃ high low rest, text = high :: low :: rest ∧ isPair high low

/-- Whether two characters of a kind stand behind some percent sign of a text. -/
def HoldsEscape (isPair : Char → Char → Prop) (text : List Char) : Prop :=
  ∃ rest, '%' :: rest <:+ text ∧ StartsWithPair isPair rest

/-- Which bytes are taken for a number: those of certain pairs of characters, among them the digits of every escape,
and never a percent sign. -/
structure ReadsPairs (pair? : UInt8 → UInt8 → Option UInt8) (isPair : Char → Char → Prop) : Prop where
  escape (b : UInt8) : pair? (UInt8.ofNat (upperHexDigit (b.toNat / 16)).toNat)
    (UInt8.ofNat (upperHexDigit (b.toNat % 16)).toNat) = some b
  isSome_iff (high low : UInt8) : (pair? high low).isSome = true ↔
    high.toNat < 0x80 ∧ low.toNat < 0x80 ∧ isPair (Char.ofNat high.toNat) (Char.ofNat low.toNat)
  percent (c : Char) : ¬ isPair '%' c ∧ ¬ isPair c '%'

theorem holdsEscape_cons {isPair : Char → Char → Prop} {c : Char} {text : List Char} :
    HoldsEscape isPair (c :: text) ↔ c = '%' ∧ StartsWithPair isPair text ∨ HoldsEscape isPair text := by
  simp only [HoldsEscape, List.suffix_cons_iff, List.cons.injEq]
  constructor
  · rintro ⟨rest, ⟨rfl, rfl⟩ | suffix, pair⟩
    · exact .inl ⟨rfl, pair⟩
    · exact .inr ⟨rest, suffix, pair⟩
  · rintro (⟨rfl, pair⟩ | ⟨rest, suffix, pair⟩)
    · exact ⟨text, .inl ⟨rfl, rfl⟩, pair⟩
    · exact ⟨rest, .inr suffix, pair⟩

instance (high low : Char) : Decidable (IsDigitPair high low) := inferInstanceAs (Decidable (_ ∧ _))

section

variable {isPair : Char → Char → Prop} [∀ high low, Decidable (isPair high low)]

instance (text : List Char) : Decidable (StartsWithPair isPair text) :=
  match text with
  | [] => isFalse (by rintro ⟨_, _, _, ⟨⟩, -⟩)
  | [_] => isFalse (by rintro ⟨_, _, _, ⟨⟩, -⟩)
  | high :: low :: rest =>
    decidable_of_iff (isPair high low)
      ⟨fun pair => ⟨high, low, rest, rfl, pair⟩, by rintro ⟨_, _, _, ⟨⟩, pair⟩; exact pair⟩

instance decidableHoldsEscape : (text : List Char) → Decidable (HoldsEscape isPair text)
  | [] => isFalse (by rintro ⟨_, suffix, -⟩; simp at suffix)
  | _ :: text =>
    have := decidableHoldsEscape text
    decidable_of_iff _ holdsEscape_cons.symm

end

theorem toNat_lt_of_isHexDigit {c : Char} (digit : isHexDigit c = true) : c.toNat < 0x80 := by
  simp only [isHexDigit, Char.isDigit, Bool.or_eq_true, Bool.and_eq_true, decide_eq_true_eq, Char.le_def,
    UInt32.le_iff_toNat_le, ge_iff_le, Char.toNat_val] at digit
  simp at digit
  omega

/-! ## The two ways to take bytes for a number -/

theorem isSome_hexByte?_iff (b : UInt8) :
    (hexByte? b).isSome = true ↔ b.toNat < 0x80 ∧ isHexDigit (Char.ofNat b.toNat) = true := by
  have every : ∀ n < 256, (hexByte? (UInt8.ofNat n)).isSome = true ↔ n < 0x80 ∧ isHexDigit (Char.ofNat n) = true := by
    decide +kernel
  simpa using every b.toNat b.toNat_lt

theorem hexByte?_upperHexDigit : ∀ n < 16, hexByte? (UInt8.ofNat (upperHexDigit n).toNat) = some n := by decide

theorem digitPair?_upperHexDigit (b : UInt8) : digitPair? (UInt8.ofNat (upperHexDigit (b.toNat / 16)).toNat)
    (UInt8.ofNat (upperHexDigit (b.toNat % 16)).toNat) = some b := by
  have bound := b.toNat_lt
  have whole : b.toNat / 16 * 16 + b.toNat % 16 = b.toNat := by omega
  rw [digitPair?, hexByte?_upperHexDigit _ (by omega), hexByte?_upperHexDigit _ (by omega)]
  simp only [whole, UInt8.ofNat_toNat]

theorem readsPairs_digitPair? : ReadsPairs digitPair? IsDigitPair where
  escape := digitPair?_upperHexDigit
  isSome_iff high low := by
    have both : (digitPair? high low).isSome = true ↔ (hexByte? high).isSome = true ∧ (hexByte? low).isSome = true := by
      rw [digitPair?]
      cases hexByte? high <;> cases hexByte? low <;> simp
    rw [both, isSome_hexByte?_iff, isSome_hexByte?_iff, IsDigitPair]
    tauto
  percent c := by simp [IsDigitPair, show isHexDigit '%' = false by decide]

theorem readsPairs_signedPair? : ReadsPairs signedPair? IsNumberPair where
  escape b := by
    have noPlus : ∀ n < 16, UInt8.ofNat (upperHexDigit n).toNat ≠ 43 := by decide
    have bound := b.toNat_lt
    rw [signedPair?, if_neg (noPlus _ (by omega)), digitPair?_upperHexDigit]
  isSome_iff high low := by
    rw [signedPair?]
    split
    · next plus =>
      subst plus
      rw [Option.isSome_map, isSome_hexByte?_iff, IsNumberPair]
      simp
    · next different =>
      have noPlus (ascii : high.toNat < 0x80) : Char.ofNat high.toNat ≠ '+' := by
        intro same
        have every : ∀ n < 0x80, Char.ofNat n = '+' → n = 43 := by decide
        exact different (UInt8.toNat_inj.mp (every _ ascii same))
      rw [readsPairs_digitPair?.isSome_iff, IsDigitPair, IsNumberPair]
      exact and_congr_right fun ascii => by simp [noPlus ascii]
  percent c := by simp [IsNumberPair, show isHexDigit '%' = false by decide]

/-! ## Decoding byte by byte -/

section

variable {pair? : UInt8 → UInt8 → Option UInt8} {rest : List UInt8}

theorem decodeBytesBy_cons_of_ne {b : UInt8} (different : b ≠ 37) :
    decodeBytesBy pair? (b :: rest) = b :: decodeBytesBy pair? rest := by
  rcases rest with - | ⟨high, - | ⟨low, rest⟩⟩
  · rfl
  · rfl
  · rw [decodeBytesBy, if_neg different]

theorem decodeBytesBy_percent_of_none (none : ∀ high low more, rest = high :: low :: more → pair? high low = none) :
    decodeBytesBy pair? (37 :: rest) = 37 :: decodeBytesBy pair? rest := by
  rcases rest with - | ⟨high, - | ⟨low, rest⟩⟩
  · rfl
  · rfl
  · rw [decodeBytesBy, if_pos rfl, none high low rest rfl]

theorem decodeBytesBy_percent_of_some {high low value : UInt8} (some : pair? high low = some value) :
    decodeBytesBy pair? (37 :: high :: low :: rest) = value :: decodeBytesBy pair? rest := by
  rw [decodeBytesBy, if_pos rfl, some]

end

/-! ## Encoded texts -/

theorem encodeChar_of_ascii {c : Char} (ascii : c.toNat < 0x80) : encodeChar c = [UInt8.ofNat c.toNat] := if_pos ascii

theorem upperHexDigit_lt : ∀ n < 16, (upperHexDigit n).toNat < 0x80 := by decide

theorem encode_escapeByte (b : UInt8) : encode (escapeByte b) =
    [37, UInt8.ofNat (upperHexDigit (b.toNat / 16)).toNat, UInt8.ofNat (upperHexDigit (b.toNat % 16)).toNat] := by
  have bound := b.toNat_lt
  have high : (upperHexDigit (b.toNat / 16)).toNat < 0x80 := upperHexDigit_lt _ (by omega)
  have low : (upperHexDigit (b.toNat % 16)).toNat < 0x80 := upperHexDigit_lt _ (by omega)
  simp only [encode, escapeByte, List.flatMap_cons, List.flatMap_nil, encodeChar_of_ascii high, encodeChar_of_ascii low]
  rfl

/-- The bytes of an encoded text. -/
def written (inSet : Char → Bool) (text : List Char) : List UInt8 := encode (percentEncode inSet text)

section

variable {inSet : Char → Bool} {c : Char} {text : List Char}

theorem written_cons_of_inSet (inside : inSet c = true) :
    written inSet (c :: text) = encode ((encodeChar c).flatMap escapeByte) ++ written inSet text := by
  rw [written, percentEncode, List.flatMap_cons, if_pos inside, encode, List.flatMap_append]
  rfl

theorem written_cons_of_not_inSet (outside : inSet c = false) :
    written inSet (c :: text) = encodeChar c ++ written inSet text := by
  rw [written, percentEncode, List.flatMap_cons, outside, encode, List.flatMap_append]
  simp [encode, written, percentEncode]

end

section

variable {pair? : UInt8 → UInt8 → Option UInt8} {isPair : Char → Char → Prop} (reads : ReadsPairs pair? isPair)
  {inSet : Char → Bool} (ascii : ∀ c, inSet c = false → c.toNat < 0x80) {c : Char} {text : List Char}

include reads

theorem decodeBytesBy_escapes (bytes rest : List UInt8) :
    decodeBytesBy pair? (encode (bytes.flatMap escapeByte) ++ rest) = bytes ++ decodeBytesBy pair? rest := by
  induction bytes with
  | nil => rfl
  | cons b bytes ih =>
    rw [List.flatMap_cons, encode, List.flatMap_append, ← encode, ← encode, encode_escapeByte, List.append_assoc,
      List.cons_append, List.cons_append, List.cons_append, List.nil_append,
      decodeBytesBy_percent_of_some (reads.escape b), ih, List.cons_append]

include ascii

omit reads in
/-- A byte that begins a pair is that of the first character, which stands for itself. -/
theorem exists_of_written_eq_cons {high : UInt8} {rest : List UInt8} (notPercent : high ≠ 37)
    (same : written inSet text = high :: rest) :
    ∃ c more, text = c :: more ∧ c.toNat < 0x80 ∧ high = UInt8.ofNat c.toNat ∧ written inSet more = rest := by
  rcases text with - | ⟨c, more⟩
  · cases same
  · cases inside : inSet c with
    | true =>
      exfalso
      obtain ⟨b, bytes, many⟩ := List.exists_cons_of_ne_nil (Utf8.encodeChar_ne_nil c)
      rw [written_cons_of_inSet inside, many, List.flatMap_cons, encode, List.flatMap_append, ← encode,
        encode_escapeByte] at same
      exact notPercent (List.cons.inj same).1.symm
    | false =>
      rw [written_cons_of_not_inSet inside, encodeChar_of_ascii (ascii c inside)] at same
      obtain ⟨first, behind⟩ := List.cons.inj same
      exact ⟨c, more, rfl, ascii c inside, first.symm, behind⟩

/-- Two bytes behind a percent sign are taken for a number only if they are those of a pair of characters. -/
theorem startsWithPair_of_written {high low : UInt8} {rest : List UInt8} (some : (pair? high low).isSome = true)
    (same : written inSet text = high :: low :: rest) : StartsWithPair isPair text := by
  obtain ⟨highAscii, lowAscii, pair⟩ := (reads.isSome_iff high low).mp some
  have notPercent (b : UInt8) (percent : b = 37) : Char.ofNat b.toNat = '%' := by
    subst percent
    decide
  have highNot : high ≠ 37 := fun percent => (reads.percent _).1 (notPercent high percent ▸ pair)
  have lowNot : low ≠ 37 := fun percent => (reads.percent _).2 (notPercent low percent ▸ pair)
  obtain ⟨first, more, rfl, firstAscii, rfl, behind⟩ := exists_of_written_eq_cons ascii highNot same
  obtain ⟨second, further, rfl, secondAscii, rfl, -⟩ := exists_of_written_eq_cons ascii lowNot behind
  rw [Utf8.toNat_ofNat (by omega), Utf8.toNat_ofNat (by omega), Char.ofNat_toNat, Char.ofNat_toNat] at pair
  exact ⟨first, second, further, rfl, pair⟩

/-- A character that does not start an escape comes back. -/
theorem decodeBytesBy_written_cons (free : inSet c = false → ¬ (c = '%' ∧ StartsWithPair isPair text)) :
    decodeBytesBy pair? (written inSet (c :: text)) = encodeChar c ++ decodeBytesBy pair? (written inSet text) := by
  cases inside : inSet c with
  | true => rw [written_cons_of_inSet inside, decodeBytesBy_escapes reads]
  | false =>
    rw [written_cons_of_not_inSet inside, encodeChar_of_ascii (ascii c inside), List.singleton_append,
      List.singleton_append]
    by_cases percent : c = '%'
    · subst percent
      refine decodeBytesBy_percent_of_none fun high low more same => ?_
      by_contra some
      refine free inside ⟨rfl, startsWithPair_of_written reads ascii ?_ same⟩
      exact Option.isSome_iff_ne_none.mpr some
    · refine decodeBytesBy_cons_of_ne fun same => percent ?_
      have number := congrArg UInt8.toNat same
      rw [Utf8.toNat_ofNat (by have := ascii c inside; omega)] at number
      rw [← Char.ofNat_toNat c, number]
      decide

/-- The bytes of a text without escapes come back. -/
theorem decodeBytesBy_written (free : inSet '%' = false → ¬ HoldsEscape isPair text) :
    decodeBytesBy pair? (written inSet text) = encode text := by
  induction text with
  | nil => rfl
  | cons c text ih =>
    simp only [holdsEscape_cons, not_or] at free
    have first : inSet c = false → ¬ (c = '%' ∧ StartsWithPair isPair text) := by
      rintro outside ⟨rfl, pair⟩
      exact (free outside).1 ⟨rfl, pair⟩
    rw [decodeBytesBy_written_cons reads ascii first, ih fun outside => (free outside).2]
    rfl

/-- Texts without escapes are encoded differently. -/
theorem eq_of_percentEncode_eq {other : List Char} (free : inSet '%' = false → ¬ HoldsEscape isPair text)
    (freeOther : inSet '%' = false → ¬ HoldsEscape isPair other)
    (same : percentEncode inSet text = percentEncode inSet other) : text = other := by
  have bytes : encode text = encode other := by
    rw [← decodeBytesBy_written reads ascii free, ← decodeBytesBy_written reads ascii freeOther, written, written, same]
  rw [← Utf8.lossy_encode text, bytes, Utf8.lossy_encode]

theorem eq_of_map_percentEncode_eq {names others : List (List Char)}
    (free : inSet '%' = false → ∀ name ∈ names, ¬ HoldsEscape isPair name)
    (freeOthers : inSet '%' = false → ∀ name ∈ others, ¬ HoldsEscape isPair name)
    (same : names.map (percentEncode inSet) = others.map (percentEncode inSet)) : names = others := by
  induction names generalizing others with
  | nil => exact (List.map_eq_nil_iff.mp same.symm).symm
  | cons name names ih =>
    obtain ⟨other, rest, rfl, first, further⟩ := List.map_eq_cons_iff.mp same.symm
    rw [eq_of_percentEncode_eq reads ascii (fun outside => free outside name List.mem_cons_self)
      (fun outside => freeOthers outside other List.mem_cons_self) first.symm]
    exact congrArg _ (ih (fun outside inner member => free outside inner (List.mem_cons_of_mem _ member))
      (fun outside inner member => freeOthers outside inner (List.mem_cons_of_mem _ member)) further.symm)

/-- An escape becomes a single byte. -/
theorem exists_decodeBytesBy_written_percent
    (plain : ∀ high low, isPair high low → inSet high = false ∧ inSet low = false) (outside : inSet '%' = false)
    {high low : Char} (pair : isPair high low) :
    ∃ value, decodeBytesBy pair? (written inSet ('%' :: high :: low :: text)) =
      value :: decodeBytesBy pair? (written inSet text) := by
  obtain ⟨highOutside, lowOutside⟩ := plain high low pair
  have highAscii := ascii high highOutside
  have lowAscii := ascii low lowOutside
  have some : (pair? (UInt8.ofNat high.toNat) (UInt8.ofNat low.toNat)).isSome = true := by
    rw [reads.isSome_iff, Utf8.toNat_ofNat (by omega), Utf8.toNat_ofNat (by omega), Char.ofNat_toNat, Char.ofNat_toNat]
    exact ⟨highAscii, lowAscii, pair⟩
  obtain ⟨value, read⟩ := Option.isSome_iff_exists.mp some
  refine ⟨value, ?_⟩
  rw [written_cons_of_not_inSet outside, written_cons_of_not_inSet highOutside, written_cons_of_not_inSet lowOutside,
    encodeChar_of_ascii highAscii, encodeChar_of_ascii lowAscii, encodeChar_of_ascii (by decide)]
  exact decodeBytesBy_percent_of_some read

/-- No more characters come back than the text has, and fewer if it holds an escape. -/
theorem length_lossy_written (plain : ∀ high low, isPair high low → inSet high = false ∧ inSet low = false)
    (outside : inSet '%' = false) (text : List Char) :
    (lossy (decodeBytesBy pair? (written inSet text))).length ≤ text.length ∧
      (HoldsEscape isPair text → (lossy (decodeBytesBy pair? (written inSet text))).length < text.length) := by
  induction length : text.length using Nat.strongRecOn generalizing text with
  | _ n ih =>
    subst length
    rcases text with - | ⟨c, text⟩
    · refine ⟨Nat.le_refl _, ?_⟩
      rintro ⟨rest, suffix, -⟩
      simp at suffix
    · by_cases start : c = '%' ∧ StartsWithPair isPair text
      · obtain ⟨rfl, high, low, rest, rfl, pair⟩ := start
        obtain ⟨value, decoded⟩ : ∃ value, decodeBytesBy pair? (written inSet ('%' :: high :: low :: rest)) =
            value :: decodeBytesBy pair? (written inSet rest) :=
          exists_decodeBytesBy_written_percent reads ascii plain outside pair
        have behind := (ih rest.length (by simp; omega) rest rfl).1
        have first := Utf8.length_lossy_cons_le value (decodeBytesBy pair? (written inSet rest))
        simp only [decoded, List.length_cons]
        exact ⟨by omega, fun _ => by omega⟩
      · have behind := ih text.length (by simp) text rfl
        rw [decodeBytesBy_written_cons reads ascii fun _ => start, Utf8.lossy_encodeChar_append, List.length_cons,
          List.length_cons, holdsEscape_cons]
        exact ⟨by omega, fun holds => by have := behind.2 (holds.resolve_left start); omega⟩

end

end JsonSchema.Url
