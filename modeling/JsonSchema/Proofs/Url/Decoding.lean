import JsonSchema.Proofs.Url.Escapes
import Mathlib.Data.List.Infix

/-! # Decoding from left to right

A scan goes through bytes from left to right: a percent sign becomes a single byte together with two bytes behind it that
denote one, and every other byte is kept (`Url.Scans`). Decoding takes two hexadecimal digits for a byte, but also a
plus sign and one digit. So what it gives is the scan for digits exactly if no percent sign, plus sign and digit stand
together in the text (`Url.percentDecode_scans`): such a percent sign is lost, and characters of ASCII are counted alike in
bytes and in what is read of them.
-/

namespace JsonSchema.Url

open Utf8 (bytes lossy decodeLossy)

/-! ## Numbers of two bytes -/

/-- Whether a byte is the hexadecimal digit of a value, in lower or upper case. -/
def IsDigitOf (value : Nat) (b : UInt8) : Prop :=
  value < 16 ∧ (b.toNat = (Nat.digitChar value).toNat ∨ b.toNat = (upperHexDigit value).toNat)

/-- Whether two bytes are the hexadecimal digits of a byte. -/
def DigitsDenote (high low value : UInt8) : Prop :=
  ∃ front back, IsDigitOf front high ∧ IsDigitOf back low ∧ value.toNat = front * 16 + back

/-- Whether two bytes are a plus sign and the hexadecimal digit of a byte. -/
def SignDenotes (high low value : UInt8) : Prop := high = 43 ∧ IsDigitOf value.toNat low

/-- Whether two bytes are the hexadecimal digits of a byte, or a plus sign and its only digit. -/
def NumberDenotes (high low value : UInt8) : Prop := DigitsDenote high low value ∨ SignDenotes high low value

theorem hexByte?_eq_some_iff {b : UInt8} {value : Nat} : hexByte? b = some value ↔ IsDigitOf value b := by
  have every : ∀ n < 256, ∀ value < 16, hexByte? (UInt8.ofNat n) = some value ↔
      n = (Nat.digitChar value).toNat ∨ n = (upperHexDigit value).toNat := by decide +kernel
  have small (read : hexByte? b = some value) : value < 16 := by
    simp only [hexByte?] at read
    split at read
    · cases read; omega
    · split at read
      · cases read; omega
      · split at read
        · cases read; omega
        · cases read
  constructor
  · intro read
    exact ⟨small read, (every _ b.toNat_lt _ (small read)).mp (by rwa [UInt8.ofNat_toNat])⟩
  · rintro ⟨bound, digit⟩
    rw [← @UInt8.ofNat_toNat b]
    exact (every _ b.toNat_lt _ bound).mpr digit

/-- A digit is neither a percent sign nor a plus sign. -/
theorem IsDigitOf.ne {value : Nat} {b : UInt8} (digit : IsDigitOf value b) : b ≠ 37 ∧ b ≠ 43 := by
  have read := hexByte?_eq_some_iff.mpr digit
  constructor
  · rintro rfl
    cases read
  · rintro rfl
    cases read

theorem digitPair?_eq_some_iff {high low value : UInt8} :
    digitPair? high low = some value ↔ DigitsDenote high low value := by
  have fits {front back : Nat} (front_lt : front < 16) (back_lt : back < 16) :
      (UInt8.ofNat (front * 16 + back)).toNat = front * 16 + back := Utf8.toNat_ofNat (by omega)
  constructor
  · intro read
    simp only [digitPair?] at read
    split at read
    · next front back readFront readBack =>
      rw [hexByte?_eq_some_iff] at readFront readBack
      obtain rfl := Option.some.inj read
      exact ⟨front, back, readFront, readBack, fits readFront.1 readBack.1⟩
    · cases read
  · rintro ⟨front, back, digitFront, digitBack, number⟩
    rw [digitPair?, hexByte?_eq_some_iff.mpr digitFront, hexByte?_eq_some_iff.mpr digitBack]
    refine congrArg some (UInt8.toNat_inj.mp ?_)
    rw [fits digitFront.1 digitBack.1, number]

theorem signedPair?_eq_some_iff {high low value : UInt8} :
    signedPair? high low = some value ↔ NumberDenotes high low value := by
  have noDigit (front : Nat) : ¬ IsDigitOf front 43 := fun digit => digit.ne.2 rfl
  rw [signedPair?, NumberDenotes, SignDenotes]
  split
  · next plus =>
    subst plus
    rw [Option.map_eq_some_iff, or_iff_right (by rintro ⟨front, back, digit, -⟩; exact noDigit front digit)]
    constructor
    · rintro ⟨front, read, rfl⟩
      have digit := hexByte?_eq_some_iff.mp read
      refine ⟨rfl, ?_⟩
      rwa [Utf8.toNat_ofNat (by have := digit.1; omega)]
    · rintro ⟨-, digit⟩
      exact ⟨_, hexByte?_eq_some_iff.mpr digit, UInt8.ofNat_toNat⟩
  · next different => rw [digitPair?_eq_some_iff, or_iff_left fun sign => different sign.1]

/-! ## Scans -/

/-- Whether a scan of bytes from left to right, in which some pairs behind a percent sign denote bytes, gives other
bytes. -/
inductive Scans (denotes : UInt8 → UInt8 → UInt8 → Prop) : List UInt8 → List UInt8 → Prop
  | finished : Scans denotes [] []
  | escape {high low value : UInt8} {rest decoded : List UInt8} (number : denotes high low value)
      (behind : Scans denotes rest decoded) : Scans denotes (37 :: high :: low :: rest) (value :: decoded)
  | keep {b : UInt8} {rest decoded : List UInt8}
      (plain : ∀ high low value more, b :: rest = 37 :: high :: low :: more → ¬ denotes high low value)
      (behind : Scans denotes rest decoded) : Scans denotes (b :: rest) (b :: decoded)

section

variable {pair? : UInt8 → UInt8 → Option UInt8} {denotes : UInt8 → UInt8 → UInt8 → Prop}

/-- A byte that does not begin the digits of another one is kept. -/
theorem decodeBytesBy_keep (reads : ∀ {high low value}, pair? high low = some value ↔ denotes high low value) {b : UInt8}
    {rest : List UInt8}
    (plain : ∀ high low value more, b :: rest = 37 :: high :: low :: more → ¬ denotes high low value) :
    decodeBytesBy pair? (b :: rest) = b :: decodeBytesBy pair? rest := by
  by_cases percent : b = 37
  · subst percent
    rw [decodeBytesBy_percent_of_none]
    intro high low more same
    refine Option.eq_none_iff_forall_ne_some.mpr fun value read => ?_
    exact plain high low value more (by rw [same]) (reads.mp read)
  · rw [decodeBytesBy_cons_of_ne percent]

/-- Decoding with a way to read two bytes is the scan for the bytes that are read. -/
theorem scans_iff (reads : ∀ {high low value}, pair? high low = some value ↔ denotes high low value)
    {source decoded : List UInt8} : Scans denotes source decoded ↔ decoded = decodeBytesBy pair? source := by
  constructor
  · intro scans
    induction scans with
    | finished => rfl
    | escape number behind ih => rw [decodeBytesBy_percent_of_some (reads.mpr number), ih]
    | keep plain behind ih => rw [decodeBytesBy_keep reads plain, ih]
  · rintro rfl
    have alone {b : UInt8} {rest : List UInt8} (short : rest.length < 2) (high low value : UInt8) (more : List UInt8)
        (same : b :: rest = 37 :: high :: low :: more) : ¬ denotes high low value := by
      rw [(List.cons.inj same).2] at short
      simp only [List.length_cons] at short
      omega
    induction source using decodeBytesBy.induct pair? with
    | case1 => exact .finished
    | case2 b => exact .keep (alone (by simp)) .finished
    | case3 b c => exact .keep (alone (by simp)) (.keep (alone (by simp)) .finished)
    | case4 high low rest value read ih =>
      rw [decodeBytesBy_percent_of_some read]
      exact .escape (reads.mp read) ih
    | case5 high low rest none ih =>
      rw [decodeBytesBy, if_pos rfl, none]
      refine .keep ?_ ih
      rintro _ _ value _ ⟨⟩ number
      rw [reads.mpr number] at none
      cases none
    | case6 b high low rest different ih =>
      rw [decodeBytesBy_cons_of_ne different]
      exact .keep (fun _ _ _ _ same => absurd (List.cons.inj same).1 different) ih

end

/-! ## Signs in place of digits -/

/-- Whether a percent sign, a plus sign and a hexadecimal digit stand together in bytes. -/
def HoldsSign (source : List UInt8) : Prop := ∃ value digit, IsDigitOf value digit ∧ [37, 43, digit] <:+: source

theorem holdsSign_cons {b : UInt8} {rest : List UInt8} : HoldsSign (b :: rest) ↔
    (b = 37 ∧ ∃ value digit more, IsDigitOf value digit ∧ rest = 43 :: digit :: more) ∨ HoldsSign rest := by
  constructor
  · rintro ⟨value, digit, isDigit, infix_⟩
    rcases List.infix_cons_iff.mp infix_ with ⟨more, same⟩ | further
    · obtain ⟨rfl, behind⟩ := List.cons.inj same
      exact .inl ⟨rfl, value, digit, more, isDigit, behind.symm⟩
    · exact .inr ⟨value, digit, isDigit, further⟩
  · rintro (⟨rfl, value, digit, more, isDigit, rfl⟩ | ⟨value, digit, isDigit, further⟩)
    · exact ⟨value, digit, isDigit, [], more, rfl⟩
    · exact ⟨value, digit, isDigit, List.infix_cons_iff.mpr (.inr further)⟩

theorem holdsSign_cons_of_ne {b : UInt8} {rest : List UInt8} (different : b ≠ 37) :
    HoldsSign (b :: rest) ↔ HoldsSign rest := by
  rw [holdsSign_cons, or_iff_right fun here => different here.1]

/-- Digits behind a percent sign are no place for a sign. -/
theorem holdsSign_escape {high low value : UInt8} {rest : List UInt8} (digits : DigitsDenote high low value) :
    HoldsSign (37 :: high :: low :: rest) ↔ HoldsSign rest := by
  obtain ⟨front, back, digitFront, digitBack, -⟩ := digits
  rw [holdsSign_cons, or_iff_right, holdsSign_cons_of_ne digitFront.ne.1, holdsSign_cons_of_ne digitBack.ne.1]
  rintro ⟨-, _, _, _, -, same⟩
  exact digitFront.ne.2 (List.cons.inj same).1

/-- What does not begin with a number that a plus sign may begin holds a sign further behind. -/
theorem holdsSign_keep {b : UInt8} {rest : List UInt8}
    (plain : ∀ high low value more, b :: rest = 37 :: high :: low :: more → ¬ NumberDenotes high low value) :
    HoldsSign (b :: rest) ↔ HoldsSign rest := by
  rw [holdsSign_cons, or_iff_right]
  rintro ⟨rfl, value, digit, more, isDigit, rfl⟩
  refine plain 43 digit (UInt8.ofNat value) more rfl (.inr ⟨rfl, ?_⟩)
  rwa [Utf8.toNat_ofNat (by have := isDigit.1; omega)]

/-- Whether the two ways to read numbers give the same if no sign stands for a digit, and if one does, taking signs for
digits loses a percent sign. -/
def ShowsSigns (source : List UInt8) : Prop :=
  ¬ HoldsSign source ∧ decodeBytesBy signedPair? source = decodeBytesBy digitPair? source ∨
    HoldsSign source ∧ (decodeBytesBy signedPair? source).count 37 < (decodeBytesBy digitPair? source).count 37

namespace ShowsSigns

variable {high low value b : UInt8} {rest : List UInt8}

/-- Both ways to read numbers go on behind the same byte. -/
theorem of_same {source : List UInt8} (behind : ShowsSigns rest) (holds : HoldsSign source ↔ HoldsSign rest)
    (signed : decodeBytesBy signedPair? source = b :: decodeBytesBy signedPair? rest)
    (digital : decodeBytesBy digitPair? source = b :: decodeBytesBy digitPair? rest) : ShowsSigns source := by
  rw [ShowsSigns, holds, signed, digital, List.count_cons, List.count_cons]
  exact behind.imp (And.imp_right (congrArg _)) (And.imp_right (Nat.add_lt_add_right · _))

theorem digits (behind : ShowsSigns rest) (denotes : DigitsDenote high low value) :
    ShowsSigns (37 :: high :: low :: rest) :=
  behind.of_same (holdsSign_escape denotes)
    (decodeBytesBy_percent_of_some (signedPair?_eq_some_iff.mpr (.inl denotes)))
    (decodeBytesBy_percent_of_some (digitPair?_eq_some_iff.mpr denotes))

theorem keep (behind : ShowsSigns rest)
    (plain : ∀ high low value more, b :: rest = 37 :: high :: low :: more → ¬ NumberDenotes high low value) :
    ShowsSigns (b :: rest) :=
  behind.of_same (holdsSign_keep plain) (decodeBytesBy_keep signedPair?_eq_some_iff plain)
    (decodeBytesBy_keep digitPair?_eq_some_iff fun high low value more same denotes =>
      plain high low value more same (.inl denotes))

/-- A sign for a digit takes a percent sign away, which the scan for digits keeps. -/
theorem sign (behind : ShowsSigns rest) (digit : IsDigitOf value.toNat low) : ShowsSigns (37 :: 43 :: low :: rest) := by
  have noDigits : digitPair? 43 low = none := by
    refine Option.eq_none_iff_forall_ne_some.mpr fun other read => ?_
    obtain ⟨front, -, digitFront, -⟩ := digitPair?_eq_some_iff.mp read
    exact digitFront.ne.2 rfl
  have kept : decodeBytesBy digitPair? (37 :: 43 :: low :: rest) = 37 :: 43 :: low :: decodeBytesBy digitPair? rest := by
    rw [decodeBytesBy, if_pos rfl, noDigits, decodeBytesBy_cons_of_ne (by decide), decodeBytesBy_cons_of_ne digit.ne.1]
  have taken : decodeBytesBy signedPair? (37 :: 43 :: low :: rest) = value :: decodeBytesBy signedPair? rest :=
    decodeBytesBy_percent_of_some (signedPair?_eq_some_iff.mpr (.inr ⟨rfl, digit⟩))
  have lost : value ≠ 37 := by
    rintro rfl
    exact absurd digit.1 (by decide)
  refine .inr ⟨holdsSign_cons.mpr (.inl ⟨rfl, _, low, rest, digit, rfl⟩), ?_⟩
  rw [kept, taken, List.count_cons_of_ne lost, List.count_cons_self, List.count_cons_of_ne (by decide),
    List.count_cons_of_ne digit.ne.1]
  rcases behind with ⟨-, same⟩ | ⟨-, fewer⟩
  · rw [same]
    exact Nat.lt_succ_self _
  · exact Nat.lt_succ_of_lt fewer

end ShowsSigns

theorem showsSigns (source : List UInt8) : ShowsSigns source := by
  -- Induction on the scan in which a plus sign and one digit denote a byte as well.
  obtain ⟨decoded, scans⟩ : ∃ decoded, Scans NumberDenotes source decoded :=
    ⟨_, (scans_iff signedPair?_eq_some_iff).mpr rfl⟩
  induction scans with
  | finished => exact .inl ⟨fun ⟨_, _, _, infix_⟩ => absurd (List.infix_nil.mp infix_) (List.cons_ne_nil _ _), rfl⟩
  | escape number behind ih =>
    rcases number with denotes | ⟨rfl, digit⟩
    · exact ih.digits denotes
    · exact ih.sign digit
  | keep plain behind ih => exact ih.keep plain

/-- Decoding is the scan in which hexadecimal digits and a plus sign with one digit denote bytes. It gives what the scan
for digits alone gives exactly if no percent sign, plus sign and digit stand together. -/
theorem percentDecode_scans (text : String) :
    (∃ decoded, Scans NumberDenotes (bytes text) decoded ∧ percentDecode text = decodeLossy decoded) ∧
      ∃ decoded, (∀ other, Scans DigitsDenote (bytes text) other ↔ other = decoded) ∧
        (percentDecode text = decodeLossy decoded ↔ ¬ HoldsSign (bytes text)) := by
  refine ⟨⟨_, (scans_iff signedPair?_eq_some_iff).mpr rfl, rfl⟩, decodeBytesBy digitPair? (bytes text),
    fun other => scans_iff digitPair?_eq_some_iff, ?_⟩
  rw [percentDecode]
  rcases showsSigns (bytes text) with ⟨free, same⟩ | ⟨holds, fewer⟩
  · exact iff_of_true (congrArg decodeLossy same) free
  · refine iff_of_false (fun same => ?_) (not_not_intro holds)
    rw [Utf8.decodeLossy_eq, Utf8.decodeLossy_eq, String.ofList_inj] at same
    have percent : UInt8.ofNat '%'.toNat = 37 := rfl
    have counts := congrArg (List.count '%') same
    rw [Utf8.count_lossy (by decide), Utf8.count_lossy (by decide), percent] at counts
    omega

/-- A plus sign and a digit are taken for a byte, although they are kept by the scan for digits. -/
theorem percentDecode_takes_sign :
    percentDecode "%+4" = "\x04" ∧ Scans DigitsDenote (bytes "%+4") (bytes "%+4") ∧
      ¬ ∀ text decoded, Scans DigitsDenote (bytes text) decoded → percentDecode text = decodeLossy decoded := by
  have scans : Scans DigitsDenote (bytes "%+4") (bytes "%+4") := (scans_iff digitPair?_eq_some_iff).mpr (by decide)
  refine ⟨by decide +kernel, scans, fun every => ?_⟩
  have kept := every _ _ scans
  revert kept
  decide +kernel

end JsonSchema.Url
