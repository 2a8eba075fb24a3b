import JsonSchema.Text.Utf8
import Mathlib.Data.List.Basic

/-! # Reading UTF-8 back

The bytes of a text are read back as the text (`Utf8.decodeLossy_bytes`), whatever stands behind them
(`Utf8.lossy_encodeChar_append`). A byte in front of others adds at most one character to what is read, whatever it
makes of them (`Utf8.length_lossy_cons_le`), since the bytes that it takes along begin no character themselves. No ASCII
character is lost or made up on the way (`Utf8.count_lossy`).
-/

namespace JsonSchema.Utf8

/-! ## The bytes of a character -/

theorem toNat_ofNat {n : Nat} (small : n < 256) : (UInt8.ofNat n).toNat = n := by
  rw [UInt8.toNat_ofNat', Nat.mod_eq_of_lt small]

section

variable {a b c d : UInt8} {n : Nat} (rest : List UInt8)

theorem isContinuation_iff : isContinuation b = true ↔ 0x80 ≤ b.toNat ∧ b.toNat ≤ 0xBF := by
  simp [isContinuation, UInt8.le_iff_toNat_le]

theorem next_of_one (first : a.toNat < 0x80) : next (a :: rest) = .char (Char.ofNat a.toNat) rest := by
  simp [next, UInt8.lt_iff_toNat_lt, first]

theorem next_of_two (lower : 0xC2 ≤ a.toNat) (upper : a.toNat < 0xE0) : next (a :: rest) = nextOfTwo a rest := by
  simp only [next, UInt8.lt_iff_toNat_lt, UInt8.reduceToNat]
  rw [if_neg (by omega), if_neg (by omega), if_pos upper]

theorem next_of_three (lower : 0xE0 ≤ a.toNat) (upper : a.toNat < 0xF0) : next (a :: rest) = nextOfThree a rest := by
  simp only [next, UInt8.lt_iff_toNat_lt, UInt8.reduceToNat]
  rw [if_neg (by omega), if_neg (by omega), if_neg (by omega), if_pos upper]

theorem next_of_four (lower : 0xF0 ≤ a.toNat) (upper : a.toNat < 0xF5) : next (a :: rest) = nextOfFour a rest := by
  simp only [next, UInt8.lt_iff_toNat_lt, UInt8.reduceToNat]
  rw [if_neg (by omega), if_neg (by omega), if_neg (by omega), if_neg (by omega), if_pos upper]

theorem next_two_bytes (first : a.toNat = 0xC0 + n / 64) (second : b.toNat = 0x80 + n % 64)
    (lower : 0x80 ≤ n) (upper : n < 0x800) : next (a :: b :: rest) = .char (Char.ofNat n) rest := by
  have continues : isContinuation b = true := isContinuation_iff.mpr (by omega)
  have value : a.toNat % 32 * 64 + b.toNat % 64 = n := by omega
  rw [next_of_two _ (by omega) (by omega)]
  simp [nextOfTwo, continues, payload, value]

theorem next_three_bytes (first : a.toNat = 0xE0 + n / 4096) (second : b.toNat = 0x80 + n / 64 % 64)
    (third : c.toNat = 0x80 + n % 64) (lower : 0x800 ≤ n) (upper : n < 0x10000)
    (noSurrogate : n < 0xD800 ∨ 0xDFFF < n) : next (a :: b :: c :: rest) = .char (Char.ofNat n) rest := by
  have allowed : secondOfThree a b = true := by
    simp only [secondOfThree, isContinuation, ← UInt8.toNat_inj, UInt8.le_iff_toNat_le, UInt8.reduceToNat]
    split
    · simp; omega
    · split
      · simp; omega
      · simp; omega
  have continues : isContinuation c = true := isContinuation_iff.mpr (by omega)
  have value : a.toNat % 16 * 4096 + b.toNat % 64 * 64 + c.toNat % 64 = n := by omega
  rw [next_of_three _ (by omega) (by omega)]
  simp [nextOfThree, allowed, continues, payload, value]

theorem next_four_bytes (first : a.toNat = 0xF0 + n / 262144) (second : b.toNat = 0x80 + n / 4096 % 64)
    (third : c.toNat = 0x80 + n / 64 % 64) (fourth : d.toNat = 0x80 + n % 64) (lower : 0x10000 ≤ n)
    (upper : n < 0x110000) : next (a :: b :: c :: d :: rest) = .char (Char.ofNat n) rest := by
  have allowed : secondOfFour a b = true := by
    simp only [secondOfFour, isContinuation, ← UInt8.toNat_inj, UInt8.le_iff_toNat_le, UInt8.reduceToNat]
    split
    · simp; omega
    · split
      · simp; omega
      · simp; omega
  have continuesThird : isContinuation c = true := isContinuation_iff.mpr (by omega)
  have continuesFourth : isContinuation d = true := isContinuation_iff.mpr (by omega)
  have value : a.toNat % 8 * 262144 + b.toNat % 64 * 4096 + c.toNat % 64 * 64 + d.toNat % 64 = n := by omega
  rw [next_of_four _ (by omega) (by omega)]
  simp [nextOfFour, allowed, continuesThird, continuesFourth, payload, value]

end

/-- The first character of bytes is the one whose bytes stand in front. -/
theorem next_encodeChar (c : Char) (rest : List UInt8) : next (encodeChar c ++ rest) = .char c rest := by
  have bounds : c.toNat < 0xD800 ∨ 0xDFFF < c.toNat ∧ c.toNat < 0x110000 := c.valid
  rw [← Char.ofNat_toNat c]
  generalize written : c.toNat = n at bounds
  have same : (Char.ofNat n).toNat = n := by rw [← written, Char.ofNat_toNat]
  simp only [encodeChar, same]
  split
  · rw [List.singleton_append, next_of_one _ (by rw [toNat_ofNat] <;> omega), toNat_ofNat (by omega)]
  · split
    · exact next_two_bytes _ (toNat_ofNat (by omega)) (toNat_ofNat (by omega)) (by omega) (by omega)
    · split
      · exact next_three_bytes _ (toNat_ofNat (by omega)) (toNat_ofNat (by omega)) (toNat_ofNat (by omega)) (by omega)
          (by omega) (by omega)
      · exact next_four_bytes _ (toNat_ofNat (by omega)) (toNat_ofNat (by omega)) (toNat_ofNat (by omega))
          (toNat_ofNat (by omega)) (by omega) (by omega)

theorem encodeChar_ne_nil (c : Char) : encodeChar c ≠ [] := by
  rw [encodeChar]
  split
  · exact List.cons_ne_nil _ _
  · split
    · exact List.cons_ne_nil _ _
    · split <;> exact List.cons_ne_nil _ _

/-! ## What a first byte takes along -/

/-- What reading some bytes leaves, given those behind the first: the bytes that it takes along continue characters. -/
def Step.TakesAlong (behind : List UInt8) : Step → Prop
  | .finished => False
  | .char _ rest => ∃ taken, behind = taken ++ rest ∧ ∀ b ∈ taken, isContinuation b = true
  | .invalid _ rest => ∃ taken, behind = taken ++ rest ∧ ∀ b ∈ taken, isContinuation b = true
  | .incomplete => True

theorem isContinuation_of_secondOfThree {a b : UInt8} (allowed : secondOfThree a b = true) :
    isContinuation b = true := by
  rw [isContinuation_iff]
  simp only [secondOfThree, isContinuation, UInt8.le_iff_toNat_le, UInt8.reduceToNat] at allowed
  split at allowed
  · simp at allowed; omega
  · split at allowed
    · simp at allowed; omega
    · simp at allowed; omega

theorem isContinuation_of_secondOfFour {a b : UInt8} (allowed : secondOfFour a b = true) :
    isContinuation b = true := by
  rw [isContinuation_iff]
  simp only [secondOfFour, isContinuation, UInt8.le_iff_toNat_le, UInt8.reduceToNat] at allowed
  split at allowed
  · simp at allowed; omega
  · split at allowed
    · simp at allowed; omega
    · simp at allowed; omega

theorem takesAlong_nextOfTwo (a : UInt8) (behind : List UInt8) : (nextOfTwo a behind).TakesAlong behind := by
  rcases behind with - | ⟨b, rest⟩
  · trivial
  · rw [nextOfTwo]
    split
    · next second => exact ⟨[b], rfl, by simpa using second⟩
    · exact ⟨[], rfl, by simp⟩

theorem takesAlong_nextOfThree (a : UInt8) (behind : List UInt8) : (nextOfThree a behind).TakesAlong behind := by
  rcases behind with - | ⟨b, rest⟩
  · trivial
  · dsimp only [nextOfThree]
    split
    · next second =>
      have second := isContinuation_of_secondOfThree second
      rcases rest with - | ⟨c, rest⟩
      · trivial
      · dsimp only
        split
        · next third => exact ⟨[b, c], rfl, by simp [second, third]⟩
        · exact ⟨[b], rfl, by simpa using second⟩
    · exact ⟨[], rfl, by simp⟩

theorem takesAlong_nextOfFour (a : UInt8) (behind : List UInt8) : (nextOfFour a behind).TakesAlong behind := by
  rcases behind with - | ⟨b, rest⟩
  · trivial
  · dsimp only [nextOfFour]
    split
    · next second =>
      have second := isContinuation_of_secondOfFour second
      rcases rest with - | ⟨c, rest⟩
      · trivial
      · dsimp only
        split
        · next third =>
          rcases rest with - | ⟨d, rest⟩
          · trivial
          · dsimp only
            split
            · next fourth => exact ⟨[b, c, d], rfl, by simp [second, third, fourth]⟩
            · exact ⟨[b, c], rfl, by simp [second, third]⟩
        · exact ⟨[b], rfl, by simpa using second⟩
    · exact ⟨[], rfl, by simp⟩

theorem takesAlong_next (a : UInt8) (behind : List UInt8) : (next (a :: behind)).TakesAlong behind := by
  rw [next]
  split
  · exact ⟨[], rfl, by simp⟩
  · split
    · exact ⟨[], rfl, by simp⟩
    · split
      · exact takesAlong_nextOfTwo a behind
      · split
        · exact takesAlong_nextOfThree a behind
        · split
          · exact takesAlong_nextOfFour a behind
          · exact ⟨[], rfl, by simp⟩

/-! ## Whole texts -/

/-- The characters that are read of bytes. -/
def lossy (bytes : List UInt8) : List Char := decodeLossyWithin bytes bytes.length

theorem decodeLossy_eq (bytes : List UInt8) : decodeLossy bytes = String.ofList (lossy bytes) := rfl

/-- As many characters as there are bytes are enough. -/
theorem decodeLossyWithin_eq {bytes : List UInt8} {fuel : Nat} (enough : bytes.length ≤ fuel) :
    decodeLossyWithin bytes fuel = lossy bytes := by
  induction fuel using Nat.strongRecOn generalizing bytes with
  | _ fuel ih =>
    rcases bytes with - | ⟨a, behind⟩
    · cases fuel <;> rfl
    · rw [List.length_cons] at enough
      obtain ⟨fuel, rfl⟩ : ∃ less, fuel = less + 1 := ⟨fuel - 1, by omega⟩
      have shorter {taken rest : List UInt8} (same : behind = taken ++ rest) : rest.length ≤ behind.length := by
        rw [same, List.length_append]
        omega
      have along := takesAlong_next a behind
      rw [lossy, List.length_cons, decodeLossyWithin, decodeLossyWithin]
      cases read : next (a :: behind) with
      | finished => rfl
      | incomplete => rfl
      | char c rest =>
        rw [read] at along
        obtain ⟨taken, same, -⟩ := along
        have short := shorter same
        dsimp only
        rw [ih fuel (by omega) (by omega), ih behind.length (by omega) short]
      | invalid count rest =>
        rw [read] at along
        obtain ⟨taken, same, -⟩ := along
        have short := shorter same
        dsimp only
        rw [ih fuel (by omega) (by omega), ih behind.length (by omega) short]

theorem lossy_of_char {bytes rest : List UInt8} {c : Char} (read : next bytes = .char c rest) :
    lossy bytes = c :: lossy rest := by
  rcases bytes with - | ⟨a, behind⟩
  · cases read
  · have along := takesAlong_next a behind
    rw [read] at along
    obtain ⟨taken, rfl, -⟩ := along
    rw [lossy, List.length_cons, decodeLossyWithin, read]
    exact congrArg _ (decodeLossyWithin_eq (by simp))

theorem lossy_of_invalid {bytes rest : List UInt8} {count : Nat} (read : next bytes = .invalid count rest) :
    lossy bytes = replacement :: lossy rest := by
  rcases bytes with - | ⟨a, behind⟩
  · cases read
  · have along := takesAlong_next a behind
    rw [read] at along
    obtain ⟨taken, rfl, -⟩ := along
    rw [lossy, List.length_cons, decodeLossyWithin, read]
    exact congrArg _ (decodeLossyWithin_eq (by simp))

/-- The bytes of a character are read as the character, whatever stands behind them. -/
theorem lossy_encodeChar_append (c : Char) (rest : List UInt8) : lossy (encodeChar c ++ rest) = c :: lossy rest :=
  lossy_of_char (next_encodeChar c rest)

theorem lossy_encode (text : List Char) : lossy (encode text) = text := by
  induction text with
  | nil => rfl
  | cons c text ih => rw [encode, List.flatMap_cons, lossy_encodeChar_append, ← encode, ih]

/-- The bytes of a text are read as the text. -/
theorem decodeLossy_bytes (text : String) : decodeLossy (bytes text) = text := by
  rw [decodeLossy_eq, bytes, lossy_encode, String.ofList_toList]

/-- Each byte that only continues characters is replaced on its own. -/
theorem length_lossy_append {taken : List UInt8} (continues : ∀ b ∈ taken, isContinuation b = true)
    (rest : List UInt8) : (lossy (taken ++ rest)).length = taken.length + (lossy rest).length := by
  induction taken with
  | nil => simp
  | cons b taken ih =>
    obtain ⟨first, others⟩ := List.forall_mem_cons.mp continues
    have bounds := isContinuation_iff.mp first
    have alone : next (b :: (taken ++ rest)) = .invalid 1 (taken ++ rest) := by
      simp only [next, UInt8.lt_iff_toNat_lt, UInt8.reduceToNat]
      rw [if_neg (by omega), if_pos (by omega)]
    rw [List.cons_append, lossy_of_invalid alone, List.length_cons, ih others, List.length_cons]
    omega

/-- A byte in front adds one character at most. -/
theorem length_lossy_cons_le (a : UInt8) (behind : List UInt8) :
    (lossy (a :: behind)).length ≤ (lossy behind).length + 1 := by
  have along := takesAlong_next a behind
  cases read : next (a :: behind) with
  | finished =>
    rw [read] at along
    exact along.elim
  | incomplete =>
    rw [lossy, List.length_cons, decodeLossyWithin, read]
    simp
  | char c rest =>
    rw [read] at along
    obtain ⟨taken, rfl, continues⟩ := along
    rw [lossy_of_char read, length_lossy_append continues, List.length_cons]
    omega
  | invalid count rest =>
    rw [read] at along
    obtain ⟨taken, rfl, continues⟩ := along
    rw [lossy_of_invalid read, length_lossy_append continues, List.length_cons]
    omega

/-! ## ASCII characters -/

theorem toNat_char_ofNat {n : Nat} (valid : n < 0xD800 ∨ 0xDFFF < n ∧ n < 0x110000) : (Char.ofNat n).toNat = n := by
  rw [Char.ofNat, dif_pos valid]
  rfl

/-- What reading bytes with a first one outside ASCII comes to, given those behind it: no ASCII character is read, and
no ASCII byte is cut off. -/
def Step.IsBeyondAscii (behind : List UInt8) : Step → Prop
  | .finished => False
  | .char c _ => 0x80 ≤ c.toNat
  | .invalid _ _ => True
  | .incomplete => ∀ b ∈ behind, isContinuation b = true

section

variable {a : UInt8} (behind : List UInt8)

theorem isBeyondAscii_nextOfTwo (lower : 0xC2 ≤ a.toNat) (upper : a.toNat < 0xE0) :
    (nextOfTwo a behind).IsBeyondAscii behind := by
  rcases behind with - | ⟨b, rest⟩
  · exact fun _ member => absurd member List.not_mem_nil
  · rw [nextOfTwo]
    split
    · have value : (Char.ofNat (a.toNat % 32 * 64 + payload b)).toNat = a.toNat % 32 * 64 + payload b :=
        toNat_char_ofNat (.inl (by simp only [payload]; omega))
      simp only [Step.IsBeyondAscii, value]
      omega
    · trivial

theorem isBeyondAscii_nextOfThree (lower : 0xE0 ≤ a.toNat) (upper : a.toNat < 0xF0) :
    (nextOfThree a behind).IsBeyondAscii behind := by
  rcases behind with - | ⟨b, rest⟩
  · exact fun _ member => absurd member List.not_mem_nil
  · dsimp only [nextOfThree]
    split
    · next second =>
      rcases rest with - | ⟨c, rest⟩
      · simpa [Step.IsBeyondAscii] using isContinuation_of_secondOfThree second
      · dsimp only
        split
        · have bounds : 0x800 ≤ a.toNat % 16 * 4096 + payload b * 64 + payload c ∧
              (a.toNat % 16 * 4096 + payload b * 64 + payload c < 0xD800 ∨
                0xDFFF < a.toNat % 16 * 4096 + payload b * 64 + payload c ∧
                  a.toNat % 16 * 4096 + payload b * 64 + payload c < 0x110000) := by
            simp only [payload, secondOfThree, isContinuation, ← UInt8.toNat_inj, UInt8.le_iff_toNat_le,
              UInt8.reduceToNat] at second ⊢
            split at second
            · simp at second; omega
            · split at second
              · simp at second; omega
              · simp at second; omega
          simp only [Step.IsBeyondAscii, toNat_char_ofNat bounds.2]
          omega
        · trivial
    · trivial

theorem isBeyondAscii_nextOfFour (lower : 0xF0 ≤ a.toNat) (upper : a.toNat < 0xF5) :
    (nextOfFour a behind).IsBeyondAscii behind := by
  rcases behind with - | ⟨b, rest⟩
  · exact fun _ member => absurd member List.not_mem_nil
  · dsimp only [nextOfFour]
    split
    · next second =>
      have continues := isContinuation_of_secondOfFour second
      rcases rest with - | ⟨c, rest⟩
      · simpa [Step.IsBeyondAscii] using continues
      · dsimp only
        split
        · next third =>
          rcases rest with - | ⟨d, rest⟩
          · simp [Step.IsBeyondAscii, continues, third]
          · dsimp only
            split
            · have bounds : 0x10000 ≤ a.toNat % 8 * 262144 + payload b * 4096 + payload c * 64 + payload d ∧
                  a.toNat % 8 * 262144 + payload b * 4096 + payload c * 64 + payload d < 0x110000 := by
                simp only [payload, secondOfFour, isContinuation, ← UInt8.toNat_inj, UInt8.le_iff_toNat_le,
                  UInt8.reduceToNat] at second ⊢
                split at second
                · simp at second; omega
                · split at second
                  · simp at second; omega
                  · simp at second; omega
              simp only [Step.IsBeyondAscii, toNat_char_ofNat (.inr ⟨by omega, bounds.2⟩)]
              omega
            · trivial
        · trivial
    · trivial

theorem isBeyondAscii_next (beyond : 0x80 ≤ a.toNat) : (next (a :: behind)).IsBeyondAscii behind := by
  have ranges : a.toNat < 0xC2 ∨ 0xC2 ≤ a.toNat ∧ a.toNat < 0xE0 ∨ 0xE0 ≤ a.toNat ∧ a.toNat < 0xF0 ∨
      0xF0 ≤ a.toNat ∧ a.toNat < 0xF5 ∨ 0xF5 ≤ a.toNat := by omega
  rcases ranges with low | ⟨lower, upper⟩ | ⟨lower, upper⟩ | ⟨lower, upper⟩ | high
  · simp only [next, UInt8.lt_iff_toNat_lt, UInt8.reduceToNat]
    rw [if_neg (by omega), if_pos low]
    trivial
  · rw [next_of_two behind lower upper]
    exact isBeyondAscii_nextOfTwo behind lower upper
  · rw [next_of_three behind lower upper]
    exact isBeyondAscii_nextOfThree behind lower upper
  · rw [next_of_four behind lower upper]
    exact isBeyondAscii_nextOfFour behind lower upper
  · simp only [next, UInt8.lt_iff_toNat_lt, UInt8.reduceToNat]
    rw [if_neg (by omega), if_neg (by omega), if_neg (by omega), if_neg (by omega), if_neg (by omega)]
    trivial

end

/-- An ASCII character is read as often as its byte occurs. -/
theorem count_lossy {c : Char} (ascii : c.toNat < 0x80) (bytes : List UInt8) :
    (lossy bytes).count c = bytes.count (UInt8.ofNat c.toNat) := by
  have own : (UInt8.ofNat c.toNat).toNat = c.toNat := toNat_ofNat (by omega)
  have other {b : UInt8} (beyond : 0x80 ≤ b.toNat) : b ≠ UInt8.ofNat c.toNat := by
    rintro rfl
    omega
  have none {taken : List UInt8} (continues : ∀ b ∈ taken, isContinuation b = true) :
      taken.count (UInt8.ofNat c.toNat) = 0 :=
    List.count_eq_zero_of_not_mem fun member => other (isContinuation_iff.mp (continues _ member)).1 rfl
  have notReplaced : replacement ≠ c := by
    rintro rfl
    revert ascii
    decide
  induction length : bytes.length using Nat.strongRecOn generalizing bytes with
  | _ n ih =>
    subst length
    rcases bytes with - | ⟨a, behind⟩
    · rfl
    · by_cases first : a.toNat < 0x80
      · rw [lossy_of_char (next_of_one behind first), List.count_cons, List.count_cons, ih _ (by simp) behind rfl]
        have same : Char.ofNat a.toNat = c ↔ a = UInt8.ofNat c.toNat := by
          rw [← UInt8.toNat_inj, own, ← Char.toNat_inj, toNat_char_ofNat (.inl (by omega))]
        simp [same]
      · have beyond := isBeyondAscii_next behind (Nat.not_lt.mp first)
        have along := takesAlong_next a behind
        have shorter (taken rest : List UInt8) : rest.length < (a :: (taken ++ rest)).length := by
          rw [List.length_cons, List.length_append]
          omega
        rw [List.count_cons_of_ne (other (Nat.not_lt.mp first))]
        cases read : next (a :: behind) with
        | finished =>
          rw [read] at beyond
          exact beyond.elim
        | incomplete =>
          rw [read] at beyond
          rw [lossy, List.length_cons, decodeLossyWithin, read, none beyond]
          exact List.count_eq_zero_of_not_mem fun member => notReplaced (List.mem_singleton.mp member).symm
        | char d rest =>
          rw [read] at along beyond
          obtain ⟨taken, rfl, continues⟩ := along
          have different : d ≠ c := by
            rintro rfl
            exact absurd ascii (Nat.not_lt.mpr beyond)
          rw [lossy_of_char read, List.count_cons_of_ne different, ih _ (shorter taken rest) rest rfl, List.count_append,
            none continues, Nat.zero_add]
        | invalid count rest =>
          rw [read] at along
          obtain ⟨taken, rfl, continues⟩ := along
          rw [lossy_of_invalid read, List.count_cons_of_ne notReplaced, ih _ (shorter taken rest) rest rfl,
            List.count_append, none continues, Nat.zero_add]

end JsonSchema.Utf8
