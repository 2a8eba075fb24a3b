import JsonSchema.Pattern
import Mathlib.Data.List.Basic

/-! # Shorthands in patterns

A source is a sequence of escapes and plain characters (`Pattern.tokens`), and each of them stands inside or outside a
class (`Pattern.placed`). Writing shorthands out acts on each token alone (`Pattern.tokens_translate`): every shorthand
becomes its set of ASCII characters, except that a complement inside a class stays, and all else is unchanged and in
order. So a shorthand is left exactly where a complement stands inside a class (`Pattern.shorthands_translate`).
-/

namespace JsonSchema.Pattern

/-! ## Tokens -/

/-- An escape or a plain character; a backslash at the end is plain. -/
inductive Token where
  | plain (c : Char)
  | escaped (c : Char)
  deriving DecidableEq

/-- The tokens of a source. -/
def tokens : List Char → List Token
  | [] => []
  | ['\\'] => [.plain '\\']
  | '\\' :: c :: rest => .escaped c :: tokens rest
  | c :: rest => .plain c :: tokens rest

/-- The characters of a token. -/
def Token.chars : Token → List Char
  | .plain c => [c]
  | .escaped c => ['\\', c]

/-- Whether a token is one of the four shorthands. -/
def Token.IsShorthand (token : Token) : Prop := token ∈ ['d', 'D', 'w', 'W'].map .escaped

instance (token : Token) : Decidable token.IsShorthand := inferInstanceAs (Decidable (_ ∈ _))

/-- Whether a shorthand stands for the characters that are not in its set. -/
def Token.IsComplement (token : Token) : Prop := token = .escaped 'D' ∨ token = .escaped 'W'

instance (token : Token) : Decidable token.IsComplement := inferInstanceAs (Decidable (_ ∨ _))

/-- The ASCII characters in the set of a shorthand, as they are written inside a class. -/
def Token.members : Token → String
  | .escaped c => if c = 'd' ∨ c = 'D' then "0-9" else "A-Za-z0-9_"
  | .plain _ => ""

/-- Whether what stands behind a token is inside a class. -/
def Token.isInsideAfter (inside : Bool) : Token → Bool
  | .plain '[' => true
  | .plain ']' => false
  | _ => inside

/-- Tokens, each with whether it stands inside a class. -/
def placed (inside : Bool) : List Token → List (Bool × Token)
  | [] => []
  | token :: rest => (inside, token) :: placed (token.isInsideAfter inside) rest

/-- What becomes of a token: a shorthand is written out as a class, or as its members inside one; a complement inside a
class has no such form. -/
def Token.writtenOut (inside : Bool) (token : Token) : List Token :=
  if ¬ token.IsShorthand ∨ inside = true ∧ token.IsComplement then [token]
  else (if inside then token.members
    else "[" ++ (if token.IsComplement then "^" else "") ++ token.members ++ "]").toList.map .plain

theorem tokens_cons {c : Char} (different : c ≠ '\\') (rest : List Char) :
    tokens (c :: rest) = .plain c :: tokens rest := by
  rw [tokens]
  all_goals simp_all

/-- Nothing is lost: the characters of the tokens are the source. -/
theorem flatMap_chars_tokens (source : List Char) : (tokens source).flatMap Token.chars = source := by
  induction source using tokens.induct with
  | case1 => rfl
  | case2 => rfl
  | case3 c rest ih => simp [tokens, Token.chars, ih]
  | case4 c rest notLast notEscape ih =>
    have plain : tokens (c :: rest) = .plain c :: tokens rest := by
      rw [tokens]
      · exact notLast
      · exact notEscape
    simp [plain, Token.chars, ih]

theorem tokens_append_of_notMem {text : List Char} (noBackslash : '\\' ∉ text) (rest : List Char) :
    tokens (text ++ rest) = text.map .plain ++ tokens rest := by
  induction text with
  | nil => rfl
  | cons c text ih =>
    obtain ⟨first, others⟩ := not_or.mp (mt List.mem_cons.mpr noBackslash)
    rw [List.cons_append, tokens_cons (Ne.symm first), ih others, List.map_cons, List.cons_append]

theorem mem_of_mem_placed {inside place : Bool} {token : Token} {all : List Token}
    (member : (place, token) ∈ placed inside all) : token ∈ all := by
  induction all generalizing inside with
  | nil => exact absurd member List.not_mem_nil
  | cons first rest ih =>
    rcases List.mem_cons.mp member with same | member
    · rw [(Prod.mk.inj same).2]
      exact List.mem_cons_self
    · exact List.mem_cons_of_mem _ (ih member)

theorem map_snd_placed (inside : Bool) (all : List Token) : (placed inside all).map (·.2) = all := by
  induction all generalizing inside with
  | nil => rfl
  | cons first rest ih => rw [placed, List.map_cons, ih]

/-! ## Single tokens -/

theorem isShorthand_iff {token : Token} : token.IsShorthand ↔
    token = .escaped 'd' ∨ token = .escaped 'D' ∨ token = .escaped 'w' ∨ token = .escaped 'W' := by
  simp [Token.IsShorthand]

theorem writtenOut_of_not_isShorthand {token : Token} (inside : Bool) (other : ¬ token.IsShorthand) :
    token.writtenOut inside = [token] := if_pos (.inl other)

theorem writtenOut_of_isComplement {token : Token} (complement : token.IsComplement) :
    token.writtenOut true = [token] := if_pos (.inr ⟨rfl, complement⟩)

/-- A shorthand that is written out leaves plain characters, and more than one. -/
theorem exists_writtenOut {token : Token} {inside : Bool} (shorthand : token.IsShorthand)
    (written : ¬ (inside = true ∧ token.IsComplement)) :
    ∃ text : List Char, token.writtenOut inside = text.map .plain ∧ 2 < text.length := by
  rw [isShorthand_iff] at shorthand
  cases inside with
  | false => rcases shorthand with rfl | rfl | rfl | rfl <;> exact ⟨_, rfl, by decide⟩
  | true =>
    rcases shorthand with rfl | rfl | rfl | rfl
    · exact ⟨_, rfl, by decide⟩
    · exact absurd ⟨rfl, .inl rfl⟩ written
    · exact ⟨_, rfl, by decide⟩
    · exact absurd ⟨rfl, .inr rfl⟩ written

/-- A shorthand is left of a token only if the token is a complement inside a class. -/
theorem isShorthand_of_mem_writtenOut {token left : Token} {inside : Bool} (member : left ∈ token.writtenOut inside)
    (shorthand : left.IsShorthand) : left = token ∧ inside = true ∧ token.IsComplement := by
  by_cases own : token.IsShorthand
  · by_cases stays : inside = true ∧ token.IsComplement
    · obtain ⟨rfl, complement⟩ := stays
      rw [writtenOut_of_isComplement complement] at member
      exact ⟨List.mem_singleton.mp member, rfl, complement⟩
    · obtain ⟨text, same, -⟩ := exists_writtenOut own stays
      rw [same] at member
      obtain ⟨c, -, rfl⟩ := List.mem_map.mp member
      rw [isShorthand_iff] at shorthand
      simp at shorthand
  · rw [writtenOut_of_not_isShorthand inside own] at member
    obtain rfl := List.mem_singleton.mp member
    exact absurd shorthand own

/-- The expansions are the sets of the shorthands. -/
theorem writtenOut_escaped (inside : Bool) (c : Char) : (Token.escaped c).writtenOut inside =
    match expansion? inside c with
    | some text => text.toList.map .plain
    | none => [.escaped c] := by
  by_cases shorthand : (Token.escaped c).IsShorthand
  · rw [isShorthand_iff] at shorthand
    simp only [Token.escaped.injEq] at shorthand
    rcases shorthand with rfl | rfl | rfl | rfl <;> cases inside <;> rfl
  · rw [writtenOut_of_not_isShorthand inside shorthand]
    simp only [isShorthand_iff, Token.escaped.injEq, not_or] at shorthand
    have none : expansion? inside c = none := by
      unfold expansion?
      split <;> simp_all
    rw [none]

theorem notMem_of_expansion? {inside : Bool} {c : Char} {text : String} (expands : expansion? inside c = some text) :
    '\\' ∉ text.toList := by
  unfold expansion? at expands
  split at expands
  case h_7 => cases expands
  all_goals
    obtain rfl := Option.some.inj expands
    decide

/-! ## Whole sources -/

theorem isInsideAfter_plain (inside : Bool) (c : Char) : (Token.plain c).isInsideAfter inside =
    if !inside && c == '[' then true else if inside && c == ']' then false else inside := by
  unfold Token.isInsideAfter
  split
  · next same =>
    obtain rfl := Token.plain.inj same
    cases inside <;> rfl
  · next same =>
    obtain rfl := Token.plain.inj same
    cases inside <;> rfl
  · next notOpen notClose =>
    have noOpen : c ≠ '[' := fun same => notOpen (same ▸ rfl)
    have noClose : c ≠ ']' := fun same => notClose (same ▸ rfl)
    simp [noOpen, noClose]

theorem tokens_translateFrom (inside : Bool) (source : List Char) : tokens (translateFrom inside source) =
    (placed inside (tokens source)).flatMap fun entry => entry.2.writtenOut entry.1 := by
  induction inside, source using translateFrom.induct with
  | case1 => rfl
  | case2 inside => cases inside <;> rfl
  | case3 inside c rest ih =>
    rw [translateFrom, tokens, placed, List.flatMap_cons, writtenOut_escaped]
    dsimp only [Token.isInsideAfter]
    rw [← ih]
    cases expands : expansion? inside c with
    | none => rfl
    | some text => exact tokens_append_of_notMem (notMem_of_expansion? expands) _
  | case4 inside c rest notLast notEscape next ih =>
    have different : c ≠ '\\' := by
      rintro rfl
      rcases rest with - | ⟨d, rest⟩
      · exact notLast rfl rfl
      · exact notEscape d rest rfl rfl
    have other : ¬ (Token.plain c).IsShorthand := by simp [isShorthand_iff]
    have step : translateFrom inside (c :: rest) = c :: translateFrom next rest := by
      rw [translateFrom]
      · exact notLast
      · exact notEscape
    rw [step, tokens_cons different, tokens_cons different, placed, List.flatMap_cons,
      writtenOut_of_not_isShorthand _ other, ih, isInsideAfter_plain, List.singleton_append]

/-- Each token of a source is written out on its own. -/
theorem tokens_translate (source : String) : tokens (translate source).toList =
    (placed false (tokens source.toList)).flatMap fun entry => entry.2.writtenOut entry.1 := by
  rw [translate, String.toList_ofList, tokens_translateFrom]

/-- What is left of a source are its complements inside classes. -/
theorem mem_tokens_translate_iff {source : String} {token : Token} (shorthand : token.IsShorthand) :
    token ∈ tokens (translate source).toList ↔
      token.IsComplement ∧ (true, token) ∈ placed false (tokens source.toList) := by
  rw [tokens_translate, List.mem_flatMap]
  constructor
  · rintro ⟨⟨inside, origin⟩, member, left⟩
    obtain ⟨rfl, rfl, complement⟩ := isShorthand_of_mem_writtenOut left shorthand
    exact ⟨complement, member⟩
  · rintro ⟨complement, member⟩
    exact ⟨_, member, by rw [writtenOut_of_isComplement complement]; exact List.mem_cons_self⟩

theorem translate_eq_of_forall {source : String} (none : ∀ token ∈ tokens source.toList, ¬ token.IsShorthand) :
    translate source = source := by
  rw [← String.toList_inj, ← flatMap_chars_tokens (translate source).toList, tokens_translate]
  have unchanged : (placed false (tokens source.toList)).flatMap (fun entry => entry.2.writtenOut entry.1) =
      (placed false (tokens source.toList)).flatMap fun entry => [entry.2] :=
    List.flatMap_congr fun entry member =>
      writtenOut_of_not_isShorthand _ (none _ (mem_of_mem_placed member))
  rw [unchanged, ← List.map_eq_flatMap, map_snd_placed, flatMap_chars_tokens]

/-- Writing shorthands out keeps the tokens of a source in order and acts on each of them alone: all but the four
shorthands are unchanged, and a shorthand becomes its set of ASCII characters unless it is a complement inside a class.
So the shorthands that are left are these complements, and a source without shorthands is unchanged. -/
theorem shorthands_translate (source : String) :
    tokens (translate source).toList =
      (placed false (tokens source.toList)).flatMap (fun entry => entry.2.writtenOut entry.1) ∧
    (placed false (tokens source.toList)).map (·.2) = tokens source.toList ∧
    (∀ token : Token, token.IsShorthand → (token ∈ tokens (translate source).toList ↔
      token.IsComplement ∧ (true, token) ∈ placed false (tokens source.toList))) ∧
    ((∀ token ∈ tokens source.toList, ¬ token.IsShorthand) → translate source = source) :=
  ⟨tokens_translate source, map_snd_placed _ _, fun _ shorthand => mem_tokens_translate_iff shorthand,
    translate_eq_of_forall⟩

/-- A complement stays inside a class, where the expression takes it for the complement of a set beyond ASCII. -/
theorem complement_stays_in_class :
    translate "^[\\D]$" = "^[\\D]$" ∧ Token.escaped 'D' ∈ tokens (translate "^[\\D]$").toList ∧
      ¬ ∀ (source : String) (token : Token), token.IsShorthand → token ∉ tokens (translate source).toList := by
  have stays : Token.escaped 'D' ∈ tokens (translate "^[\\D]$").toList := by decide
  exact ⟨by decide, stays, fun every => every "^[\\D]$" (.escaped 'D') (by decide) stays⟩

/-- Brackets that are escaped open and close no class. -/
example : translate "\\[\\D[a\\]\\w]\\d\\\\d" = "\\[[^0-9][a\\]A-Za-z0-9_][0-9]\\\\d" := by decide

end JsonSchema.Pattern
