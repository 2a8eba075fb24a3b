import JsonSchema.Pointer
import Mathlib.Data.List.Basic

/-! # Texts of pointers

Pointers and their texts correspond one to one: a text is read as a pointer exactly if the pointer is written as that
text (`Pointer.parse_eq_ok_iff`), and the texts that are read are those that are empty or start with a slash and have a
zero or a one behind every tilde (`Pointer.parse_text_exact`). Writing replaces tildes before slashes, reading cuts at
the slashes before it looks at tildes; both are the same on every token (`Pointer.escape_eq_replaceAll`,
`Pointer.unescape?_eq_some_iff`).
-/

namespace JsonSchema

/-! ## Pieces between separators -/

section

variable {α : Type _} [DecidableEq α] {separator : α} {text : List α}

theorem splitList_cons_self (separator : α) (text : List α) :
    splitList separator (separator :: text) = [] :: splitList separator text := by
  rw [splitList, if_pos rfl]

/-- A first character that does not separate belongs to the first piece. -/
theorem exists_splitList_cons_of_ne {first : α} (different : first ≠ separator) (text : List α) :
    ∃ piece pieces, splitList separator text = piece :: pieces ∧
      splitList separator (first :: text) = (first :: piece) :: pieces := by
  obtain ⟨piece, pieces, pieced⟩ := List.exists_cons_of_ne_nil (splitList_ne_nil separator text)
  exact ⟨piece, pieces, pieced, by rw [splitList, if_neg different, pieced]⟩

theorem notMem_of_mem_splitList {piece : List α} (member : piece ∈ splitList separator text) : separator ∉ piece := by
  induction text generalizing piece with
  | nil =>
    obtain rfl := List.mem_singleton.mp member
    exact List.not_mem_nil
  | cons first rest ih =>
    by_cases same : first = separator
    · subst same
      rw [splitList_cons_self, List.mem_cons] at member
      rcases member with rfl | member
      · exact List.not_mem_nil
      · exact ih member
    · obtain ⟨head, pieces, pieced, made⟩ := exists_splitList_cons_of_ne same rest
      rw [made, List.mem_cons] at member
      rcases member with rfl | member
      · have later : separator ∉ head := ih (pieced ▸ List.mem_cons_self)
        simp [Ne.symm same, later]
      · exact ih (pieced ▸ List.mem_cons_of_mem _ member)

/-- Nothing is lost: the pieces with a separator before each of them are the text behind a separator. -/
theorem flatMap_splitList (separator : α) (text : List α) :
    (splitList separator text).flatMap (separator :: ·) = separator :: text := by
  induction text with
  | nil => rfl
  | cons first rest ih =>
    by_cases same : first = separator
    · subst same
      rw [splitList_cons_self, List.flatMap_cons, ih]
      rfl
    · obtain ⟨piece, pieces, pieced, made⟩ := exists_splitList_cons_of_ne same rest
      rw [pieced, List.flatMap_cons, List.cons_append, List.cons.injEq] at ih
      rw [made, List.flatMap_cons, List.cons_append, List.cons_append, ih.2]

end

namespace Pointer

/-! ## Tokens -/

/-- A text with another text in the place of every occurrence of a character. -/
def replaceAll (c : Char) (replacement text : List Char) : List Char :=
  text.flatMap fun d => if d = c then replacement else [d]

/-- A token is written by two replacements in turn, that of tildes first. -/
theorem escape_eq_replaceAll (token : List Char) :
    escape token = replaceAll '/' ['~', '1'] (replaceAll '~' ['~', '0'] token) := by
  induction token using escape.induct with
  | case1 => rfl
  | case2 rest ih => simp [escape, ih, replaceAll]
  | case3 rest ih => simp [escape, ih, replaceAll]
  | case4 c rest notTilde notSlash ih =>
    have plain : escape (c :: rest) = c :: escape rest := by
      rw [escape]
      · exact notTilde
      · exact notSlash
    have other : c ≠ '~' ∧ c ≠ '/' := ⟨fun same => notTilde same, fun same => notSlash same⟩
    simp [plain, ih, replaceAll, other]

/-- Whether a zero or a one stands behind every tilde of a text. -/
def IsWellEscaped (text : List Char) : Prop :=
  ∀ rest, '~' :: rest <:+ text → rest.head? = some '0' ∨ rest.head? = some '1'

theorem isWellEscaped_nil : IsWellEscaped [] := fun _ suffix => absurd suffix (by simp)

theorem isWellEscaped_cons {c : Char} {text : List Char} : IsWellEscaped (c :: text) ↔
    (c = '~' → text.head? = some '0' ∨ text.head? = some '1') ∧ IsWellEscaped text := by
  simp only [IsWellEscaped, List.suffix_cons_iff, List.cons.injEq]
  constructor
  · intro every
    exact ⟨fun tilde => every text (.inl ⟨tilde.symm, rfl⟩), fun rest suffix => every rest (.inr suffix)⟩
  · rintro ⟨first, later⟩ rest (⟨tilde, rfl⟩ | suffix)
    · exact first tilde.symm
    · exact later rest suffix

theorem unescape?_cons_of_ne {c : Char} (different : c ≠ '~') (rest : List Char) :
    unescape? (c :: rest) = (unescape? rest).map (c :: ·) := by
  rw [unescape?]
  all_goals simp_all

/-- The tokens of well-escaped texts can be read, and no others. -/
theorem isSome_unescape?_iff {written : List Char} : (unescape? written).isSome = true ↔ IsWellEscaped written := by
  induction written using unescape?.induct with
  | case1 => simp [unescape?, isWellEscaped_nil]
  | case2 rest ih => simp [unescape?, isWellEscaped_cons, ih]
  | case3 rest ih => simp [unescape?, isWellEscaped_cons, ih]
  | case4 rest notZero notOne =>
    have alone : unescape? ('~' :: rest) = none := by
      rw [unescape?]
      · exact notZero
      · exact notOne
    have bare : ¬ (rest.head? = some '0' ∨ rest.head? = some '1') := by
      rintro (zero | one)
      · obtain ⟨more, rfl⟩ := List.head?_eq_some_iff.mp zero
        exact notZero _ rfl
      · obtain ⟨more, rfl⟩ := List.head?_eq_some_iff.mp one
        exact notOne _ rfl
    simp [alone, isWellEscaped_cons, bare]
  | case5 c rest _ _ notTilde ih =>
    have different : c ≠ '~' := fun same => notTilde same
    simp [unescape?_cons_of_ne different, isWellEscaped_cons, different, ih]

/-- Without slashes, a text is read as a token exactly if the token is written as that text. -/
theorem unescape?_eq_some_iff {written token : List Char} (plain : '/' ∉ written) :
    unescape? written = some token ↔ escape token = written := by
  refine ⟨fun read => ?_, fun made => made ▸ unescape?_escape token⟩
  induction written using unescape?.induct generalizing token with
  | case1 =>
    obtain rfl := Option.some.inj read
    rfl
  | case2 rest ih =>
    obtain ⟨below, readBelow, rfl⟩ := Option.map_eq_some_iff.mp read
    rw [escape, ih (by simp_all) readBelow]
  | case3 rest ih =>
    obtain ⟨below, readBelow, rfl⟩ := Option.map_eq_some_iff.mp read
    rw [escape, ih (by simp_all) readBelow]
  | case4 rest notZero notOne =>
    rw [unescape?] at read
    · cases read
    · exact notZero
    · exact notOne
  | case5 c rest _ _ notTilde ih =>
    rw [unescape?_cons_of_ne fun same => notTilde same] at read
    obtain ⟨below, readBelow, rfl⟩ := Option.map_eq_some_iff.mp read
    have notSlash : c ≠ '/' := by
      rintro rfl
      exact plain List.mem_cons_self
    rw [escape, ih (by simp_all) readBelow]
    · exact notTilde
    · exact notSlash

/-! ## Pieces and whole texts -/

theorem readTokens?_cons {piece : List Char} {pieces : List (List Char)} {tokens : List String} :
    readTokens? (piece :: pieces) = some tokens ↔ ∃ token rest, tokens = String.ofList token :: rest ∧
      unescape? piece = some token ∧ readTokens? pieces = some rest := by
  simp only [readTokens?, Option.bind_eq_bind, Option.bind_eq_some_iff, Option.pure_def, Option.some.injEq]
  grind

theorem isSome_readTokens?_iff {pieces : List (List Char)} :
    (readTokens? pieces).isSome = true ↔ ∀ piece ∈ pieces, IsWellEscaped piece := by
  induction pieces with
  | nil => simp [readTokens?]
  | cons piece pieces ih =>
    rw [List.forall_mem_cons, ← ih, ← isSome_unescape?_iff, Option.isSome_iff_exists, Option.isSome_iff_exists,
      Option.isSome_iff_exists]
    constructor
    · rintro ⟨tokens, read⟩
      obtain ⟨token, rest, -, first, others⟩ := readTokens?_cons.mp read
      exact ⟨⟨token, first⟩, rest, others⟩
    · rintro ⟨⟨token, first⟩, rest, others⟩
      exact ⟨_, readTokens?_cons.mpr ⟨token, rest, rfl, first, others⟩⟩

/-- Pieces without slashes are read as tokens that are written as these pieces. -/
theorem chars_of_readTokens? {pieces : List (List Char)} {tokens : List String} (plain : ∀ piece ∈ pieces, '/' ∉ piece)
    (read : readTokens? pieces = some tokens) : chars ⟨tokens⟩ = pieces.flatMap ('/' :: ·) := by
  induction pieces generalizing tokens with
  | nil =>
    obtain rfl := Option.some.inj read
    rfl
  | cons piece pieces ih =>
    obtain ⟨token, rest, rfl, first, others⟩ := readTokens?_cons.mp read
    obtain ⟨plainFirst, plainRest⟩ := List.forall_mem_cons.mp plain
    have written : escape token = piece := (unescape?_eq_some_iff plainFirst).mp first
    have behind := ih plainRest others
    rw [chars] at behind ⊢
    rw [List.flatMap_cons, List.flatMap_cons, behind, String.toList_ofList, written]

/-- A tilde that a slash or the end follows is the last character of a piece. -/
theorem isWellEscaped_splitList_iff {text : List Char} :
    (∀ piece ∈ splitList '/' text, IsWellEscaped piece) ↔ IsWellEscaped text := by
  induction text with
  | nil => simp [splitList]
  | cons first rest ih =>
    by_cases slash : first = '/'
    · subst slash
      rw [splitList_cons_self, List.forall_mem_cons, ih, isWellEscaped_cons]
      simp [isWellEscaped_nil]
    · obtain ⟨piece, pieces, pieced, made⟩ := exists_splitList_cons_of_ne slash rest
      rw [pieced, List.forall_mem_cons] at ih
      rw [made, List.forall_mem_cons, isWellEscaped_cons, isWellEscaped_cons, and_assoc, ih]
      refine and_congr_left fun _ => ?_
      have sameHead (c : Char) (other : c ≠ '/') : piece.head? = some c ↔ rest.head? = some c := by
        cases rest with
        | nil =>
          obtain ⟨rfl, -⟩ := List.cons.inj pieced
          rfl
        | cons next more =>
          by_cases slash : next = '/'
          · subst slash
            rw [splitList_cons_self] at pieced
            obtain ⟨rfl, -⟩ := List.cons.inj pieced
            simp [other.symm]
          · obtain ⟨inner, others, -, made⟩ := exists_splitList_cons_of_ne slash more
            rw [made] at pieced
            obtain ⟨rfl, -⟩ := List.cons.inj pieced
            rfl
      rw [sameHead '0' (by decide), sameHead '1' (by decide)]

theorem parse_of_slash {text : String} {rest : List Char} (slash : text.toList = '/' :: rest) :
    parse text = match readTokens? (splitList '/' rest) with
      | some tokens => .ok ⟨tokens⟩
      | none => .error (.invalidEscape text) := by
  cases read : readTokens? (splitList '/' rest) with
  | none => simp only [parse, slash, read]
  | some tokens => simp only [parse, slash, read]

/-- A text is read as a pointer exactly if the pointer is written as that text. -/
theorem parse_eq_ok_iff {text : String} {p : Pointer} : parse text = .ok p ↔ p.text = text := by
  refine ⟨fun read => ?_, fun written => written ▸ parse_text p⟩
  apply String.toList_inj.mp
  rw [Pointer.text, String.toList_ofList]
  cases written : text.toList with
  | nil =>
    simp only [parse, written] at read
    obtain rfl := Except.ok.inj read
    rfl
  | cons first rest =>
    by_cases slash : first = '/'
    · subst slash
      rw [parse_of_slash written] at read
      split at read
      · next tokens readTokens =>
        obtain rfl := Except.ok.inj read
        rw [chars_of_readTokens? (fun piece member => notMem_of_mem_splitList member) readTokens, flatMap_splitList]
      · cases read
    · simp [parse, written, slash] at read

/-- Reading fails exactly on texts that do not start with a slash or have a tilde without a zero or a one behind it. -/
theorem parse_eq_error_iff {text : String} {fault : PointerError} : parse text = .error fault ↔
    fault = .missingSlash text ∧ text ≠ "" ∧ text.toList.head? ≠ some '/' ∨
      fault = .invalidEscape text ∧ text.toList.head? = some '/' ∧ ¬ IsWellEscaped text.toList := by
  cases written : text.toList with
  | nil =>
    obtain rfl : text = "" := String.toList_inj.mp written
    simp [parse]
  | cons first rest =>
    have some : text ≠ "" := by
      rintro rfl
      cases written
    by_cases slash : first = '/'
    · subst slash
      have behind : IsWellEscaped ('/' :: rest) ↔ IsWellEscaped rest := by simp [isWellEscaped_cons]
      rw [parse_of_slash written, behind, ← isWellEscaped_splitList_iff, ← isSome_readTokens?_iff]
      cases readTokens? (splitList '/' rest) <;> simp [eq_comm]
    · simp [parse, written, slash, some, eq_comm]

/-- Pointers and texts correspond one to one: every pointer is read back from its text, a text is read as a pointer
exactly if the pointer is written as that text, and this is so for the texts that are empty or start with a slash and
have a zero or a one behind every tilde. Any other text is refused for the one of the two that it lacks. -/
theorem parse_text_exact :
    (∀ p : Pointer, parse p.text = .ok p ∧
      p.text.toList = p.tokens.flatMap fun token =>
        '/' :: replaceAll '/' ['~', '1'] (replaceAll '~' ['~', '0'] token.toList)) ∧
    ∀ text : String,
      ((∃ p, parse text = .ok p) ↔ text = "" ∨ text.toList.head? = some '/' ∧ IsWellEscaped text.toList) ∧
      (∀ p, parse text = .ok p ↔ p.text = text) ∧
      ∀ fault, parse text = .error fault ↔
        fault = .missingSlash text ∧ text ≠ "" ∧ text.toList.head? ≠ some '/' ∨
          fault = .invalidEscape text ∧ text.toList.head? = some '/' ∧ ¬ IsWellEscaped text.toList := by
  refine ⟨fun p => ⟨parse_text p, ?_⟩, fun text => ⟨?_, fun p => parse_eq_ok_iff, fun fault => parse_eq_error_iff⟩⟩
  · simp only [Pointer.text, String.toList_ofList, chars, escape_eq_replaceAll]
  · cases read : parse text with
    | ok p =>
      have readable := mt parse_eq_error_iff.mpr (show parse text ≠ .error (.missingSlash text) by simp [read])
      have escaped := mt parse_eq_error_iff.mpr (show parse text ≠ .error (.invalidEscape text) by simp [read])
      refine iff_of_true ⟨p, rfl⟩ ?_
      grind
    | error fault =>
      have refused := parse_eq_error_iff.mp read
      simp only [reduceCtorEq, exists_false, false_iff]
      rintro (rfl | accepted)
      · simp at refused
      · grind

/-- The escapes of escapes are read back, a tilde before any other character is refused. -/
example : parse "/~01/~1~0/" = .ok ⟨["~1", "/~", ""]⟩ ∧ parse "/a~/0" = .error (.invalidEscape "/a~/0") := by
  decide

end Pointer

end JsonSchema
