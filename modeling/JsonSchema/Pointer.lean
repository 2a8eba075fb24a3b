import JsonSchema.Json

/-! # JSON Pointers

A pointer is its list of reference tokens; its text writes a slash before every token, with `~` as
`~0` and `/` as `~1` inside. `Pointer.parse` reads exactly the texts that `Pointer.text` writes.
A pointer addresses a member by name and an array item by its canonical decimal index.
-/

namespace JsonSchema

/-- A path into a JSON value. -/
structure Pointer where
  tokens : List String
  deriving DecidableEq, Inhabited

/-- Why a text is not a pointer. -/
inductive PointerError where
  | missingSlash (text : String)
  | invalidEscape (text : String)
  deriving DecidableEq

/-- The wording of a pointer error. -/
def PointerError.message : PointerError → String
  | .missingSlash text => "JSON pointer must be empty or start with '/': " ++ text
  | .invalidEscape text => "Invalid escape sequence in JSON pointer: " ++ text

/-- Cuts a list at every occurrence of a separator; there is one piece more than separators. -/
def splitList {α : Type _} [DecidableEq α] (separator : α) : List α → List (List α)
  | [] => [[]]
  | a :: rest =>
    if a = separator then [] :: splitList separator rest
    else
      match splitList separator rest with
      | [] => [[a]]
      | piece :: pieces => (a :: piece) :: pieces

theorem splitList_ne_nil {α : Type _} [DecidableEq α] (separator : α) (text : List α) :
    splitList separator text ≠ [] := by
  induction text with
  | nil => exact List.cons_ne_nil _ _
  | cons first rest ih =>
    rw [splitList]
    split
    · exact List.cons_ne_nil _ _
    · split <;> exact List.cons_ne_nil _ _

theorem splitList_of_notMem {α : Type _} [DecidableEq α] {separator : α} {piece : List α} (plain : separator ∉ piece) :
    splitList separator piece = [piece] := by
  induction piece with
  | nil => rfl
  | cons a rest ih =>
    obtain ⟨first, further⟩ := not_or.mp (mt List.mem_cons.mpr plain)
    rw [splitList, if_neg (Ne.symm first), ih further]

theorem splitList_append {α : Type _} [DecidableEq α] {separator : α} {piece : List α} (plain : separator ∉ piece)
    (rest : List α) : splitList separator (piece ++ separator :: rest) = piece :: splitList separator rest := by
  induction piece with
  | nil => rw [List.nil_append, splitList, if_pos rfl]
  | cons a piece ih =>
    obtain ⟨first, further⟩ := not_or.mp (mt List.mem_cons.mpr plain)
    rw [List.cons_append, splitList, if_neg (Ne.symm first), ih further]

namespace Pointer

/-- The pointer to the whole value. -/
def root : Pointer := ⟨[]⟩

/-- Whether the pointer addresses the whole value. -/
def isRoot (p : Pointer) : Bool := p.tokens.isEmpty

/-- The pointer with one more token. -/
def push (p : Pointer) (token : String) : Pointer := ⟨p.tokens ++ [token]⟩

/-- The pointer with more tokens. -/
def append (p : Pointer) (tokens : List String) : Pointer := ⟨p.tokens ++ tokens⟩

/-- The last token and the pointer without it. -/
def pop? (p : Pointer) : Option (String × Pointer) :=
  match p.tokens.reverse with
  | [] => none
  | last :: rest => some (last, ⟨rest.reverse⟩)

/-- Whether some token equals the given one. -/
def contains (p : Pointer) (token : String) : Bool := p.tokens.contains token

/-- The written form of a token. -/
def escape : List Char → List Char
  | [] => []
  | '~' :: rest => '~' :: '0' :: escape rest
  | '/' :: rest => '~' :: '1' :: escape rest
  | c :: rest => c :: escape rest

/-- The token of a written form; a tilde must be followed by a zero or a one. -/
def unescape? : List Char → Option (List Char)
  | [] => some []
  | '~' :: '0' :: rest => (unescape? rest).map ('~' :: ·)
  | '~' :: '1' :: rest => (unescape? rest).map ('/' :: ·)
  | '~' :: _ => none
  | c :: rest => (unescape? rest).map (c :: ·)

/-- The characters of a pointer's text. -/
def chars (p : Pointer) : List Char := p.tokens.flatMap fun token => '/' :: escape token.toList

/-- The text of a pointer. -/
def text (p : Pointer) : String := String.ofList p.chars

/-- Reads the tokens between slashes, if every one is well escaped. -/
def readTokens? : List (List Char) → Option (List String)
  | [] => some []
  | piece :: pieces => do
    let token ← unescape? piece
    let tokens ← readTokens? pieces
    return String.ofList token :: tokens

/-- The pointer of a text. -/
def parse (encoded : String) : Except PointerError Pointer :=
  match encoded.toList with
  | [] => .ok root
  | '/' :: rest =>
    match readTokens? (splitList '/' rest) with
    | some tokens => .ok ⟨tokens⟩
    | none => .error (.invalidEscape encoded)
  | _ => .error (.missingSlash encoded)

/-- The value of decimal digits. -/
def decimalValue? (digits : List Char) : Option Nat :=
  digits.foldlM (fun n c => if '0' ≤ c ∧ c ≤ '9' then some (n * 10 + (c.toNat - '0'.toNat)) else none) 0

/-- The array index of a token: a decimal numeral without leading zeros. -/
def index? (token : String) : Option Nat :=
  match token.toList with
  | [] => none
  | '0' :: _ :: _ => none
  | digits => (decimalValue? digits).filter (· ≤ Word.greatest)

/-- One step into a value. -/
def step? (token : String) : Json → Option Json
  | .object members => assoc? token members
  | .array items => (index? token).bind (items[·]?)
  | _ => none

/-- The value that tokens lead to. -/
def follow? : List String → Json → Option Json
  | [], value => some value
  | token :: rest, value => (step? token value).bind (follow? rest)

/-- The value a pointer addresses. -/
def resolve? (p : Pointer) (value : Json) : Option Json := follow? p.tokens value

/-- Pointers in the order of their token lists. -/
def compare (p q : Pointer) : Ordering := Ord.compare p.tokens q.tokens

theorem append_nil (p : Pointer) : p.append [] = p := by rw [append, List.append_nil]

theorem append_append (p : Pointer) (front back : List String) :
    (p.append front).append back = p.append (front ++ back) := by
  rw [append, append, append, List.append_assoc]

theorem follow?_append (front back : List String) (value : Json) :
    follow? (front ++ back) value = (follow? front value).bind (follow? back) := by
  induction front generalizing value with
  | nil => simp [follow?]
  | cons token rest ih =>
    simp only [List.cons_append, follow?, Option.bind_assoc]
    congr 1
    funext next
    exact ih next

theorem unescape?_escape (token : List Char) : unescape? (escape token) = some token := by
  induction token using escape.induct with
  | case1 => rfl
  | case2 rest ih => simp [escape, unescape?, ih]
  | case3 rest ih => simp [escape, unescape?, ih]
  | case4 c rest notTilde notSlash ih =>
    have plain : unescape? (c :: escape rest) = (unescape? (escape rest)).map (c :: ·) := by
      rw [unescape?]
      all_goals simp_all
    simp [escape, plain, ih]

theorem slash_notMem_escape (token : List Char) : '/' ∉ escape token := by
  induction token using escape.induct with
  | case1 => exact List.not_mem_nil
  | case2 rest ih => simp [escape, ih]
  | case3 rest ih => simp [escape, ih]
  | case4 c rest notTilde notSlash ih => simp [escape, ih, Ne.symm notSlash]

theorem readTokens?_map_escape (tokens : List String) :
    readTokens? (tokens.map fun token => escape token.toList) = some tokens := by
  induction tokens with
  | nil => rfl
  | cons token tokens ih => simp [readTokens?, unescape?_escape, ih]

/-- The written tokens after the first slash are what stands between the slashes. -/
theorem splitList_escape (token : String) (tokens : List String) :
    splitList '/' (escape token.toList ++ chars ⟨tokens⟩) =
      (token :: tokens).map fun token => escape token.toList := by
  induction tokens generalizing token with
  | nil =>
    rw [chars, List.flatMap_nil, List.append_nil, splitList_of_notMem (slash_notMem_escape _)]
    rfl
  | cons next tokens ih =>
    rw [chars, List.flatMap_cons, List.cons_append, splitList_append (slash_notMem_escape _), List.map_cons, ← ih]
    rfl

/-- A pointer is read back from its text. -/
theorem parse_text (p : Pointer) : parse p.text = .ok p := by
  obtain ⟨tokens⟩ := p
  cases tokens with
  | nil => rfl
  | cons token tokens =>
    have written : (text ⟨token :: tokens⟩).toList = '/' :: (escape token.toList ++ chars ⟨tokens⟩) := by
      rw [text, String.toList_ofList, chars, List.flatMap_cons, List.cons_append]
      rfl
    simp only [parse, written, splitList_escape, readTokens?_map_escape]

theorem decimalValue?_of_digits {digits : List Char} (digital : ∀ c ∈ digits, c.isDigit = true) :
    decimalValue? digits = some (Nat.ofDigitChars 10 digits 0) := by
  have goesOn (n : Nat) : digits.foldlM
      (fun n c => if '0' ≤ c ∧ c ≤ '9' then some (n * 10 + (c.toNat - '0'.toNat)) else none) n =
        some (Nat.ofDigitChars 10 digits n) := by
    induction digits generalizing n with
    | nil => rfl
    | cons c digits ih =>
      have first : '0' ≤ c ∧ c ≤ '9' := by
        simpa [Char.isDigit, Char.le_def] using digital c List.mem_cons_self
      rw [List.foldlM_cons, if_pos first, Nat.ofDigitChars_cons, Nat.mul_comm 10 n]
      exact ih (fun d member => digital d (List.mem_cons_of_mem _ member)) _
  exact goesOn 0

theorem head?_toDigits_ne {n : Nat} (pos : 0 < n) : (Nat.toDigits 10 n).head? ≠ some '0' := by
  induction n using Nat.strongRecOn with
  | _ n ih =>
    by_cases small : n < 10
    · rw [Nat.toDigits_of_lt_base small, List.head?_singleton]
      have digits : ∀ d < 10, 0 < d → some (Nat.digitChar d) ≠ some '0' := by decide
      exact digits n small pos
    · have shorter := ih (n / 10) (by omega) (by omega)
      rw [Nat.toDigits_of_base_le (by decide) (by omega)]
      cases leading : Nat.toDigits 10 (n / 10) with
      | nil => exact absurd leading Nat.toDigits_ne_nil
      | cons c rest => rwa [leading] at shorter

/-- The written index of an item is an index. -/
theorem index?_toString {index : Nat} (small : index ≤ Word.greatest) : index? (toString index) = some index := by
  have value : decimalValue? (Nat.toDigits 10 index) = some index := by
    rw [decimalValue?_of_digits fun c member => Nat.isDigit_of_mem_toDigits (by decide) (by decide) member,
      Nat.ofDigitChars_toDigits (by decide) (by decide)]
  rw [index?, Nat.toString_eq_repr, Nat.toList_repr]
  split
  · next empty => exact absurd empty Nat.toDigits_ne_nil
  · next c rest leading =>
    rcases Nat.eq_zero_or_pos index with rfl | pos
    · cases leading
    · exact absurd (by rw [leading]; rfl) (head?_toDigits_ne pos)
  · rw [value]
    simp [small]

end Pointer

end JsonSchema
