import JsonSchema.Proofs.Url.Escapes
import JsonSchema.Url.Resolution
import Mathlib.Data.List.Basic

/-! # Relative paths of plain names

A relative path is a reference, so a name in it may be read as something else: as a query, a fragment or a scheme, as
dots, as a drive, or as an escape of another name. A path of names that are plain in all these respects leads to its own
encoded names behind the folder of the base (`Url.join_path`), and therefore different paths lead to different URLs,
also without their fragments (`Url.eq_of_join_eq`). The URL of a file itself escapes percent signs as well, so that
different files have different ones, whatever their names are (`Url.eq_of_ofFile_eq`).
-/

namespace JsonSchema.Url

open Utf8 (encode)

/-- Whether a name is not empty, does not consist of one or two dots, and has no slash. -/
structure IsName (name : List Char) : Prop where
  some : name ≠ []
  noDot : name ≠ ['.']
  noDots : name ≠ ['.', '.']
  noSlash : '/' ∉ name

instance (name : List Char) : Decidable (IsName name) :=
  decidable_of_iff (name ≠ [] ∧ name ≠ ['.'] ∧ name ≠ ['.', '.'] ∧ '/' ∉ name)
    ⟨fun checks => ⟨checks.1, checks.2.1, checks.2.2.1, checks.2.2.2⟩,
      fun named => ⟨named.some, named.noDot, named.noDots, named.noSlash⟩⟩

/-- Whether all characters of a name stand for themselves in a URL: none of them divides, ends or is left out of a path,
and no percent sign starts an escape. -/
structure IsPlainName (name : List Char) : Prop extends IsName name where
  characters : ∀ c ∈ name, c ≠ '?' ∧ c ≠ '#' ∧ c ≠ '\\' ∧ isIgnored c = false
  free : ¬ HoldsEscape IsDigitPair name

instance (name : List Char) : Decidable (IsPlainName name) :=
  -- Only the characters of the name are tested, not all characters that there are.
  have : Decidable (∀ c ∈ name, c ≠ '?' ∧ c ≠ '#' ∧ c ≠ '\\' ∧ isIgnored c = false) := List.decidableBAll _ name
  decidable_of_iff (IsName name ∧ (∀ c ∈ name, c ≠ '?' ∧ c ≠ '#' ∧ c ≠ '\\' ∧ isIgnored c = false) ∧
      ¬ HoldsEscape IsDigitPair name)
    ⟨fun checks => ⟨checks.1, checks.2.1, checks.2.2⟩, fun plain => ⟨plain.toIsName, plain.characters, plain.free⟩⟩

/-- Whether a path of plain names is read as such against a base: its ends are not cut off, and the first name is
neither read as a scheme nor, on the local host, as a drive. -/
structure IsPlainPath (base : Url) (names : List (List Char)) : Prop where
  some : names ≠ []
  plain : ∀ name ∈ names, IsPlainName name
  noScheme : ∀ name ∈ names.head?, ':' ∉ name
  noDrive : base.scheme = "file" → ∀ name ∈ names.head?, '|' ∉ name
  start : ∀ name ∈ names.head?, ∀ c ∈ name.head?, 0x20 < c.toNat
  stop : ∀ name ∈ names.getLast?, ∀ c ∈ name.getLast?, 0x20 < c.toNat

instance (base : Url) (names : List (List Char)) : Decidable (IsPlainPath base names) :=
  have (end? : Option Char) : Decidable (∀ c ∈ end?, 0x20 < c.toNat) := end?.decidableForallMem
  decidable_of_iff (names ≠ [] ∧ (∀ name ∈ names, IsPlainName name) ∧ (∀ name ∈ names.head?, ':' ∉ name) ∧
      (base.scheme = "file" → ∀ name ∈ names.head?, '|' ∉ name) ∧
      (∀ name ∈ names.head?, ∀ c ∈ name.head?, 0x20 < c.toNat) ∧
      ∀ name ∈ names.getLast?, ∀ c ∈ name.getLast?, 0x20 < c.toNat)
    ⟨fun checks => ⟨checks.1, checks.2.1, checks.2.2.1, checks.2.2.2.1, checks.2.2.2.2.1, checks.2.2.2.2.2⟩,
      fun path => ⟨path.some, path.plain, path.noScheme, path.noDrive, path.start, path.stop⟩⟩

/-! ## Encoded names -/

theorem toNat_lt_of_not_inPathSet (c : Char) (outside : inPathSet c = false) : c.toNat < 0x80 := by
  simp only [inPathSet, inFragmentSet, isControl, Bool.or_eq_false_iff, decide_eq_false_iff_not] at outside
  omega

theorem isHexDigit_upperHexDigit : ∀ n < 16, isHexDigit (upperHexDigit n) = true := by decide

/-- An encoded text has its own characters that are not in the set, and those of escapes. -/
theorem mem_percentEncode {inSet : Char → Bool} {text : List Char} {c : Char} (member : c ∈ percentEncode inSet text) :
    c ∈ text ∧ inSet c = false ∨ c = '%' ∨ isHexDigit c = true := by
  obtain ⟨origin, inside, made⟩ := List.mem_flatMap.mp member
  split at made
  · obtain ⟨b, -, escaped⟩ := List.mem_flatMap.mp made
    have bound := b.toNat_lt
    simp only [escapeByte, List.mem_cons, List.not_mem_nil, or_false] at escaped
    rcases escaped with rfl | rfl | rfl
    · exact .inr (.inl rfl)
    · exact .inr (.inr (isHexDigit_upperHexDigit _ (by omega)))
    · exact .inr (.inr (isHexDigit_upperHexDigit _ (by omega)))
  · next outside =>
    obtain rfl := List.mem_singleton.mp made
    exact .inl ⟨inside, by simpa using outside⟩

theorem notMem_percentEncode {inSet : Char → Bool} {text : List Char} {c : Char} (absent : c ∉ text ∨ inSet c = true)
    (notPercent : c ≠ '%') (noDigit : isHexDigit c = false) : c ∉ percentEncode inSet text := by
  intro member
  rcases mem_percentEncode member with ⟨inside, outside⟩ | percent | digit
  · rcases absent with absent | inSet
    · exact absent inside
    · exact Bool.false_ne_true (outside.symm.trans inSet)
  · exact notPercent percent
  · exact Bool.false_ne_true (noDigit.symm.trans digit)

theorem percentEncode_ne_nil {inSet : Char → Bool} {text : List Char} (some : text ≠ []) :
    percentEncode inSet text ≠ [] := by
  obtain ⟨c, rest, rfl⟩ := List.exists_cons_of_ne_nil some
  rw [percentEncode, List.flatMap_cons]
  split
  · obtain ⟨b, bytes, many⟩ := List.exists_cons_of_ne_nil (Utf8.encodeChar_ne_nil c)
    simp [many, escapeByte]
  · simp

/-- Only an upper-case letter has another lower case. -/
theorem eq_or_eq_toUpper_toLower (c : Char) : c = c.toLower ∨ c = c.toLower.toUpper := by
  by_cases ascii : c.toNat < 0x80
  · have every : ∀ n < 0x80, Char.ofNat n = (Char.ofNat n).toLower ∨ Char.ofNat n = (Char.ofNat n).toLower.toUpper := by
      decide
    simpa using every c.toNat ascii
  · left
    unfold Char.toLower
    rw [dif_neg]
    rintro ⟨-, upper⟩
    have bound : c.toNat ≤ 90 := by simpa [UInt32.le_iff_toNat_le] using upper
    omega

/-- The texts that a text in lower case may be written as. -/
def spellings : List Char → List (List Char)
  | [] => [[]]
  | c :: lower => (spellings lower).flatMap fun rest => [c :: rest, c.toUpper :: rest]

theorem mem_spellings (text : List Char) : text ∈ spellings (text.map Char.toLower) := by
  induction text with
  | nil => exact List.mem_singleton_self _
  | cons c text ih =>
    rw [List.map_cons, spellings, List.mem_flatMap]
    refine ⟨text, ih, ?_⟩
    rcases eq_or_eq_toUpper_toLower c with same | same
    · rw [← same]
      exact List.mem_cons_self
    · rw [← same]
      exact List.mem_cons_of_mem _ (List.mem_singleton_self _)

theorem mem_spellings_of_contains {segment : List Char} {lowers : List String}
    (member : lowers.contains (String.ofList (segment.map Char.toLower)) = true) :
    ∃ lower ∈ lowers, segment ∈ spellings lower.toList := by
  refine ⟨_, by simpa using member, ?_⟩
  rw [String.toList_ofList]
  exact mem_spellings segment

/-- A segment that stands for one dot has the bytes of one dot. -/
theorem decodeBytesBy_of_isSingleDot {segment : List Char} (dot : isSingleDot segment = true) :
    decodeBytesBy digitPair? (encode segment) = encode ['.'] := by
  have every : ∀ lower ∈ [".", "%2e"], ∀ segment ∈ spellings lower.toList,
      decodeBytesBy digitPair? (encode segment) = encode ['.'] := by decide
  obtain ⟨lower, member, spelled⟩ := mem_spellings_of_contains dot
  exact every lower member segment spelled

theorem decodeBytesBy_of_isDoubleDot {segment : List Char} (dots : isDoubleDot segment = true) :
    decodeBytesBy digitPair? (encode segment) = encode ['.', '.'] := by
  have every : ∀ lower ∈ ["..", "%2e%2e", "%2e.", ".%2e"], ∀ segment ∈ spellings lower.toList,
      decodeBytesBy digitPair? (encode segment) = encode ['.', '.'] := by decide +kernel
  obtain ⟨lower, member, spelled⟩ := mem_spellings_of_contains dots
  exact every lower member segment spelled

section

variable {name : List Char} (plain : IsPlainName name)

include plain

theorem decodeBytesBy_written_name : decodeBytesBy digitPair? (encode (percentEncode inPathSet name)) = encode name :=
  decodeBytesBy_written readsPairs_digitPair? toNat_lt_of_not_inPathSet fun _ => plain.free

theorem isSingleDot_name : isSingleDot (percentEncode inPathSet name) = false := by
  by_contra dot
  have bytes := decodeBytesBy_of_isSingleDot (Bool.of_not_eq_false dot)
  rw [decodeBytesBy_written_name plain] at bytes
  apply plain.noDot
  rw [← Utf8.lossy_encode name, bytes, Utf8.lossy_encode]

theorem isDoubleDot_name : isDoubleDot (percentEncode inPathSet name) = false := by
  by_contra dots
  have bytes := decodeBytesBy_of_isDoubleDot (Bool.of_not_eq_false dots)
  rw [decodeBytesBy_written_name plain] at bytes
  apply plain.noDots
  rw [← Utf8.lossy_encode name, bytes, Utf8.lossy_encode]

theorem clean_name : clean name = name := by
  rw [clean, List.filter_eq_self]
  intro c member
  simp [(plain.characters c member).2.2.2]

theorem slash_notMem_name : '/' ∉ percentEncode inPathSet name :=
  notMem_percentEncode (.inl plain.noSlash) (by decide) (by decide)

end

/-! ## Segments -/

/-- Where the segments of a path are added to; a slash follows a drive. -/
def opened (kind : SchemeKind) (path : List Char) : List Char :=
  if kind = .file ∧ isNormalDriveLetter path.tail then path ++ ['/'] else path

theorem isNormalDriveLetter_append_slash (path : List Char) : isNormalDriveLetter (path ++ ['/']) = false := by
  rcases path with - | ⟨a, - | ⟨b, path⟩⟩
  · rfl
  · rfl
  · simp [isNormalDriveLetter]

theorem opened_append_slash {path : List Char} (some : path ≠ []) (kind : SchemeKind) :
    opened kind (path ++ ['/']) = path ++ ['/'] := by
  rw [opened, List.tail_append_of_ne_nil some, isNormalDriveLetter_append_slash]
  simp

theorem isDriveLetter_eq_false {segment : List Char} (noColon : ':' ∉ segment) (noBar : '|' ∉ segment) :
    isDriveLetter segment = false := by
  rcases segment with - | ⟨c, - | ⟨d, - | ⟨e, rest⟩⟩⟩
  · rfl
  · rfl
  · simp only [List.mem_cons, List.not_mem_nil, or_false, not_or] at noColon noBar
    simp [isDriveLetter, Ne.symm noColon.2, Ne.symm noBar.2]
  · rfl

theorem addSegment_name {kind : SchemeKind} {path name : List Char} (plain : IsPlainName name)
    (noDrive : kind = .file → opened kind path = ['/'] → ':' ∉ name ∧ '|' ∉ name) (slash : Bool) :
    addSegment kind path name slash =
      opened kind path ++ percentEncode inPathSet name ++ (if slash then ['/'] else []) := by
  have some : (percentEncode inPathSet name).isEmpty = false := by
    simpa using percentEncode_ne_nil plain.some
  have undriven {segment : List Char} (part : ∀ c ∈ segment, c ∈ percentEncode inPathSet name) :
      namesDrive kind (opened kind path) segment = false := by
    by_contra drive
    simp only [namesDrive, Bool.not_eq_false, Bool.and_eq_true, decide_eq_true_eq, beq_iff_eq] at drive
    obtain ⟨⟨file, root⟩, drive⟩ := drive
    obtain ⟨noColon, noBar⟩ := noDrive file root
    rw [isDriveLetter_eq_false] at drive
    · exact Bool.false_ne_true drive
    · exact fun member => notMem_percentEncode (.inl noColon) (by decide) (by decide) (part _ member)
    · exact fun member => notMem_percentEncode (.inl noBar) (by decide) (by decide) (part _ member)
  have whole := undriven fun _ member => member
  have front : namesDrive kind (opened kind path) ((percentEncode inPathSet name).take 2) = false :=
    undriven fun _ member => List.mem_of_mem_take member
  rw [opened] at whole front
  simp only [addSegment, clean_name plain, some, Bool.not_false, and_true, isDoubleDot_name plain,
    isSingleDot_name plain, whole, front, Bool.false_eq_true, false_and, if_false]
  rfl

/-- Whether a character ends a segment. -/
def divides (kind : SchemeKind) (c : Char) : Bool := c == '/' || endsPath c || (c == '\\' && kind.isSpecial)

theorem not_divides_name {name : List Char} (plain : IsPlainName name) (kind : SchemeKind) :
    ∀ c ∈ name, (!divides kind c) = true := by
  intro c member
  obtain ⟨noQuestion, noHash, noBackslash, -⟩ := plain.characters c member
  have noSlash : c ≠ '/' := fun same => plain.noSlash (same ▸ member)
  simp [divides, endsPath, noQuestion, noHash, noBackslash, noSlash]

theorem splitSegment_append {name : List Char} (plain : IsPlainName name) (kind : SchemeKind) (behind : List Char) :
    splitSegment kind (name ++ behind) =
      match behind.dropWhile (!divides kind ·) with
      | [] => (name ++ behind.takeWhile (!divides kind ·), false, [])
      | c :: rest =>
        if endsPath c then (name ++ behind.takeWhile (!divides kind ·), false, c :: rest)
        else (name ++ behind.takeWhile (!divides kind ·), true, rest) := by
  have inside := not_divides_name plain kind
  rw [← List.takeWhile_append_of_pos inside, ← List.dropWhile_append_of_pos inside]
  rfl

theorem splitSegment_last {name : List Char} (plain : IsPlainName name) (kind : SchemeKind) :
    splitSegment kind name = (name, false, []) := by
  have split := splitSegment_append plain kind []
  simpa using split

theorem splitSegment_name {name : List Char} (plain : IsPlainName name) (kind : SchemeKind) (rest : List Char) :
    splitSegment kind (name ++ '/' :: rest) = (name, true, rest) := by
  rw [splitSegment_append plain]
  simp [divides, endsPath]

/-- What the names of a path lead to. -/
def encodedPath (names : List (List Char)) : List Char := ['/'].intercalate (names.map (percentEncode inPathSet))

theorem encodedPath_cons_cons (name next : List Char) (names : List (List Char)) :
    encodedPath (name :: next :: names) = percentEncode inPathSet name ++ '/' :: encodedPath (next :: names) := by
  simp [encodedPath]

/-- Names that follow a path one after the other are added to it one after the other. -/
theorem addSegments_names {kind : SchemeKind} {path : List Char} {names : List (List Char)}
    (plain : ∀ name ∈ names, IsPlainName name)
    (noDrive : kind = .file → opened kind path = ['/'] → ∀ name ∈ names.head?, ':' ∉ name ∧ '|' ∉ name)
    (some : names ≠ []) (hasDrive : Bool) {fuel : Nat} (enough : names.length ≤ fuel) :
    ∃ drive, addSegments kind path hasDrive (['/'].intercalate names) fuel =
      ⟨opened kind path ++ encodedPath names, drive, []⟩ := by
  induction names generalizing path hasDrive fuel with
  | nil => exact absurd rfl some
  | cons name names ih =>
    obtain ⟨first, others⟩ := List.forall_mem_cons.mp plain
    obtain ⟨fuel, rfl⟩ : ∃ less, fuel = less + 1 := ⟨fuel - 1, by simp at enough; omega⟩
    have undriven := fun file root => noDrive file root name rfl
    rcases names with - | ⟨next, names⟩
    · simp only [List.intercalate_singleton, addSegments, splitSegment_last first, addSegment_name first undriven]
      exact ⟨hasDrive || namesDrive kind path (clean name), by simp [encodedPath]⟩
    · have inner : opened kind path ++ percentEncode inPathSet name ≠ [] :=
        List.append_ne_nil_of_right_ne_nil _ (percentEncode_ne_nil first.some)
      have back := opened_append_slash inner kind
      have notRoot : opened kind path ++ percentEncode inPathSet name ++ ['/'] ≠ ['/'] := by
        intro root
        exact inner (List.append_left_eq_self.mp root)
      obtain ⟨drive, read⟩ := ih others (fun _ root => absurd (back.symm.trans root) notRoot) (List.cons_ne_nil _ _)
        (hasDrive || namesDrive kind path (clean name)) (Nat.le_of_succ_le_succ enough)
      refine ⟨drive, ?_⟩
      rw [List.intercalate_cons_cons, List.append_assoc, List.singleton_append, addSegments, splitSegment_name first]
      simp only [addSegment_name first undriven, if_true, read, back, encodedPath_cons_cons]
      simp

/-! ## Paths -/

theorem length_le_length_intercalate (names : List (List Char)) :
    names.length ≤ (['/'].intercalate names).length + 1 := by
  induction names with
  | nil => simp
  | cons name names ih =>
    rcases names with - | ⟨next, names⟩
    · simp
    · rw [List.intercalate_cons_cons, List.append_assoc, List.length_append, List.length_append]
      simp only [List.length_cons, List.length_nil] at ih ⊢
      omega

/-- The path up to its last name, with the slash that a file path has in front and that follows a drive. -/
def folder (kind : SchemeKind) (path : List Char) : List Char :=
  if kind = .file then '/' :: (opened kind path).dropWhile (· == '/') else opened kind path

theorem dropWhile_append_of_head? {α : Type} {isCut : α → Bool} (text : List α) {behind : List α}
    (stops : ∀ a ∈ behind.head?, isCut a = false) :
    (text ++ behind).dropWhile isCut = text.dropWhile isCut ++ behind := by
  induction text with
  | nil =>
    rcases behind with - | ⟨a, behind⟩
    · rfl
    · rw [List.nil_append, List.dropWhile_cons, stops a rfl]
      rfl
  | cons a text ih =>
    rw [List.cons_append, List.dropWhile_cons, List.dropWhile_cons]
    split
    · exact ih
    · rfl

theorem dropWhile_eq_self {α : Type} {isCut : α → Bool} {text : List α} (stops : ∀ a ∈ text.head?, isCut a = false) :
    text.dropWhile isCut = text :=
  dropWhile_append_of_head? [] stops

theorem reverse_dropWhile_reverse {α : Type} {isCut : α → Bool} {text : List α}
    (stops : ∀ a ∈ text.getLast?, isCut a = false) : (text.reverse.dropWhile isCut).reverse = text := by
  rw [dropWhile_eq_self (by rwa [List.head?_reverse]), List.reverse_reverse]

/-- Behind the first name of a path stands a slash, if anything. -/
theorem exists_intercalate_cons (name : List Char) (names : List (List Char)) :
    ∃ behind, ['/'].intercalate (name :: names) = name ++ behind ∧ ∀ c ∈ behind.head?, c = '/' := by
  rcases names with - | ⟨next, names⟩
  · exact ⟨[], by simp, by simp⟩
  · exact ⟨'/' :: ['/'].intercalate (next :: names), by simp, by simp⟩

theorem head?_intercalate {name : List Char} (some : name ≠ []) (names : List (List Char)) :
    (['/'].intercalate (name :: names)).head? = name.head? := by
  obtain ⟨behind, same, -⟩ := exists_intercalate_cons name names
  rw [same, List.head?_append_of_ne_nil _ some]

theorem getLast?_intercalate {names : List (List Char)} (some : ∀ name ∈ names, name ≠ []) :
    (['/'].intercalate names).getLast? = names.getLast?.bind List.getLast? := by
  induction names with
  | nil => rfl
  | cons name names ih =>
    obtain ⟨-, others⟩ := List.forall_mem_cons.mp some
    rcases names with - | ⟨next, names⟩
    · simp
    · have inner : ['/'].intercalate (next :: names) ≠ [] := by
        obtain ⟨behind, same, -⟩ := exists_intercalate_cons next names
        rw [same]
        exact List.append_ne_nil_of_left_ne_nil (others next List.mem_cons_self) _
      rw [List.intercalate_cons_cons, List.getLast?_append_of_ne_nil _ inner, ih others, List.getLast?_cons_cons]

theorem mem_intercalate {c : Char} {names : List (List Char)} (member : c ∈ ['/'].intercalate names) :
    c = '/' ∨ ∃ name ∈ names, c ∈ name := by
  induction names with
  | nil => simp at member
  | cons name names ih =>
    rcases names with - | ⟨next, names⟩
    · exact .inr ⟨name, List.mem_cons_self, by simpa using member⟩
    · rw [List.intercalate_cons_cons, List.mem_append, List.mem_append, List.mem_singleton] at member
      rcases member with (inside | slash) | behind
      · exact .inr ⟨name, List.mem_cons_self, inside⟩
      · exact .inl slash
      · rcases ih behind with slash | ⟨other, member, inside⟩
        · exact .inl slash
        · exact .inr ⟨other, List.mem_cons_of_mem _ member, inside⟩

theorem head?_encodedPath {names : List (List Char)} (plain : ∀ name ∈ names, IsPlainName name) :
    ∀ c ∈ (encodedPath names).head?, (c == '/') = false := by
  rcases names with - | ⟨name, names⟩
  · simp [encodedPath]
  · have first := plain name List.mem_cons_self
    rw [encodedPath, List.map_cons, head?_intercalate (percentEncode_ne_nil first.some)]
    intro c front
    rw [beq_eq_false_iff_ne]
    rintro rfl
    exact slash_notMem_name first (List.mem_of_head? front)

theorem readPath_names {kind : SchemeKind} {path : List Char} {names : List (List Char)}
    (plain : ∀ name ∈ names, IsPlainName name)
    (noDrive : kind = .file → opened kind path = ['/'] → ∀ name ∈ names.head?, ':' ∉ name ∧ '|' ∉ name)
    (some : names ≠ []) :
    ∃ drive, readPath kind path (['/'].intercalate names) = ⟨folder kind path ++ encodedPath names, drive, []⟩ := by
  obtain ⟨drive, read⟩ := addSegments_names plain noDrive some false (length_le_length_intercalate names)
  refine ⟨drive, ?_⟩
  rw [readPath, read, folder]
  split
  · rw [dropWhile_append_of_head? _ (head?_encodedPath plain)]
    rfl
  · rfl

/-! ## References -/

/-- The path of a URL as far as relative paths continue it. -/
def folderOf (base : Url) : List Char :=
  let path := popPath (schemeKind base.scheme) base.path.toList
  folder (schemeKind base.scheme) (if base.scheme ≠ "file" ∧ path.isEmpty then ['/'] else path)

section

variable {base : Url} {names : List (List Char)} (plain : IsPlainPath base names)

include plain

theorem head?_path {c : Char} (front : c ∈ (['/'].intercalate names).head?) :
    ∃ name ∈ names.head?, c ∈ name.head? := by
  rcases names with - | ⟨name, names⟩
  · simp at front
  · rw [head?_intercalate (plain.plain name List.mem_cons_self).some] at front
    exact ⟨name, rfl, front⟩

theorem trim_path : trim (String.ofList (['/'].intercalate names)) = ['/'].intercalate names := by
  have front : ∀ c ∈ (['/'].intercalate names).head?, decide (c.toNat ≤ 0x20) = false := by
    intro c front
    obtain ⟨name, first, front⟩ := head?_path plain front
    have start := plain.start name first c front
    simp only [decide_eq_false_iff_not]
    omega
  have back : ∀ c ∈ (['/'].intercalate names).getLast?, decide (c.toNat ≤ 0x20) = false := by
    intro c back
    rw [getLast?_intercalate fun name member => (plain.plain name member).some] at back
    obtain ⟨name, last, back⟩ := Option.bind_eq_some_iff.mp back
    have stop := plain.stop name last c back
    simp only [decide_eq_false_iff_not]
    omega
  rw [trim, String.toList_ofList, dropWhile_eq_self front, reverse_dropWhile_reverse back]

theorem clean_path : clean (['/'].intercalate names) = ['/'].intercalate names := by
  rw [clean, List.filter_eq_self]
  intro c member
  rcases mem_intercalate member with rfl | ⟨name, member, inside⟩
  · rfl
  · simp [((plain.plain name member).characters c inside).2.2.2]

omit plain in
theorem splitScheme?_append {name behind : List Char} (noColon : ':' ∉ name) (some : name ≠ [])
    (slash : ∀ c ∈ behind.head?, c = '/') : splitScheme? (name ++ behind) = none := by
  obtain ⟨first, more, rfl⟩ := List.exists_cons_of_ne_nil some
  rw [splitScheme?.eq_def, List.cons_append]
  dsimp only
  rw [← List.cons_append, dropWhile_append_of_head? _ fun c front => by rw [slash c front]; decide]
  split
  · next rest colon =>
    exfalso
    rcases List.append_eq_cons_iff.mp colon with ⟨-, front⟩ | ⟨part, inside, -⟩
    · exact absurd (slash ':' (by rw [front]; rfl)) (by decide)
    · exact noColon ((List.dropWhile_suffix _).subset (inside ▸ List.mem_cons_self))
  · rfl

/-- The first name of a path has no colon, and what stands behind it starts with a slash. -/
theorem splitScheme?_path : splitScheme? (['/'].intercalate names) = none := by
  rcases names with - | ⟨name, names⟩
  · rfl
  · obtain ⟨behind, same, slash⟩ := exists_intercalate_cons name names
    rw [same]
    exact splitScheme?_append (plain.noScheme name rfl) (plain.plain name List.mem_cons_self).some slash

omit plain in
theorem startsWithDriveLetter_append {name behind : List Char} (noColon : ':' ∉ name) (noBar : '|' ∉ name)
    (some : name ≠ []) (slash : ∀ c ∈ behind.head?, c = '/') : startsWithDriveLetter (name ++ behind) = false := by
  have inside {c : Char} (member : c ∈ (name ++ behind).take 2) : c ∈ name ∨ c = '/' := by
    obtain ⟨first, more, rfl⟩ := List.exists_cons_of_ne_nil some
    rcases more with - | ⟨second, more⟩
    · rcases behind with - | ⟨second, behind⟩
      · exact .inl (by simpa using member)
      · simpa [slash second rfl] using member
    · simp at member
      rcases member with rfl | rfl <;> simp
  have drive : isDriveLetter ((name ++ behind).take 2) = false := by
    apply isDriveLetter_eq_false
    · exact fun member => (inside member).elim noColon (by decide)
    · exact fun member => (inside member).elim noBar (by decide)
  rw [startsWithDriveLetter, drive, Bool.false_and]

theorem startsWithDriveLetter_path (noBar : ∀ name ∈ names.head?, '|' ∉ name) :
    startsWithDriveLetter (['/'].intercalate names) = false := by
  rcases names with - | ⟨name, names⟩
  · rfl
  · have some := (plain.plain name List.mem_cons_self).some
    obtain ⟨behind, same, slash⟩ := exists_intercalate_cons name names
    rw [same]
    exact startsWithDriveLetter_append (plain.noScheme name rfl) (noBar name rfl) some slash

/-- A path has a first character, which divides nothing. -/
theorem exists_path_eq_cons : ∃ c rest, ['/'].intercalate names = c :: rest ∧
    c ≠ '?' ∧ c ≠ '#' ∧ isSlash c = false ∧ isIgnored c = false := by
  obtain ⟨name, others, rfl⟩ := List.exists_cons_of_ne_nil plain.some
  have first := plain.plain name List.mem_cons_self
  obtain ⟨behind, same, -⟩ := exists_intercalate_cons name others
  obtain ⟨c, more, rfl⟩ := List.exists_cons_of_ne_nil first.some
  obtain ⟨noQuestion, noHash, noBackslash, kept⟩ := first.characters c List.mem_cons_self
  have noSlash : c ≠ '/' := fun slash => first.noSlash (slash ▸ List.mem_cons_self)
  exact ⟨c, more ++ behind, same, noQuestion, noHash, by simp [isSlash, noSlash, noBackslash], kept⟩

omit plain in
theorem schemeKind_eq_file_iff {scheme : String} : schemeKind scheme = .file ↔ scheme = "file" := by
  rw [schemeKind]
  split
  · next same => simp [same]
  · next different => split <;> simp [different]

theorem continuing_path (path : List Char) :
    base.continuing path (['/'].intercalate names) =
      ⟨base.scheme, base.authority, String.ofList (folder (schemeKind base.scheme) path ++ encodedPath names), none,
        none⟩ := by
  have noDrive (file : schemeKind base.scheme = .file) (_ : opened (schemeKind base.scheme) path = ['/']) :
      ∀ name ∈ names.head?, ':' ∉ name ∧ '|' ∉ name :=
    fun name first => ⟨plain.noScheme name first, plain.noDrive (schemeKind_eq_file_iff.mp file) name first⟩
  obtain ⟨drive, read⟩ := readPath_names plain.plain noDrive plain.some
  rw [continuing, read]
  rfl

theorem readRelative_path (other : base.scheme ≠ "file") :
    readRelative base (['/'].intercalate names) = .ok
      ⟨base.scheme, base.authority, String.ofList (base.folderOf ++ encodedPath names), none, none⟩ := by
  obtain ⟨c, rest, text, noQuestion, noHash, noSlash, -⟩ := exists_path_eq_cons plain
  have continued := continuing_path plain
  rw [text] at continued ⊢
  simp only [readRelative, if_neg noQuestion, if_neg noHash, noSlash, continued, folderOf]
  simp [other]

theorem readFile_path (file : base.scheme = "file") :
    readFile base (['/'].intercalate names) = .ok
      ⟨base.scheme, base.authority, String.ofList (base.folderOf ++ encodedPath names), none, none⟩ := by
  obtain ⟨c, rest, text, noQuestion, noHash, noSlash, kept⟩ := exists_path_eq_cons plain
  have continued := continuing_path plain
  have noDrive := startsWithDriveLetter_path plain (plain.noDrive file)
  have cleaned := clean_path plain
  rw [text] at continued noDrive cleaned ⊢
  have unignored : (c :: rest).dropWhile isIgnored = c :: rest := dropWhile_eq_self (by rintro _ ⟨⟩; exact kept)
  simp only [readFile, unignored, noSlash, if_neg noQuestion, if_neg noHash, cleaned, noDrive, continued, folderOf]
  simp [file, schemeKind]

/-- A path of plain names leads to its encoded names behind the folder of the base. -/
theorem join_path (canBe : base.cannotBeABase = false) :
    base.join (String.ofList (['/'].intercalate names)) = .ok
      ⟨base.scheme, base.authority, String.ofList (base.folderOf ++ encodedPath names), none, none⟩ := by
  have noScheme := splitScheme?_path plain
  have cleaned := clean_path plain
  have relative := readRelative_path plain
  have onDisk := readFile_path plain
  obtain ⟨c, rest, text, -, noHash, -, -⟩ := exists_path_eq_cons plain
  rw [join, read]
  simp only [trim_path plain]
  rw [text] at noScheme cleaned relative onDisk ⊢
  simp only [cleaned, noScheme, readWithoutScheme, canBe, Bool.false_eq_true, if_false]
  split
  · next starts => exact absurd (List.cons.inj starts).1 noHash
  · split
    · next file => exact onDisk file
    · next other => exact relative other

theorem join_path_error (cannotBe : base.cannotBeABase = true) :
    base.join (String.ofList (['/'].intercalate names)) = .error .relativeWithCannotBeABaseBase := by
  have noScheme := splitScheme?_path plain
  have cleaned := clean_path plain
  obtain ⟨c, rest, text, -, noHash, -, -⟩ := exists_path_eq_cons plain
  rw [join, read]
  simp only [trim_path plain]
  rw [text] at noScheme cleaned ⊢
  simp only [cleaned, noScheme, readWithoutScheme, cannotBe, if_true]
  split
  · next starts => exact absurd (List.cons.inj starts).1 noHash
  · rfl

end

/-! ## Different paths -/

theorem splitList_encodedPath {names : List (List Char)} (plain : ∀ name ∈ names, IsPlainName name)
    (some : names ≠ []) : splitList '/' (encodedPath names) = names.map (percentEncode inPathSet) := by
  induction names with
  | nil => exact absurd rfl some
  | cons name names ih =>
    obtain ⟨first, others⟩ := List.forall_mem_cons.mp plain
    rcases names with - | ⟨next, names⟩
    · simpa [encodedPath] using splitList_of_notMem (slash_notMem_name first)
    · rw [encodedPath_cons_cons, splitList_append (slash_notMem_name first), ih others (List.cons_ne_nil _ _)]
      rfl

/-- Different plain names lead to different paths. -/
theorem eq_of_encodedPath_eq {names others : List (List Char)} (plain : ∀ name ∈ names, IsPlainName name)
    (plainOthers : ∀ name ∈ others, IsPlainName name) (some : names ≠ []) (someOthers : others ≠ [])
    (same : encodedPath names = encodedPath others) : names = others := by
  have pieces := congrArg (splitList '/') same
  rw [splitList_encodedPath plain some, splitList_encodedPath plainOthers someOthers] at pieces
  exact eq_of_map_percentEncode_eq readsPairs_digitPair? toNat_lt_of_not_inPathSet
    (fun _ name member => (plain name member).free) (fun _ name member => (plainOthers name member).free) pieces

/-- The path of a URL does not end in a space, so that nothing of it goes with the fragment. -/
theorem withoutFragment_of_stops {scheme : String} {authority : Option Authority} {path : List Char}
    (stops : ∀ c ∈ path.getLast?, (c == ' ') = false) :
    (⟨scheme, authority, String.ofList path, none, none⟩ : Url).withoutFragment =
      ⟨scheme, authority, String.ofList path, none, none⟩ := by
  simp only [withoutFragment, String.toList_ofList, reverse_dropWhile_reverse stops, ite_self]

theorem getLast?_append_encodedPath {names : List (List Char)} (plain : ∀ name ∈ names, IsPlainName name)
    (some : names ≠ []) (front : List Char) : ∀ c ∈ (front ++ encodedPath names).getLast?, (c == ' ') = false := by
  obtain ⟨name, others, rfl⟩ := List.exists_cons_of_ne_nil some
  have inner : encodedPath (name :: others) ≠ [] := by
    obtain ⟨behind, same, -⟩ :=
      exists_intercalate_cons (percentEncode inPathSet name) (others.map (percentEncode inPathSet))
    rw [encodedPath, List.map_cons, same]
    exact List.append_ne_nil_of_left_ne_nil (percentEncode_ne_nil (plain name List.mem_cons_self).some) _
  intro c last
  rw [List.getLast?_append_of_ne_nil _ inner] at last
  rw [beq_eq_false_iff_ne]
  rintro rfl
  rcases mem_intercalate (List.mem_of_getLast? last) with slash | ⟨piece, member, inside⟩
  · exact absurd slash (by decide)
  · obtain ⟨other, -, rfl⟩ := List.mem_map.mp member
    exact notMem_percentEncode (.inr (by decide)) (by decide) (by decide) inside

/-- Different paths of plain names lead to different URLs, also without their fragments. -/
theorem eq_of_join_eq {base : Url} {names others : List (List Char)} (plain : IsPlainPath base names)
    (plainOthers : IsPlainPath base others) {u v : Url}
    (joined : base.join (String.ofList (['/'].intercalate names)) = .ok u)
    (joinedOthers : base.join (String.ofList (['/'].intercalate others)) = .ok v)
    (same : u.withoutFragment = v.withoutFragment) : names = others := by
  cases canBe : base.cannotBeABase with
  | true =>
    rw [join_path_error plain canBe] at joined
    cases joined
  | false =>
    rw [join_path plain canBe] at joined
    rw [join_path plainOthers canBe] at joinedOthers
    cases joined
    cases joinedOthers
    rw [withoutFragment_of_stops (getLast?_append_encodedPath plain.plain plain.some _),
      withoutFragment_of_stops (getLast?_append_encodedPath plainOthers.plain plainOthers.some _)] at same
    have paths : encodedPath names = encodedPath others := by
      simpa [String.ofList_inj] using congrArg Url.path same
    exact eq_of_encodedPath_eq plain.plain plainOthers.plain plain.some plainOthers.some paths

/-! ## URLs of files -/

theorem toNat_lt_of_not_inFileNameSet (c : Char) (outside : inFileNameSet c = false) : c.toNat < 0x80 := by
  simp only [inFileNameSet, Bool.or_eq_false_iff] at outside
  exact toNat_lt_of_not_inPathSet c outside.1.1.1

theorem slash_notMem_fileName (name : List Char) : '/' ∉ percentEncode inFileNameSet name :=
  notMem_percentEncode (.inr (by decide)) (by decide) (by decide)

theorem splitList_fileNames (piece : List Char) (plain : '/' ∉ piece) (names : List (List Char)) :
    splitList '/' (piece ++ names.flatMap fun name => '/' :: percentEncode inFileNameSet name) =
      piece :: names.map (percentEncode inFileNameSet) := by
  induction names generalizing piece with
  | nil => simpa using splitList_of_notMem plain
  | cons name names ih =>
    rw [List.flatMap_cons, List.cons_append, splitList_append plain, ih _ (slash_notMem_fileName name)]
    rfl

/-- The URL of a file has the encoded names behind slashes as its path. -/
theorem splitList_ofFile {components : List String} (some : components ≠ []) :
    splitList '/' (ofFile components).path.toList =
      [] :: (components.map String.toList).map (percentEncode inFileNameSet) := by
  obtain ⟨name, rest, rfl⟩ := List.exists_cons_of_ne_nil some
  have split := splitList_fileNames [] List.not_mem_nil ((name :: rest).map String.toList)
  rw [List.flatMap_map] at split
  simpa [ofFile] using split

/-- Different files have different URLs, also without their fragments. -/
theorem eq_of_ofFile_eq {components others : List String} (named : ∀ name ∈ components, name.toList ≠ [])
    (namedOthers : ∀ name ∈ others, name.toList ≠ [])
    (same : (ofFile components).withoutFragment = (ofFile others).withoutFragment) : components = others := by
  have paths : (ofFile components).path = (ofFile others).path := congrArg Url.path same
  have root {rest : List String} {name : String} (written : name.toList ≠ [])
      (same : (ofFile (name :: rest)).path = (ofFile []).path) : False := by
    have pieces := congrArg (fun path => splitList '/' path.toList) same
    rw [splitList_ofFile (List.cons_ne_nil _ _)] at pieces
    exact percentEncode_ne_nil written (List.cons.inj (List.cons.inj pieces).2).1
  rcases components with - | ⟨name, components⟩
  · rcases others with - | ⟨other, others⟩
    · rfl
    · exact (root (namedOthers other List.mem_cons_self) paths.symm).elim
  · rcases others with - | ⟨other, others⟩
    · exact (root (named name List.mem_cons_self) paths).elim
    · have pieces := congrArg (fun path => splitList '/' path.toList) paths
      rw [splitList_ofFile (List.cons_ne_nil _ _), splitList_ofFile (List.cons_ne_nil _ _)] at pieces
      have names := eq_of_map_percentEncode_eq readsPairs_digitPair? toNat_lt_of_not_inFileNameSet
        (fun outside => absurd outside (by decide)) (fun outside => absurd outside (by decide)) (List.cons.inj pieces).2
      exact List.map_injective_iff.mpr (fun _ _ => String.toList_injective) names

end JsonSchema.Url
