import JsonSchema.Vocabulary

/-! # The order of application

The keywords of a schema object are applied in ascending order of their place, those of one place in
order of registration, except that a keyword waits for its dependencies that are present. Where
dependencies form a cycle the first keyword that is left goes ahead.
-/

namespace JsonSchema

/-- A keyword of a schema object with its registration, and something that goes along with it. -/
structure KeywordEntry (α : Type _) where
  /-- The position of the registration in its table. -/
  position : Nat
  spec : KeywordSpec
  item : α

namespace KeywordEntry

variable {α : Type _}

/-- Whether an entry stands before another as far as places and registration go. -/
def precedes (a b : KeywordEntry α) : Bool :=
  a.spec.order < b.spec.order || a.spec.order == b.spec.order && a.position ≤ b.position

/-- Whether no dependency of an entry is among the given ones. -/
def isReady (entries : List (KeywordEntry α)) (entry : KeywordEntry α) : Bool :=
  entry.spec.dependencies.all fun name => !entries.any (·.spec.keyword == name)

/-- The first element with a property, and the others. -/
def extract? {β : Type _} (p : β → Bool) : List β → Option (β × List β)
  | [] => none
  | b :: rest => if p b then some (b, rest) else (extract? p rest).map fun (found, others) => (found, b :: others)

theorem length_of_extract? {β : Type _} {p : β → Bool} {list others : List β} {found : β}
    (h : extract? p list = some (found, others)) : others.length + 1 = list.length := by
  induction list generalizing found others with
  | nil => simp [extract?] at h
  | cons b rest ih =>
    by_cases hp : p b = true
    · simp only [extract?, hp, if_true, Option.some.injEq, Prod.mk.injEq] at h
      simp [← h.2]
    · rw [extract?, if_neg hp, Option.map_eq_some_iff] at h
      obtain ⟨⟨_, _⟩, inner, same⟩ := h
      simp only [Prod.mk.injEq] at same
      simp [← same.2, ih inner]

/-- The entry that goes next, and those that are left. -/
def next (first : KeywordEntry α) (rest : List (KeywordEntry α)) : KeywordEntry α × List (KeywordEntry α) :=
  (extract? (isReady (first :: rest)) (first :: rest)).getD (first, rest)

theorem length_next (first : KeywordEntry α) (rest : List (KeywordEntry α)) :
    (next first rest).2.length = rest.length := by
  unfold next
  cases h : extract? (isReady (first :: rest)) (first :: rest) with
  | none => rfl
  | some pair =>
    obtain ⟨found, others⟩ := pair
    have := length_of_extract? h
    simpa using this

/-- Lets one entry after the other go ahead. -/
def release : List (KeywordEntry α) → List (KeywordEntry α)
  | [] => []
  | first :: rest => (next first rest).1 :: release (next first rest).2
termination_by entries => entries.length
decreasing_by simp [length_next]

/-- Puts an entry before the first one that it precedes. -/
def insertByPlace (entry : KeywordEntry α) : List (KeywordEntry α) → List (KeywordEntry α)
  | [] => [entry]
  | first :: rest => if precedes entry first then entry :: first :: rest else first :: insertByPlace entry rest

/-- Entries by place and registration. -/
def byPlace (entries : List (KeywordEntry α)) : List (KeywordEntry α) := entries.foldr insertByPlace []

/-- Entries in the order of application. -/
def inOrder (entries : List (KeywordEntry α)) : List (KeywordEntry α) := release (byPlace entries)

end KeywordEntry

end JsonSchema
