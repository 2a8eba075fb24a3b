/-! # Entries

Lists of keys with their values, each key at most once: what stands under a key, and how an entry is
put in place or added. What is put is what is found, and other keys do not notice.
-/

namespace JsonSchema

/-- The entry under a key. -/
def assoc? {α β : Type _} [DecidableEq α] (key : α) : List (α × β) → Option β
  | [] => none
  | (other, value) :: rest => if key = other then some value else assoc? key rest

/-- Puts an entry in the place of those with its key, or at the end. -/
def putEntry {α β : Type _} [DecidableEq α] (key : α) (value : β) : List (α × β) → List (α × β)
  | [] => [(key, value)]
  | (other, old) :: rest =>
    if key = other then (key, value) :: rest else (other, old) :: putEntry key value rest

/-- Puts an entry at the end unless its key has one. -/
def addEntry {α β : Type _} [DecidableEq α] (key : α) (value : β) (entries : List (α × β)) : List (α × β) :=
  match assoc? key entries with
  | some _ => entries
  | none => entries ++ [(key, value)]

theorem mem_of_assoc? {α β : Type _} [DecidableEq α] {key : α} {value : β} {entries : List (α × β)}
    (found : assoc? key entries = some value) : (key, value) ∈ entries := by
  induction entries with
  | nil => exact nomatch found
  | cons head rest ih =>
    obtain ⟨other, old⟩ := head
    by_cases same : key = other
    · rw [assoc?, if_pos same] at found
      rw [same, Option.some.inj found]
      exact List.mem_cons_self
    · rw [assoc?, if_neg same] at found
      exact List.mem_cons_of_mem _ (ih found)

theorem isSome_assoc?_iff {α β : Type _} [DecidableEq α] {key : α} {entries : List (α × β)} :
    (assoc? key entries).isSome ↔ key ∈ entries.map (·.1) := by
  induction entries with
  | nil => simp [assoc?]
  | cons head rest ih =>
    obtain ⟨other, old⟩ := head
    by_cases same : key = other <;> simp [assoc?, same, ih]

theorem assoc?_putEntry_self {α β : Type _} [DecidableEq α] (key : α) (value : β) (entries : List (α × β)) :
    assoc? key (putEntry key value entries) = some value := by
  induction entries with
  | nil => simp [putEntry, assoc?]
  | cons head rest ih =>
    obtain ⟨other, old⟩ := head
    by_cases same : key = other <;> simp [putEntry, assoc?, same, ih]

theorem assoc?_putEntry_of_ne {α β : Type _} [DecidableEq α] {key other : α} (different : key ≠ other) (value : β)
    (entries : List (α × β)) : assoc? key (putEntry other value entries) = assoc? key entries := by
  induction entries with
  | nil => simp [putEntry, assoc?, different]
  | cons head rest ih =>
    obtain ⟨present, old⟩ := head
    by_cases same : other = present
    · subst same
      simp [putEntry, assoc?, different]
    · simp [putEntry, assoc?, same, ih]

end JsonSchema
