import JsonSchema.Binary64
import JsonSchema.Entries
import JsonSchema.Word

/-! # JSON values

Numbers keep one of two forms: an exact integer in the 64-bit range, or a finite double. Objects
are member lists in ascending key order, so a value has one representation and every traversal of
an object visits its members in that order. `Json.insertMember` keeps the order and lets the last
of several equal keys win.
-/

namespace JsonSchema

/-- A JSON number: an integer between `-2 ^ 63` and `2 ^ 64 - 1`, or a finite double. -/
inductive Number where
  | integer (value : Int)
  | double (value : Binary64)
  deriving DecidableEq, Inhabited

namespace Number

/-- Whether an integer is kept exact. -/
def inExactRange (n : Int) : Bool := -(Word.half : Int) ≤ n && n < Word.count

/-- The number that is written as the integer `n`: exact in range, else the nearest double. -/
def ofInt (n : Int) : Number := if inExactRange n then .integer n else .double (.ofInt n)

/-- The nearest double. -/
def toDouble : Number → Binary64
  | .integer n => .ofInt n
  | .double x => x

end Number

/-- A JSON value; the members of an object stand in ascending order of their keys. -/
inductive Json where
  | null
  | bool (value : Bool)
  | number (value : Number)
  | string (value : String)
  | array (items : List Json)
  | object (members : List (String × Json))
  deriving Inhabited

namespace Json

/-- Puts a member at its place among ordered members, replacing one of the same key. -/
def insertMember {α : Type _} (key : String) (value : α) : List (String × α) → List (String × α)
  | [] => [(key, value)]
  | (other, old) :: rest =>
    if key < other then (key, value) :: (other, old) :: rest
    else if key = other then (key, value) :: rest
    else (other, old) :: insertMember key value rest

/-- Orders members by key; of equal keys the last one stays. -/
def sortMembers {α : Type _} (members : List (String × α)) : List (String × α) :=
  members.foldl (fun sorted member => insertMember member.1 member.2 sorted) []

theorem mem_keys_insertMember {α : Type _} {name key : String} {value : α} {sorted : List (String × α)} :
    name ∈ (insertMember key value sorted).map (·.1) ↔ name = key ∨ name ∈ sorted.map (·.1) := by
  induction sorted with
  | nil => simp [insertMember]
  | cons head rest ih =>
    obtain ⟨other, old⟩ := head
    rw [insertMember]
    split
    · simp
    · split
      · next same => simp [same]
      · simp only [List.map_cons, List.mem_cons, ih, or_left_comm]

theorem mem_keys_sortMembers {α : Type _} {name : String} {members : List (String × α)} :
    name ∈ (sortMembers members).map (·.1) ↔ name ∈ members.map (·.1) := by
  suffices general : ∀ sorted : List (String × α),
      name ∈ (members.foldl (fun sorted member => insertMember member.1 member.2 sorted) sorted).map (·.1) ↔
        name ∈ sorted.map (·.1) ∨ name ∈ members.map (·.1) by
    simpa [sortMembers] using general []
  intro sorted
  induction members generalizing sorted with
  | nil => simp
  | cons head rest ih =>
    rw [List.foldl_cons, ih, mem_keys_insertMember, List.map_cons, List.mem_cons, or_assoc, or_left_comm]

/-- The object with the given members, the last of equal keys winning. -/
def ofMembers (members : List (String × Json)) : Json := .object (sortMembers members)

/-- The number written as the integer `n`. -/
def ofInt (n : Int) : Json := .number (.ofInt n)

/-- The number written as the natural number `n`. -/
def ofNat (n : Nat) : Json := .ofInt n

/-- The member of an object under a key; other values have none. -/
def member? (key : String) : Json → Option Json
  | .object members => assoc? key members
  | _ => none

/-- The text of a string value. -/
def string? : Json → Option String
  | .string text => some text
  | _ => none

theorem string?_eq_some_iff {value : Json} {text : String} : value.string? = some text ↔ value = .string text := by
  cases value <;> simp [string?]

/-- The truth value of a Boolean. -/
def bool? : Json → Option Bool
  | .bool value => some value
  | _ => none

/-- The items of an array. -/
def items? : Json → Option (List Json)
  | .array items => some items
  | _ => none

theorem items?_eq_some_iff {value : Json} {items : List Json} : value.items? = some items ↔ value = .array items := by
  cases value <;> simp [items?]

/-- The members of an object. -/
def members? : Json → Option (List (String × Json))
  | .object members => some members
  | _ => none

mutual

/-- Identity of values: the two number forms differ, and so do the two zeros. -/
def identical : Json → Json → Bool
  | .null, .null => true
  | .bool a, .bool b => a == b
  | .number a, .number b => decide (a = b)
  | .string a, .string b => a == b
  | .array as, .array bs => identicalItems as bs
  | .object as, .object bs => identicalMembers as bs
  | _, _ => false

/-- Identity of item lists. -/
def identicalItems : List Json → List Json → Bool
  | [], [] => true
  | a :: as, b :: bs => identical a b && identicalItems as bs
  | _, _ => false

/-- Identity of member lists. -/
def identicalMembers : List (String × Json) → List (String × Json) → Bool
  | [], [] => true
  | (key, a) :: as, (other, b) :: bs => key == other && identical a b && identicalMembers as bs
  | _, _ => false

end

mutual

theorem identical_iff : ∀ {left right : Json}, identical left right = true ↔ left = right
  | .null, right => by cases right <;> simp [identical]
  | .bool _, right => by cases right <;> simp [identical]
  | .number _, right => by cases right <;> simp [identical]
  | .string _, right => by cases right <;> simp [identical]
  | .array _, right => by cases right <;> simp [identical, identicalItems_iff]
  | .object _, right => by cases right <;> simp [identical, identicalMembers_iff]

theorem identicalItems_iff : ∀ {left right : List Json}, identicalItems left right = true ↔ left = right
  | [], right => by cases right <;> simp [identicalItems]
  | _ :: _, right => by cases right <;> simp [identicalItems, identical_iff, identicalItems_iff]

theorem identicalMembers_iff : ∀ {left right : List (String × Json)}, identicalMembers left right = true ↔ left = right
  | [], right => by cases right <;> simp [identicalMembers]
  | (_, _) :: _, right => by
    cases right <;> simp [identicalMembers, identical_iff, identicalMembers_iff, Prod.ext_iff]

end

instance : DecidableEq Json := fun _ _ => decidable_of_iff _ identical_iff

mutual

/-- The nesting depth: scalars have depth zero. -/
def depth : Json → Nat
  | .array items => depthItems items + 1
  | .object members => depthMembers members + 1
  | _ => 0

/-- The greatest depth among items. -/
def depthItems : List Json → Nat
  | [] => 0
  | item :: rest => max (depth item) (depthItems rest)

/-- The greatest depth among member values. -/
def depthMembers : List (String × Json) → Nat
  | [] => 0
  | (_, value) :: rest => max (depth value) (depthMembers rest)

end

theorem assoc?_insertMember_self {α : Type _} (key : String) (value : α) (members : List (String × α)) :
    assoc? key (insertMember key value members) = some value := by
  induction members with
  | nil => simp [insertMember, assoc?]
  | cons head rest ih =>
    obtain ⟨other, old⟩ := head
    by_cases before : key < other
    · simp [insertMember, assoc?, before]
    · by_cases same : key = other
      · subst same
        simp [insertMember, assoc?]
      · simp [insertMember, assoc?, before, same, ih]

theorem assoc?_insertMember_of_ne {α : Type _} {key other : String} (different : key ≠ other) (value : α)
    (members : List (String × α)) : assoc? key (insertMember other value members) = assoc? key members := by
  induction members with
  | nil => simp [insertMember, assoc?, different]
  | cons head rest ih =>
    obtain ⟨present, old⟩ := head
    simp only [insertMember]
    split
    · simp [assoc?, different]
    · split
      · rename_i same
        subst same
        simp [assoc?, different]
      · simp [assoc?, ih]

end Json

end JsonSchema
