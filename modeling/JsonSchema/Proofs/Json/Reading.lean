import JsonSchema.Json.Reader
import JsonSchema.Proofs.Compile.Branches

/-! # Values that are read

A reader puts each member of an object in its place, so that the members stand in ascending order of their names
(`Json.Ascending`). Hence a value that is read from a text names every member once (`Json.namesOnce_read`).
-/

namespace JsonSchema

namespace Json

/-! ## Members in ascending order -/

/-- Whether members stand in ascending order of their names. -/
def Ascending (members : List (String × Json)) : Prop := members.Pairwise fun one other => one.1 < other.1

variable {members : List (String × Json)} {key : String} {value : Json}

theorem Ascending.nodup (ascending : Ascending members) : (members.map (·.1)).Nodup :=
  List.pairwise_map.mpr (ascending.imp fun before => Std.ne_of_lt before)

theorem mem_of_mem_insertMember {member : String × Json} (inside : member ∈ insertMember key value members) :
    member = (key, value) ∨ member ∈ members := by
  induction members with
  | nil => exact .inl (List.mem_singleton.mp inside)
  | cons head rest ih =>
    rw [insertMember] at inside
    split at inside
    · exact List.mem_cons.mp inside
    · split at inside
      · exact (List.mem_cons.mp inside).imp_right (List.mem_cons_of_mem _)
      · rcases List.mem_cons.mp inside with rfl | inside
        · exact .inr List.mem_cons_self
        · exact (ih inside).imp_right (List.mem_cons_of_mem _)

theorem Ascending.insertMember (ascending : Ascending members) : Ascending (insertMember key value members) := by
  induction members with
  | nil => exact List.pairwise_singleton _ _
  | cons head rest ih =>
    obtain ⟨ahead, behind⟩ := List.pairwise_cons.mp ascending
    rw [Json.insertMember]
    split
    · next before =>
      refine List.pairwise_cons.mpr ⟨fun member inside => ?_, ascending⟩
      rcases List.mem_cons.mp inside with rfl | inside
      · exact before
      · exact String.lt_trans before (ahead member inside)
    · split
      · next same =>
        subst same
        exact List.pairwise_cons.mpr ⟨ahead, behind⟩
      · next notBefore different =>
        refine List.pairwise_cons.mpr ⟨fun member inside => ?_, ih behind⟩
        rcases mem_of_mem_insertMember inside with rfl | inside
        · exact Std.lt_of_le_of_ne (String.not_lt.mp notBefore) (Ne.symm different)
        · exact ahead member inside

/-! ## Names in values -/

theorem namesOnce_of_values_eq (alone : value.values = [value]) (fits : value.HasDistinctNames) : value.NamesOnce := by
  intro inner inside
  rw [alone, List.mem_singleton] at inside
  exact inside ▸ fits

theorem mem_valuesOfItems {items : List Json} {inner : Json} (inside : inner ∈ valuesOfItems items) :
    ∃ item ∈ items, inner ∈ item.values := by
  induction items with
  | nil => exact absurd inside List.not_mem_nil
  | cons item rest ih =>
    rcases List.mem_append.mp inside with here | there
    · exact ⟨item, List.mem_cons_self, here⟩
    · obtain ⟨found, member, below⟩ := ih there
      exact ⟨found, List.mem_cons_of_mem _ member, below⟩

theorem mem_valuesOfMembers {inner : Json} (inside : inner ∈ valuesOfMembers members) :
    ∃ member ∈ members, inner ∈ member.2.values := by
  induction members with
  | nil => exact absurd inside List.not_mem_nil
  | cons member rest ih =>
    rcases List.mem_append.mp inside with here | there
    · exact ⟨member, List.mem_cons_self, here⟩
    · obtain ⟨found, other, below⟩ := ih there
      exact ⟨found, List.mem_cons_of_mem _ other, below⟩

theorem namesOnce_array {items : List Json} (names : ∀ item ∈ items, item.NamesOnce) :
    (Json.array items).NamesOnce := by
  intro inner inside
  rcases List.mem_cons.mp inside with rfl | below
  · trivial
  · obtain ⟨item, member, below⟩ := mem_valuesOfItems below
    exact names item member inner below

theorem namesOnce_object (distinct : (members.map (·.1)).Nodup) (names : ∀ member ∈ members, member.2.NamesOnce) :
    (Json.object members).NamesOnce := by
  intro inner inside
  rcases List.mem_cons.mp inside with rfl | below
  · exact distinct
  · obtain ⟨member, inside, below⟩ := mem_valuesOfMembers below
    exact names member inside inner below

/-! ## What a reader makes -/

namespace Reader

/-- Whether what is read names every member once. -/
def ReadsNamesOnce (read : Cursor → Result Json) : Prop :=
  ∀ cursor value rest, read cursor = .ok (value, rest) → value.NamesOnce

theorem exists_of_map_eq_ok {α : Type} {read : Except Failure α} {make : α → Json × Cursor} {made : Json × Cursor}
    (succeeds : read.map make = .ok made) : ∃ found, make found = made := by
  cases read with
  | error failure => cases succeeds
  | ok found => exact ⟨found, Except.ok.inj succeeds⟩

/-- A value that is not a container holds no names. -/
theorem readScalar_namesOnce (c : Char) : ReadsNamesOnce (readScalar c) := by
  intro cursor value rest made
  unfold readScalar at made
  split at made
  case h_6 =>
    split at made
    · obtain ⟨found, same⟩ := exists_of_map_eq_ok made
      obtain ⟨rfl, -⟩ := Prod.mk.inj same
      exact namesOnce_of_values_eq rfl trivial
    · cases made
  all_goals
    obtain ⟨found, same⟩ := exists_of_map_eq_ok made
    obtain ⟨rfl, -⟩ := Prod.mk.inj same
    exact namesOnce_of_values_eq rfl trivial

theorem readItems_namesOnce {readItem : Cursor → Result Json} (reads : ReadsNamesOnce readItem) (fuel : Nat) :
    ∀ items, (∀ item ∈ items, item.NamesOnce) → ReadsNamesOnce fun cursor => readItems readItem items cursor fuel := by
  induction fuel with
  | zero => exact fun items names cursor value rest made => nomatch made
  | succ fuel ih =>
    intro items names cursor value rest made
    simp only [readItems] at made
    split at made
    · cases made
    · obtain ⟨rfl, -⟩ := Prod.mk.inj (Except.ok.inj made)
      exact namesOnce_array fun item member => names item (List.mem_reverse.mp member)
    · next start _ =>
      split at made
      · cases made
      · next item further read =>
        refine ih (item :: items) (fun other member => ?_) further value rest made
        rcases List.mem_cons.mp member with rfl | member
        · exact reads start _ _ read
        · exact names other member

theorem readMember_namesOnce {readItem : Cursor → Result Json} (reads : ReadsNamesOnce readItem)
    {cursor further : Cursor}
    {member : String × Json} (made : readMember readItem cursor = .ok (member, further)) : member.2.NamesOnce := by
  simp only [readMember, bind, Except.bind] at made
  split at made
  · cases made
  · split at made
    · cases made
    · split at made
      · cases made
      · next found read =>
        obtain ⟨rfl, -⟩ := Prod.mk.inj (Except.ok.inj made)
        exact reads _ _ _ read
    · cases made

theorem readMembers_namesOnce {readItem : Cursor → Result Json} (reads : ReadsNamesOnce readItem) (fuel : Nat) :
    ∀ first members, Ascending members → (∀ member ∈ members, member.2.NamesOnce) →
      ReadsNamesOnce fun cursor => readMembers readItem first members cursor fuel := by
  induction fuel with
  | zero => exact fun first members ascending names cursor value rest made => nomatch made
  | succ fuel ih =>
    intro first members ascending names cursor value rest made
    simp only [readMembers] at made
    split at made
    · cases made
    · obtain ⟨rfl, -⟩ := Prod.mk.inj (Except.ok.inj made)
      exact namesOnce_object ascending.nodup names
    · split at made
      · cases made
      · next key item further read =>
        refine ih false _ ascending.insertMember (fun member inside => ?_) further value rest made
        rcases mem_of_mem_insertMember inside with rfl | inside
        · exact readMember_namesOnce reads read
        · exact names member inside

theorem readValue_namesOnce (depth : Nat) : ReadsNamesOnce (readValue depth) := by
  induction depth with
  | zero =>
    intro cursor value rest made
    simp only [readValue] at made
    split at made
    any_goals cases made
    exact readScalar_namesOnce _ _ _ _ made
  | succ depth ih =>
    intro cursor value rest made
    simp only [readValue] at made
    split at made
    · cases made
    · exact readItems_namesOnce ih _ [] (fun _ impossible => absurd impossible List.not_mem_nil) _ _ _ made
    · exact readMembers_namesOnce ih _ true [] .nil (fun _ impossible => absurd impossible List.not_mem_nil) _ _ _ made
    · exact readScalar_namesOnce _ _ _ _ made

end Reader

/-- A value that is read from a text names every member once. -/
theorem namesOnce_read {text : String} (made : (read text).toOption = some value) : value.NamesOnce := by
  simp only [read, Reader.readText, bind, Except.bind] at made
  split at made
  · next found read =>
    obtain rfl := Option.some.inj made
    split at read
    · cases read
    · next result reads =>
      split at read
      · obtain rfl := Except.ok.inj read
        exact Reader.readValue_namesOnce _ _ _ _ reads
      · cases read
  · cases made

end Json

end JsonSchema
