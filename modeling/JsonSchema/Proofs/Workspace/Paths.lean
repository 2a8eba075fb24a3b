import JsonSchema.Proofs.Pointer.Text
import JsonSchema.Proofs.Url.RelativePath
import JsonSchema.Workspace

/-! # Paths of files

A path leads to components, whatever is written between them. A path that goes on with the names of a file leads on to
these names (`foldl_step_joinPath`), so that different files below a directory have different absolute paths
(`FileTree.pathComponents_of_absolutePath`).
-/

namespace JsonSchema

open Url (IsName)

/-! ## Names of a path -/

theorem splitList_append_cons {α : Type} [DecidableEq α] {separator : α} (front back : List α) :
    splitList separator (front ++ separator :: back) = splitList separator front ++ splitList separator back := by
  induction front with
  | nil => exact splitList_cons_self separator back
  | cons first front ih =>
    by_cases same : first = separator
    · subst same
      rw [List.cons_append, splitList_cons_self, splitList_cons_self, ih, List.cons_append]
    · obtain ⟨piece, pieces, pieced⟩ := List.exists_cons_of_ne_nil (splitList_ne_nil separator front)
      rw [List.cons_append, splitList, splitList, if_neg same, if_neg same, ih, pieced]
      rfl

theorem step_of_isName {name : String} (named : IsName name.toList) (components : List String) :
    step components name = components ++ [name] := by
  have some : name ≠ "" := by rintro rfl; exact named.some rfl
  have noDot : name ≠ "." := by rintro rfl; exact named.noDot rfl
  have noDots : name ≠ ".." := by rintro rfl; exact named.noDots rfl
  simp [step, some, noDot, noDots]

theorem step_empty (components : List String) : step components "" = components := rfl

/-- A further name leads on from what the path leads to. -/
theorem foldl_step_joinPath_singleton {name : String} (named : IsName name.toList) (path : String)
    (start : List String) :
    (pathNames (joinPath path [name])).foldl step start = (pathNames path).foldl step start ++ [name] := by
  have last : splitList '/' name.toList = [name.toList] := splitList_of_notMem named.noSlash
  rw [joinPath, List.foldl_cons, List.foldl_nil]
  split
  · next slash =>
    obtain ⟨front, same⟩ := List.getLast?_eq_some_iff.mp slash
    rw [pathNames, pathNames, String.toList_append, same, List.append_assoc, List.singleton_append,
      splitList_append_cons, splitList_append_cons, last]
    simp [splitList, step_empty, step_of_isName named]
  · rw [pathNames, pathNames, String.toList_append, String.toList_append, List.append_assoc]
    rw [show "/".toList ++ name.toList = '/' :: name.toList from rfl, splitList_append_cons, last]
    simp [step_of_isName named]

theorem foldl_step_joinPath {names : List String} (named : ∀ name ∈ names, IsName name.toList) (path : String)
    (start : List String) :
    (pathNames (joinPath path names)).foldl step start = (pathNames path).foldl step start ++ names := by
  induction names generalizing path with
  | nil => simp [joinPath]
  | cons name names ih =>
    obtain ⟨first, others⟩ := List.forall_mem_cons.mp named
    have further := ih others (joinPath path [name])
    rw [foldl_step_joinPath_singleton first, List.append_assoc, List.singleton_append] at further
    exact further

theorem isName_of_mem_step {name : String} (noSlash : '/' ∉ name.toList) {components : List String}
    (named : ∀ name ∈ components, IsName name.toList) : ∀ other ∈ step components name, IsName other.toList := by
  intro other inside
  unfold step at inside
  split at inside
  · exact named other inside
  · next goesOn =>
    simp only [Bool.or_eq_true, beq_iff_eq, not_or, String.isEmpty_iff] at goesOn
    split at inside
    · exact named other (List.dropLast_subset components inside)
    · next noDots =>
      rcases List.mem_append.mp inside with inside | last
      · exact named other inside
      · obtain rfl := List.mem_singleton.mp last
        refine ⟨?_, ?_, ?_, noSlash⟩
        · exact fun empty => goesOn.1 (String.toList_inj.mp empty)
        · exact fun dot => goesOn.2 (String.toList_inj.mp dot)
        · exact fun dots => noDots (beq_iff_eq.mpr (String.toList_inj.mp dots))

theorem isName_of_mem_foldl_step {names start : List String} (noSlash : ∀ name ∈ names, '/' ∉ name.toList)
    (named : ∀ name ∈ start, IsName name.toList) : ∀ name ∈ names.foldl step start, IsName name.toList := by
  induction names generalizing start with
  | nil => exact named
  | cons name names ih =>
    obtain ⟨first, others⟩ := List.forall_mem_cons.mp noSlash
    exact ih others (isName_of_mem_step first named)

theorem slash_notMem_of_mem_pathNames {path name : String} (member : name ∈ pathNames path) : '/' ∉ name.toList := by
  obtain ⟨piece, inside, rfl⟩ := List.mem_map.mp member
  rw [String.toList_ofList]
  exact notMem_of_mem_splitList inside

/-- What a path leads to are names. -/
theorem isName_of_mem_pathComponents {path : String} : ∀ name ∈ pathComponents path, IsName name.toList :=
  isName_of_mem_foldl_step (fun _ => slash_notMem_of_mem_pathNames) (by simp)

theorem pathComponents_joinPath_root {names : List String} (named : ∀ name ∈ names, IsName name.toList) :
    pathComponents (joinPath "/" names) = names := by
  rw [pathComponents, foldl_step_joinPath named]
  rfl

theorem exists_joinPath_eq_append (path : String) (names : List String) :
    ∃ rest, joinPath path names = path ++ rest := by
  induction names generalizing path with
  | nil => exact ⟨"", by simp [joinPath]⟩
  | cons name names ih =>
    obtain ⟨rest, same⟩ := ih (joinPath path [name])
    rw [show joinPath path (name :: names) = joinPath (joinPath path [name]) names from rfl, same]
    rw [joinPath, List.foldl_cons, List.foldl_nil]
    split
    · exact ⟨name ++ rest, String.append_assoc ..⟩
    · exact ⟨"/" ++ name ++ rest, by simp only [String.append_assoc]⟩

/-! ## Files of a tree -/

namespace FileTree

variable {tree : FileTree} {path : String} {components reached : List String} {entry : Entry}

/-- The components that a path starts from: none if it is absolute, and else those of the root. -/
def startOf (tree : FileTree) (path : String) : List String :=
  if "/".isPrefixOf path then [] else pathComponents tree.root

theorem isName_of_mem_startOf : ∀ name ∈ tree.startOf path, IsName name.toList := by
  unfold startOf
  split
  · simp
  · exact isName_of_mem_pathComponents

theorem startOf_joinPath (some : path ≠ "") (names : List String) :
    tree.startOf (joinPath path names) = tree.startOf path := by
  obtain ⟨rest, same⟩ := exists_joinPath_eq_append path names
  obtain ⟨c, front, text⟩ := List.exists_cons_of_ne_nil (mt String.toList_inj.mp some : path.toList ≠ "".toList)
  have starts : "/".isPrefixOf (joinPath path names) = "/".isPrefixOf path := by
    rw [Bool.eq_iff_iff, same, String.isPrefixOf, String.isPrefixOf, String.startsWith_string_iff,
      String.startsWith_string_iff, String.toList_append, text]
    simp
  rw [startOf, startOf, starts]

theorem eq_foldl_of_follow {names : List String} (followed : tree.follow components names = .ok reached) :
    reached = names.foldl step components := by
  induction names generalizing components with
  | nil => exact (Except.ok.inj followed).symm
  | cons name names ih =>
    rw [follow] at followed
    split at followed
    · cases followed
    · cases followed
    · split at followed
      · cases followed
      · exact ih followed

/-- A path leads to the components that its names lead to. -/
theorem eq_foldl_of_resolve (found : tree.resolve path = .ok (reached, entry)) :
    path ≠ "" ∧ reached = (pathNames path).foldl step (tree.startOf path) := by
  cases followed : tree.followPath path (pathNames path) with
  | error fault =>
    rw [resolve, followed] at found
    cases found
  | ok components =>
    have same : components = reached := by
      rw [resolve, followed] at found
      dsimp only [bind, Except.bind] at found
      split at found
      · cases found
        rfl
      · cases found
    subst same
    unfold followPath at followed
    split at followed
    · cases followed
    · next some =>
      split at followed
      · cases followed
      · exact ⟨by simpa using some, eq_foldl_of_follow followed⟩

theorem isName_of_mem_resolve (found : tree.resolve path = .ok (reached, entry)) :
    ∀ name ∈ reached, IsName name.toList := by
  obtain ⟨-, rfl⟩ := eq_foldl_of_resolve found
  exact isName_of_mem_foldl_step (fun _ => slash_notMem_of_mem_pathNames) isName_of_mem_startOf

/-- A file below a path has its names behind the components of the path. -/
theorem pathComponents_of_absolutePath {names : List String} (named : ∀ name ∈ names, IsName name.toList)
    (found : tree.resolve path = .ok (reached, entry)) {absolute : String}
    (leads : tree.absolutePath (joinPath path names) = .ok absolute) : pathComponents absolute = reached ++ names := by
  have namedReached := isName_of_mem_resolve found
  obtain ⟨some, rfl⟩ := eq_foldl_of_resolve found
  cases further : tree.resolve (joinPath path names) with
  | error fault =>
    rw [absolutePath, further] at leads
    cases leads
  | ok target =>
    rw [absolutePath, further] at leads
    obtain ⟨-, same⟩ := eq_foldl_of_resolve further
    rw [startOf_joinPath some, foldl_step_joinPath named] at same
    obtain rfl := Except.ok.inj leads
    rw [same, pathComponents_joinPath_root]
    intro name member
    rcases List.mem_append.mp member with inside | inside
    · exact namedReached name inside
    · exact named name inside

end FileTree

end JsonSchema
