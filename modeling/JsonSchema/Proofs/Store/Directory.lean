import JsonSchema.Directory
import JsonSchema.Proofs.Compile.Unnamed
import JsonSchema.Proofs.Store.History
import JsonSchema.Proofs.Workspace.Paths

/-! # Schemas of a directory

A file takes the place of another in the store if both are retrieved from the same URL. The URLs of the files themselves
are different; the URLs under a base are, if the relative paths are read as paths of plain names
(`FileTree.url_ne_url`). Then loading a directory whose documents declare no ids keeps one schema for each file
(`Directory.load_separates`). In general a name may be read as something else, and one file replaces another
(`Directory.load_replaces`).
-/

namespace JsonSchema

namespace FileTree

/-! ## Schema files -/

/-- Whether no file is there twice and the components of files are names. -/
structure IsWellFormed (tree : FileTree) : Prop where
  distinct : (tree.files.map (·.1)).Nodup
  named : ∀ file ∈ tree.files, ∀ name ∈ file.1, Url.IsName name.toList

/-- The schema files below a directory. -/
def schemaFiles (tree : FileTree) (directory : String) : List (List String) :=
  match tree.filesBelow directory with
  | .ok files => files.filter (Directory.isSchemaFile directory)
  | .error _ => []

/-- The URL that a file below a directory is retrieved from. -/
def urlOf (tree : FileTree) (directory : String) (base : Option Url) (components : List String) :
    Except LocateError Url :=
  ((Directory.urlOf workspace directory base components).run tree).1

/-- The value that a file below a directory holds. -/
def valueOf? (tree : FileTree) (directory : String) (components : List String) : Option Json :=
  (tree.read (joinPath directory components)).toOption.bind fun text => (Json.read text).toOption

variable {tree : FileTree} {directory : String} {base : Option Url} {components : List String}

theorem run_urlOf : (Directory.urlOf workspace directory base components).run tree =
    (tree.urlOf directory base components, tree) := by
  cases base with
  | some base =>
    unfold urlOf Directory.urlOf
    dsimp only
    split <;> rfl
  | none => rfl

theorem exists_filesBelow_of_mem_schemaFiles (member : components ∈ tree.schemaFiles directory) :
    ∃ files, tree.filesBelow directory = .ok files ∧ components ∈ files := by
  unfold schemaFiles at member
  split at member
  · next files found => exact ⟨files, found, List.mem_of_mem_filter member⟩
  · exact absurd member List.not_mem_nil

/-- Files below a directory are files of the tree behind the components of the directory. -/
theorem exists_resolve_of_filesBelow {files : List (List String)} (found : tree.filesBelow directory = .ok files) :
    ∃ reached entry, tree.resolve directory = .ok (reached, entry) ∧
      files.Perm (((tree.absoluteFiles.map (·.1)).filter reached.isPrefixOf).map (·.drop reached.length)) := by
  unfold filesBelow at found
  cases resolved : tree.resolve directory with
  | error fault =>
    rw [resolved] at found
    cases found
  | ok target =>
    rw [resolved] at found
    obtain rfl := Except.ok.inj found
    exact ⟨target.1, target.2, rfl, List.mergeSort_perm _ _⟩

theorem filesBelow_of_sorted (reached : List String) {files : List (List String)}
    (found : (tree.resolve directory).toOption.map (·.1) = some reached)
    (listed : ((tree.absoluteFiles.map (·.1)).filter reached.isPrefixOf).map (·.drop reached.length) = files)
    (sorted : files.Pairwise fun first second => (compare first second).isLE) :
    tree.filesBelow directory = .ok files := by
  obtain ⟨target, resolved, rfl⟩ := Option.map_eq_some_iff.mp found
  rw [filesBelow, Except.eq_ok_of_toOption resolved]
  show Except.ok (List.mergeSort _ _) = _
  rw [listed, List.mergeSort_of_pairwise sorted]

namespace IsWellFormed

variable (wellFormed : tree.IsWellFormed)
include wellFormed

theorem nodup_absoluteFiles : (tree.absoluteFiles.map (·.1)).Nodup := by
  have shifted : tree.absoluteFiles.map (·.1) = (tree.files.map (·.1)).map (pathComponents tree.root ++ ·) := by
    rw [absoluteFiles, List.map_map, List.map_map]
    rfl
  rw [shifted]
  exact wellFormed.distinct.map fun first second same => List.append_cancel_left same

theorem isName_of_mem_absoluteFiles : ∀ file ∈ tree.absoluteFiles.map (·.1), ∀ name ∈ file, Url.IsName name.toList := by
  intro path member name inside
  obtain ⟨file, there, rfl⟩ := List.mem_map.mp member
  obtain ⟨⟨components, text⟩, own, rfl⟩ := List.mem_map.mp there
  rcases List.mem_append.mp inside with root | below
  · exact isName_of_mem_pathComponents name root
  · exact wellFormed.named _ own name below

/-- No file below a directory is listed twice. -/
theorem nodup_schemaFiles : (tree.schemaFiles directory).Nodup := by
  unfold schemaFiles
  split
  · next files found =>
    refine List.Nodup.filter _ ?_
    obtain ⟨reached, entry, -, same⟩ := exists_resolve_of_filesBelow found
    refine same.nodup_iff.mpr (List.Nodup.map_on ?_ (wellFormed.nodup_absoluteFiles.filter _))
    intro first member second memberSecond dropped
    obtain ⟨rest, rfl⟩ := List.isPrefixOf_iff_prefix.mp (List.mem_filter.mp member).2
    obtain ⟨restSecond, rfl⟩ := List.isPrefixOf_iff_prefix.mp (List.mem_filter.mp memberSecond).2
    rw [List.drop_left, List.drop_left] at dropped
    rw [dropped]
  · exact List.nodup_nil

theorem isName_of_mem_schemaFiles (member : components ∈ tree.schemaFiles directory) :
    ∀ name ∈ components, Url.IsName name.toList := by
  obtain ⟨files, found, inside⟩ := exists_filesBelow_of_mem_schemaFiles member
  obtain ⟨reached, entry, -, same⟩ := exists_resolve_of_filesBelow found
  obtain ⟨path, there, rfl⟩ := List.mem_map.mp (same.subset inside)
  exact fun name below => wellFormed.isName_of_mem_absoluteFiles path (List.mem_of_mem_filter there) name
    (List.mem_of_mem_drop below)

end IsWellFormed

/-! ## URLs of schema files -/

theorem urlOf_some {base url : Url} (retrieved : tree.urlOf directory (some base) components = .ok url) :
    base.join (String.ofList (['/'].intercalate (components.map String.toList))) = .ok url := by
  have written : "/".intercalate components = String.ofList (['/'].intercalate (components.map String.toList)) := by
    rw [← String.toList_inj, String.toList_intercalate, String.toList_ofList, String.toList_ofList]
  have found : Directory.retrievalUrl? base components = some url := by
    unfold urlOf Directory.urlOf at retrieved
    dsimp only at retrieved
    split at retrieved
    · next found =>
      rw [found]
      exact congrArg some (Except.ok.inj retrieved)
    · cases retrieved
  rw [Directory.retrievalUrl?, written] at found
  exact Except.eq_ok_of_toOption found

theorem urlOf_none {url : Url} (retrieved : tree.urlOf directory none components = .ok url) :
    ∃ absolute, tree.absolutePath (joinPath directory components) = .ok absolute ∧
      url = .ofFile (pathComponents absolute) := by
  have found : ((tree.absolutePath (joinPath directory components)).map fun absolute =>
      Url.ofFile (pathComponents absolute)).mapError LocateError.file = .ok url := retrieved
  cases leads : tree.absolutePath (joinPath directory components) with
  | ok absolute =>
    rw [leads] at found
    exact ⟨absolute, rfl, (Except.ok.inj found).symm⟩
  | error fault =>
    rw [leads] at found
    cases found

/-- Different files are retrieved from different URLs if, under a base, their relative paths are plain. -/
theorem url_ne_url (wellFormed : tree.IsWellFormed)
    (plain : ∀ url ∈ base, ∀ components ∈ tree.schemaFiles directory,
      Url.IsPlainPath url (components.map String.toList))
    {first second : List String} (member : first ∈ tree.schemaFiles directory)
    (memberSecond : second ∈ tree.schemaFiles directory) (different : first ≠ second) {u v : Url}
    (retrieved : tree.urlOf directory base first = .ok u) (retrievedSecond : tree.urlOf directory base second = .ok v) :
    u.withoutFragment ≠ v.withoutFragment := by
  intro same
  apply different
  cases base with
  | some base =>
    have names := Url.eq_of_join_eq (plain base rfl first member) (plain base rfl second memberSecond)
      (urlOf_some retrieved) (urlOf_some retrievedSecond) same
    exact List.map_injective_iff.mpr (fun _ _ => String.toList_injective) names
  | none =>
    obtain ⟨files, found, -⟩ := exists_filesBelow_of_mem_schemaFiles member
    obtain ⟨reached, entry, resolved, -⟩ := exists_resolve_of_filesBelow found
    obtain ⟨absolute, leads, rfl⟩ := urlOf_none retrieved
    obtain ⟨absoluteSecond, leadsSecond, rfl⟩ := urlOf_none retrievedSecond
    rw [pathComponents_of_absolutePath (wellFormed.isName_of_mem_schemaFiles member) resolved leads,
      pathComponents_of_absolutePath (wellFormed.isName_of_mem_schemaFiles memberSecond) resolved leadsSecond] at same
    have written {components : List String} (member : components ∈ tree.schemaFiles directory) :
        ∀ name ∈ reached ++ components, name.toList ≠ [] := by
      intro name inside
      rcases List.mem_append.mp inside with inside | inside
      · exact (isName_of_mem_resolve resolved name inside).some
      · exact (wellFormed.isName_of_mem_schemaFiles member name inside).some
    exact List.append_cancel_left (Url.eq_of_ofFile_eq (written member) (written memberSecond) same)

/-! ## Loading -/

/-- What happens when schema files are loaded one after the other without a fault: each is read, compiled as retrieved
from its URL with the dialects found before, and registered. -/
inductive Loads (tree : FileTree) (options : Options) (directory : String) (base : Option Url) :
    List (List String) → SchemaStore → DialectCache → SchemaStore → Prop
  | nil {store : SchemaStore} {dialects : DialectCache} : Loads tree options directory base [] store dialects store
  | cons {components : List String} {rest : List (List String)} {store last : SchemaStore} {dialects : DialectCache}
      {url : Url} {value : Json} {schema : Schema} (retrieved : tree.urlOf directory base components = .ok url)
      (holds : tree.valueOf? directory components = some value)
      (compiled : (Schema.compileWith options url value dialects).1 = .ok schema)
      (further : Loads tree options directory base rest (store.registerAs url schema)
        (Schema.compileWith options url value dialects).2 last) :
      Loads tree options directory base (components :: rest) store dialects last

variable {options : Options} {files : List (List String)} {store last : SchemaStore} {dialects : DialectCache}

theorem run_readText (path : String) : (workspace.readText path).run tree = (tree.read path, tree) := rfl

theorem run_loadFiles_cons {rest : List (List String)} :
    (Directory.loadFiles workspace options directory base (components :: rest) store dialects).run tree =
      match tree.urlOf directory base components with
      | .error fault => ((.error fault, dialects), tree)
      | .ok url =>
        match tree.read (joinPath directory components) with
        | .error fault => ((.error (.file fault), dialects), tree)
        | .ok text =>
          match Directory.registerText options url text store dialects with
          | (.error fault, dialects) => ((.error fault, dialects), tree)
          | (.ok store, dialects) =>
            (Directory.loadFiles workspace options directory base rest store dialects).run tree := by
  rw [Directory.loadFiles, StateT.run_bind, run_urlOf]
  cases tree.urlOf directory base components with
  | error fault => rfl
  | ok url =>
    change (workspace.readText (joinPath directory components) >>= _ : StateM FileTree _).run tree = _
    rw [StateT.run_bind, run_readText]
    cases tree.read (joinPath directory components) with
    | error fault => rfl
    | ok text =>
      dsimp only [bind]
      rcases Directory.registerText options url text store dialects with ⟨fault | next, found⟩ <;> rfl

theorem exists_of_registerText {url : Url} {text : String} {next : SchemaStore}
    (registered : (Directory.registerText options url text store dialects).1 = .ok next) :
    ∃ value schema, Json.read text = .ok value ∧ (Schema.compileWith options url value dialects).1 = .ok schema ∧
      Directory.registerText options url text store dialects =
        (.ok (store.registerAs url schema), (Schema.compileWith options url value dialects).2) := by
  unfold Directory.registerText at registered ⊢
  cases read : Json.read text with
  | error cause =>
    rw [read] at registered
    cases registered
  | ok value =>
    rw [read] at registered
    simp only [SchemaStore.registerValue] at registered ⊢
    cases compiled : (Schema.compileWith options url value dialects).1 with
    | error cause =>
      rw [compiled] at registered
      cases registered
    | ok schema => exact ⟨value, schema, rfl, compiled, rfl⟩

theorem loads_of_loadFiles
    (loaded : ((Directory.loadFiles workspace options directory base files store dialects).run tree).1.1 = .ok last) :
    tree.Loads options directory base files store dialects last := by
  induction files generalizing store dialects with
  | nil =>
    obtain rfl := Except.ok.inj loaded
    exact .nil
  | cons components rest ih =>
    rw [run_loadFiles_cons] at loaded
    split at loaded
    · cases loaded
    · next url retrieved =>
      split at loaded
      · cases loaded
      · next text read =>
        split at loaded
        · cases loaded
        · next next found registered =>
          obtain ⟨value, schema, holds, compiled, same⟩ := exists_of_registerText (congrArg Prod.fst registered)
          obtain ⟨stored, rfl⟩ := Prod.mk.inj (registered.symm.trans same)
          obtain rfl := Except.ok.inj stored
          have holds : tree.valueOf? directory components = some value := by
            rw [valueOf?, read, Except.toOption, Option.bind_some, holds]
            rfl
          exact .cons retrieved holds compiled (ih loaded)

end FileTree

/-! ## Stores of documents without ids -/

theorem putEntry_append {α β : Type} [DecidableEq α] {key : α} {front : List (α × β)} (fresh : key ∉ front.map (·.1))
    (value : β) (back : List (α × β)) : putEntry key value (front ++ back) = front ++ putEntry key value back := by
  induction front with
  | nil => rfl
  | cons entry front ih =>
    obtain ⟨first, others⟩ := not_or.mp (mt List.mem_cons.mpr fresh)
    rw [List.cons_append, putEntry, if_neg first, ih others, List.cons_append]

/-- A document with one resource is registered under one id. -/
theorem SchemaStore.entries_registerAs {store : SchemaStore} {url : Url} {schema : Schema}
    (tree : schema.document.IsTree) (first : schema.resource = 0)
    (ids : schema.document.resources.toList.map (·.id) = [url.withoutFragment])
    (fresh : url.withoutFragment ∉ store.entries.map (·.1)) :
    (store.registerAs url schema).entries = store.entries ++ [(url.withoutFragment, schema)] := by
  obtain ⟨document, index⟩ := schema
  obtain rfl : index = 0 := first
  obtain ⟨resource, only, named⟩ := List.map_eq_singleton_iff.mp ids
  have size : document.resources.size = 1 := by rw [← Array.length_toList, only, List.length_singleton]
  have found : document.resources[0]? = some resource := by rw [← Array.getElem?_toList, only]; rfl
  have own : (Schema.mk document 0).id = url.withoutFragment := by
    rw [Schema.id, Schema.info?, found]
    exact named
  rw [registerAs, register, familyOf_zero tree, size]
  show putEntry (Schema.mk document 0).id _ (putEntry url.withoutFragment _ store.entries) = _
  have once := putEntry_append fresh (Schema.mk document 0) []
  have twice := putEntry_append fresh (Schema.mk document 0) [(url.withoutFragment, ⟨document, 0⟩)]
  rw [List.append_nil] at once
  rw [own, once]
  simpa [putEntry] using twice

namespace FileTree

variable {tree : FileTree} {directory : String} {base : Option Url} {options : Options} {files : List (List String)}
  {store last : SchemaStore} {initial dialects : DialectCache}

/-- Files without ids that are retrieved from new URLs are kept one by one, each under its own URL. -/
theorem Loads.keeps (loads : tree.Loads options directory base files store dialects last)
    (known : options.Knows (options.answers initial) dialects)
    (noId : ∀ components ∈ files, ∀ value, tree.valueOf? directory components = some value →
      options.FindsNoId initial value)
    (apart : files.Pairwise fun first second => ∀ u v, tree.urlOf directory base first = .ok u →
      tree.urlOf directory base second = .ok v → u.withoutFragment ≠ v.withoutFragment)
    (fresh : ∀ components ∈ files, ∀ url, tree.urlOf directory base components = .ok url →
      url.withoutFragment ∉ store.entries.map (·.1)) :
    ∃ added, last.entries = store.entries ++ added ∧ added.length = files.length ∧
      ∀ components ∈ files, ∃ url value schema, tree.urlOf directory base components = .ok url ∧
        tree.valueOf? directory components = some value ∧
          (Schema.compileWith options url value initial).1 = .ok schema ∧ last.locate url = some schema := by
  induction loads with
  | nil => exact ⟨[], (List.append_nil _).symm, rfl, fun _ member => absurd member List.not_mem_nil⟩
  | @cons components rest store last dialects url value schema retrieved holds compiled further ih =>
    obtain ⟨noIdFirst, noIdRest⟩ := List.forall_mem_cons.mp noId
    obtain ⟨apartFirst, apartRest⟩ := List.pairwise_cons.mp apart
    obtain ⟨freshFirst, freshRest⟩ := List.forall_mem_cons.mp fresh
    obtain ⟨document, first⟩ := Schema.isTree_of_compileWith compiled
    have ids := Schema.ids_of_compileWith (noIdFirst value holds) known compiled
    have registered := SchemaStore.entries_registerAs document first ids (freshFirst url retrieved)
    -- The dialects found on the way do not matter: the library answers as it did at the start.
    obtain ⟨same, knownAfter⟩ := Schema.compileDocument_of_knows known (options.knows_answers initial)
    have freshAfter : ∀ other ∈ rest, ∀ v, tree.urlOf directory base other = .ok v →
        v.withoutFragment ∉ (store.registerAs url schema).entries.map (·.1) := by
      intro other member v retrievedOther
      rw [registered, List.map_append, List.mem_append, not_or]
      refine ⟨freshRest other member v retrievedOther, fun same => ?_⟩
      exact apartFirst other member url v retrieved retrievedOther (List.mem_singleton.mp same).symm
    obtain ⟨added, entries, length, located⟩ := ih knownAfter noIdRest apartRest freshAfter
    refine ⟨(url.withoutFragment, schema) :: added, ?_, ?_, ?_⟩
    · rw [entries, registered, List.append_assoc, List.singleton_append]
    · rw [List.length_cons, List.length_cons, length]
    · refine List.forall_mem_cons.mpr ⟨⟨url, value, schema, retrieved, holds, ?_, ?_⟩, located⟩
      · refine Except.eq_ok_of_toOption (same.symm.trans ?_)
        rw [show (Schema.compileDocument options options.dialect url.withoutFragment true value dialects).1 = .ok schema
          from compiled]
        rfl
      · rw [SchemaStore.locate, entries, registered, assoc?_append, assoc?_append,
          assoc?_eq_none (freshFirst url retrieved), Option.none_or, assoc?, if_pos rfl, Option.some_or]

theorem Loads.exists_urlOf (loads : tree.Loads options directory base files store dialects last) :
    ∀ components ∈ files, ∃ url, tree.urlOf directory base components = .ok url := by
  induction loads with
  | nil => exact fun _ member => absurd member List.not_mem_nil
  | cons retrieved _ _ _ ih => exact List.forall_mem_cons.mpr ⟨⟨_, retrieved⟩, ih⟩

theorem run_load : (Directory.load workspace options directory base dialects).run tree =
    match tree.filesBelow directory with
    | .error fault => ((.error (.walk directory fault), dialects), tree)
    | .ok files => (Directory.loadFiles workspace options directory base
        (files.filter (Directory.isSchemaFile directory)) .empty dialects).run tree := by
  rw [Directory.load, StateT.run_bind]
  show (match tree.filesBelow directory with | .error _ => _ | .ok _ => _ : StateM FileTree _).run tree = _
  split <;> rfl

theorem loads_of_load
    (loaded : ((Directory.load workspace options directory base dialects).run tree).1.1 = .ok last) :
    tree.Loads options directory base (tree.schemaFiles directory) .empty dialects last := by
  rw [run_load] at loaded
  split at loaded
  · cases loaded
  · next files found =>
    rw [schemaFiles, found]
    exact loads_of_loadFiles loaded

theorem findsNoId_of_values (absent : ∀ components ∈ files, ∀ inner ∈
      ((tree.valueOf? directory components).map Json.values).getD [], inner.member? StandardKeyword.id.name = none) :
    ∀ components ∈ files, ∀ value, tree.valueOf? directory components = some value →
      Options.standard.FindsNoId [] value := by
  intro components member value holds
  have inside := absent components member
  rw [holds] at inside
  exact Options.findsNoId_standard_iff.mpr inside

end FileTree

namespace Directory

/-- Every schema file is there once and has a URL, different files have different ones, and a directory whose documents
declare no ids is loaded with one schema for each file, which is found under its URL: provided that, under a base, the
relative paths of the schema files are read as paths of plain names. -/
theorem load_separates {tree : FileTree} {options : Options} {directory : String} {base : Option Url}
    {dialects : DialectCache} {store : SchemaStore} (wellFormed : tree.IsWellFormed)
    (plain : ∀ url ∈ base, ∀ components ∈ tree.schemaFiles directory,
      Url.IsPlainPath url (components.map String.toList))
    (loaded : ((load FileTree.workspace options directory base dialects).run tree).1.1 = .ok store) :
    (tree.schemaFiles directory).Nodup ∧
    (∀ components ∈ tree.schemaFiles directory, ∃ url, tree.urlOf directory base components = .ok url) ∧
    (∀ first ∈ tree.schemaFiles directory, ∀ second ∈ tree.schemaFiles directory, first ≠ second →
      ∀ u v, tree.urlOf directory base first = .ok u → tree.urlOf directory base second = .ok v →
        u.withoutFragment ≠ v.withoutFragment) ∧
    ((∀ components ∈ tree.schemaFiles directory, ∀ value, tree.valueOf? directory components = some value →
        options.FindsNoId dialects value) →
      store.size = (tree.schemaFiles directory).length ∧
        ∀ components ∈ tree.schemaFiles directory, ∃ url value schema,
          tree.urlOf directory base components = .ok url ∧ tree.valueOf? directory components = some value ∧
            (Schema.compileWith options url value dialects).1 = .ok schema ∧ store.locate url = some schema) := by
  have loads := FileTree.loads_of_load loaded
  have apart : ∀ first ∈ tree.schemaFiles directory, ∀ second ∈ tree.schemaFiles directory, first ≠ second →
      ∀ u v, tree.urlOf directory base first = .ok u → tree.urlOf directory base second = .ok v →
        u.withoutFragment ≠ v.withoutFragment :=
    fun first member second memberSecond different u v =>
      FileTree.url_ne_url wellFormed plain member memberSecond different
  refine ⟨wellFormed.nodup_schemaFiles, loads.exists_urlOf, apart, fun noId => ?_⟩
  have pairwise := wellFormed.nodup_schemaFiles.imp_of_mem fun member memberSecond => apart _ member _ memberSecond
  obtain ⟨added, entries, length, located⟩ := loads.keeps (options.knows_answers dialects) noId pairwise
    fun _ _ _ _ => List.not_mem_nil
  refine ⟨?_, located⟩
  rw [SchemaStore.size, entries, ← length]
  rfl

/-- Two files in different directories under a base are kept apart. -/
theorem load_separates_nested :
    let tree : FileTree := ⟨"/w", [(["d", "a.json"], "\x7b\"type\": \"string\"\x7d"),
      (["d", "e", "a.json"], "true")], []⟩
    let base : Url := ⟨"http", some ⟨"", "localhost", none⟩, "/", none, none⟩
    tree.IsWellFormed ∧
    (∀ components ∈ tree.schemaFiles "d", Url.IsPlainPath base (components.map String.toList)) ∧
    (∀ components ∈ tree.schemaFiles "d", ∀ value, tree.valueOf? "d" components = some value →
      Options.standard.FindsNoId [] value) ∧
    ∃ store, ((load FileTree.workspace .standard "d" (some base) []).run tree).1.1 = .ok store ∧ store.size = 2 := by
  intro tree base
  have files : tree.filesBelow "d" = .ok [["a.json"], ["e", "a.json"]] :=
    FileTree.filesBelow_of_sorted ["w", "d"] (by decide +kernel) (by decide +kernel) (by decide +kernel)
  have schemas : tree.schemaFiles "d" = [["a.json"], ["e", "a.json"]] := by
    rw [FileTree.schemaFiles, files]
    decide +kernel
  have wellFormed : tree.IsWellFormed := ⟨by decide, by decide⟩
  have plain : ∀ components ∈ tree.schemaFiles "d", Url.IsPlainPath base (components.map String.toList) := by
    rw [schemas]
    decide +kernel
  have noId : ∀ components ∈ tree.schemaFiles "d", ∀ value, tree.valueOf? "d" components = some value →
      Options.standard.FindsNoId [] value := by
    rw [schemas]
    exact FileTree.findsNoId_of_values (by decide +kernel)
  have loads : ((load FileTree.workspace .standard "d" (some base) []).run tree).1.1.toOption.isSome = true := by
    rw [FileTree.run_load, files]
    decide +kernel
  obtain ⟨store, loaded⟩ := Option.isSome_iff_exists.mp loads
  have loaded := Except.eq_ok_of_toOption loaded
  have separates := load_separates wellFormed (fun _ given => Option.some.inj given ▸ plain) loaded
  have size := (separates.2.2.2 noId).1
  rw [schemas] at size
  exact ⟨wellFormed, plain, noId, store, loaded, size⟩

/-- A space is encoded in a path and a percent sign is not: a file whose name has the one and a file whose name has the
escape of it are retrieved from the same URL, and only the schema of the second is kept. -/
theorem load_replaces :
    let tree : FileTree := ⟨"/w", [(["d", "a b.json"], "\x7b\"type\": \"string\"\x7d"),
      (["d", "a%20b.json"], "\x7b\"type\": \"integer\"\x7d")], []⟩
    let base : Url := ⟨"http", some ⟨"", "localhost", none⟩, "/", none, none⟩
    tree.IsWellFormed ∧ tree.schemaFiles "d" = [["a b.json"], ["a%20b.json"]] ∧
    (∀ components ∈ tree.schemaFiles "d", ∀ value, tree.valueOf? "d" components = some value →
      Options.standard.FindsNoId [] value) ∧
    (∃ url, tree.urlOf "d" (some base) ["a b.json"] = .ok url ∧
      tree.urlOf "d" (some base) ["a%20b.json"] = .ok url) ∧
    ∃ store, ((load FileTree.workspace .standard "d" (some base) []).run tree).1.1 = .ok store ∧ store.size = 1 := by
  intro tree base
  have files : tree.filesBelow "d" = .ok [["a b.json"], ["a%20b.json"]] :=
    FileTree.filesBelow_of_sorted ["w", "d"] (by decide +kernel) (by decide +kernel) (by decide +kernel)
  have schemas : tree.schemaFiles "d" = [["a b.json"], ["a%20b.json"]] := by
    rw [FileTree.schemaFiles, files]
    decide +kernel
  have loads : ((load FileTree.workspace .standard "d" (some base) []).run tree).1.1.toOption.map (·.size) =
      some 1 := by
    rw [FileTree.run_load, files]
    decide +kernel
  obtain ⟨store, loaded, size⟩ := Option.map_eq_some_iff.mp loads
  refine ⟨⟨by decide, by decide⟩, schemas, ?_, ⟨⟨"http", some ⟨"", "localhost", none⟩, "/a%20b.json", none, none⟩,
    Except.eq_ok_of_toOption (by decide +kernel), Except.eq_ok_of_toOption (by decide +kernel)⟩,
    store, Except.eq_ok_of_toOption loaded, size⟩
  rw [schemas]
  exact FileTree.findsNoId_of_values (by decide +kernel)

end Directory

end JsonSchema
