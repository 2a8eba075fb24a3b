import JsonSchema.Proofs.Compile.Coupling

/-! # Dialects found before

A library of dialects remembers what it derived, and every compilation hands on what is remembered. What a value is
compiled to does not depend on it, as long as the library would give the same answers
(`Schema.compileDocument_of_knows`): compilations side by side that remember different dialects go the same way. What
is remembered stays so (`Schema.assoc?_compileDocument`).
-/

namespace JsonSchema

theorem assoc?_append {α β : Type _} [DecidableEq α] (key : α) (front back : List (α × β)) :
    assoc? key (front ++ back) = (assoc? key front).or (assoc? key back) := by
  induction front with
  | nil => rfl
  | cons head rest ih =>
    obtain ⟨other, value⟩ := head
    by_cases same : key = other <;> simp [assoc?, same, ih]

namespace DialectLibrary

variable {library : DialectLibrary} {answers : Url → Option Dialect} {cache : DialectCache}

/-- Whether the library gives certain answers if some dialects were found before. -/
def Answers (library : DialectLibrary) (answers : Url → Option Dialect) (cache : DialectCache) : Prop :=
  ∀ id, (library.find? id cache).1 = answers id

/-- A library gives the same answers after it was asked. -/
theorem Answers.find? (known : library.Answers answers cache) (id : Url) :
    library.Answers answers (library.find? id cache).2 := by
  intro other
  rw [← known other]
  cases before : assoc? id cache with
  | some dialect => simp only [DialectLibrary.find?, before]
  | none =>
    cases derived : library.derive? id with
    | none => simp only [DialectLibrary.find?, before, derived]
    | some dialect =>
      have asked : (library.find? id cache).2 = cache ++ [(id, dialect)] := by
        simp only [DialectLibrary.find?, before, derived]
      rw [asked, DialectLibrary.find?, DialectLibrary.find?, assoc?_append]
      by_cases same : other = id
      · simp [same, before, derived, assoc?]
      · cases assoc? other cache <;> simp [assoc?, same]
        cases library.derive? other <;> rfl

end DialectLibrary

/-- Whether the library of the options, if there is one, gives certain answers. -/
def Options.Knows (options : Options) (answers : Url → Option Dialect) (cache : DialectCache) : Prop :=
  ∀ library ∈ options.dialects, library.Answers answers cache

/-- The answers of the library of the options, if there is one, to who found some dialects before. -/
def Options.answers (options : Options) (dialects : DialectCache) (id : Url) : Option Dialect :=
  options.dialects.bind fun library => (library.find? id dialects).1

theorem Options.knows_answers (options : Options) (dialects : DialectCache) :
    options.Knows (options.answers dialects) dialects := by
  intro library named id
  rw [answers, Option.mem_def.mp named]
  rfl

/-- Whether a property of what is remembered settles the answers of the library of the options, if there is one, and
stays when the library is asked. -/
def Options.Settles (options : Options) (knows : DialectCache → Prop) : Prop :=
  ∀ library ∈ options.dialects, ∀ id first second, knows first → knows second →
    (library.find? id first).1 = (library.find? id second).1 ∧ knows (library.find? id first).2

theorem Options.settles_knows (options : Options) (answers : Url → Option Dialect) :
    options.Settles (options.Knows answers) := by
  intro library named id first second knows knowsOther
  refine ⟨(knows library named id).trans (knowsOther library named id).symm, fun other same => ?_⟩
  obtain rfl : library = other := Option.some.inj (named.symm.trans same)
  exact (knows library named).find? id

/-- What is remembered stays so when the library is asked. -/
theorem DialectLibrary.assoc?_find? {library : DialectLibrary} {cache : DialectCache} {id : Url} {dialect : Dialect}
    (remembered : assoc? id cache = some dialect) (other : Url) :
    assoc? id (library.find? other cache).2 = some dialect := by
  unfold find?
  split
  · exact remembered
  · split
    · rw [assoc?_append, remembered, Option.some_or]
    · exact remembered

theorem Options.Settles.remembering {options : Options} {knows : DialectCache → Prop} (settles : options.Settles knows)
    (id : Url) (dialect : Dialect) : options.Settles fun cache => knows cache ∧ assoc? id cache = some dialect := by
  intro library named other first second known knownSecond
  obtain ⟨same, stays⟩ := settles library named other first second known.1 knownSecond.1
  exact ⟨same, stays, DialectLibrary.assoc?_find? known.2 other⟩

/-- Whether two assemblies differ in the dialects found before only, and these have a property. -/
def Assembly.SameButDialects (knows : DialectCache → Prop) (left right : Assembly) : Prop :=
  ∃ dialects, right = { left with dialects } ∧ knows left.dialects ∧ knows dialects

open Compile Assembly

/-- Whether a step of compilation goes the same way whatever dialects were found before, if these have a property, which
it keeps. -/
def Compile.IsSteady {α : Type} (knows : DialectCache → Prop) (step : Compile α) : Prop :=
  Couples False (SameButDialects knows) Eq step step

variable {options : Options} {answers : Url → Option Dialect} {knows : DialectCache → Prop}

namespace Compile

variable {α β : Type}

theorem isSteady_pure (value : α) : IsSteady knows (pure value) := couples_pure rfl

theorem isSteady_throw (cause : CompileError) : IsSteady knows (throw cause : Compile α) :=
  couples_throw cause cause

theorem isSteady_read (value : Except CompileError α) : IsSteady knows (liftM value : Compile α) :=
  (couples_read rfl).mono fun _ _ read => read.1

theorem IsSteady.bind {step : Compile α} {next : α → Compile β} (steady : IsSteady knows step)
    (steadyNext : ∀ value, IsSteady knows (next value)) : IsSteady knows (step >>= next) := by
  refine Couples.bind steady ?_
  rintro value _ rfl
  exact steadyNext value

/-- A change goes the same way if it neither sees nor touches the dialects. -/
theorem isSteady_modify {change : Assembly → Assembly}
    (blind : ∀ assembly dialects, change { assembly with dialects } = { change assembly with dialects })
    (keeps : ∀ assembly, (change assembly).dialects = assembly.dialects) :
    IsSteady knows (modify change : Compile PUnit) := by
  refine (couples_modify ?_).mono fun _ _ _ => rfl
  rintro left _ ⟨dialects, rfl, known, knownOther⟩
  exact ⟨dialects, blind left dialects, by rwa [keeps], knownOther⟩

/-- A step that looks at the assembly goes the same way if it looks past the dialects. -/
theorem isSteady_get_bind {next : Assembly → Compile α}
    (steadyNext : ∀ left dialects, knows left.dialects → knows dialects →
      Couples False (SameButDialects knows) Eq (next left) (next { left with dialects })) :
    IsSteady knows (get >>= next) := by
  refine couples_get.bind ?_
  rintro left _ ⟨dialects, rfl, known, knownOther⟩
  exact steadyNext left dialects known knownOther

theorem couples_set {left : Assembly} {dialects : DialectCache} (known : knows left.dialects)
    (knownOther : knows dialects) :
    Couples False (SameButDialects knows) Eq (set left : Compile PUnit) (set { left with dialects }) :=
  fun _ _ _ => ⟨rfl, dialects, rfl, known, knownOther⟩

end Compile

namespace KeywordSite

variable (place : KeywordSite)

theorem isSteady_takeId (id : Url) : IsSteady knows (place.takeId id) := by
  refine isSteady_get_bind fun left dialects known knownOther => ?_
  dsimp only
  split
  · exact Couples.bind (couples_throw _ _ : Couples _ _ Eq _ _) fun _ _ _ => couples_set known knownOther
  · exact couples_set known knownOther

theorem isSteady_renameDocument (registered : Bool) (id : Url) :
    IsSteady knows (place.renameDocument registered id) := by
  refine isSteady_get_bind fun left dialects known knownOther => ?_
  dsimp only
  split
  · exact (place.isSteady_takeId id).bind fun _ => isSteady_modify (fun _ _ => rfl) fun _ => rfl
  · exact isSteady_pure _

theorem isSteady_startResource (id : Url) : IsSteady knows (place.startResource id) := by
  refine (place.isSteady_takeId id).bind fun _ => isSteady_get_bind fun left dialects known knownOther => ?_
  exact IsSteady.bind (isSteady_modify (fun _ _ => by rfl) fun _ => by rfl) fun _ => isSteady_pure _

theorem isSteady_declareId (registered : Bool) (value : Json) :
    IsSteady knows (place.declareId registered value) := by
  refine (isSteady_read _).bind fun id => ?_
  split
  · exact (place.isSteady_renameDocument registered id).bind fun _ => isSteady_pure _
  · exact (place.isSteady_startResource id).bind fun _ => isSteady_pure _

/-- A keyword is compiled the same way if the sub-schemas in it are. -/
theorem isSteady_compile (registered : Bool) {sub : Site → Json → Compile Nat}
    (below : ∀ site value, IsSteady knows (sub site value)) (meaning : StandardKeyword) (value : Json) :
    IsSteady knows (place.compile registered sub meaning value) := by
  have alike : Couples False (SameButDialects knows) (LeavesAlike Eq id)
      (place.compile registered sub meaning value) (place.compile registered sub meaning value) :=
    couples_compile rfl rfl rfl (fun _ => place.isSteady_declareId registered value) (fun _ _ => rfl) (fun _ _ => rfl)
      (fun _ _ => rfl) fun tokens inner _ => below _ inner
  refine alike.mono ?_
  rintro ⟨site, rule⟩ ⟨site', rule'⟩ ⟨same, renamed⟩
  simp only [Rule.rename_id, Option.map_id'] at same renamed
  rw [same, renamed]

end KeywordSite

namespace Site

variable (site : Site) (settles : options.Settles knows)
include settles

theorem isSteady_libraryDialect? (id : Url) : IsSteady knows (libraryDialect? options id) := by
  unfold libraryDialect?
  split
  · exact isSteady_pure _
  · next library named =>
    refine isSteady_get_bind fun left dialects known knownOther => fun _ _ _ => ?_
    obtain ⟨answered, after⟩ := settles library named id _ _ known knownOther
    exact ⟨answered, _, rfl, after, (settles library named id _ _ knownOther known).2⟩

theorem isSteady_namedDialect (value : Json) : IsSteady knows (site.namedDialect options value) := by
  refine (isSteady_read _).bind fun text => (isSteady_read _).bind fun id => ?_
  split
  · exact isSteady_pure _
  · split
    · exact isSteady_pure _
    · refine (isSteady_libraryDialect? settles id).bind fun found => ?_
      split
      · exact isSteady_pure _
      · split
        · exact isSteady_pure _
        · split
          · split
            · exact isSteady_pure _
            · exact isSteady_throw _
          · exact isSteady_throw _

theorem isSteady_selectDialect (members : List (String × Json)) :
    IsSteady knows (site.selectDialect options members) := by
  unfold selectDialect
  split
  · exact isSteady_pure _
  · refine (site.isSteady_namedDialect settles _).bind fun dialect => ?_
    dsimp only
    split
    · exact IsSteady.bind (isSteady_modify (fun _ _ => by rfl) fun _ => by rfl) fun _ => isSteady_pure _
    · exact isSteady_pure _

variable {registered : Bool} {sub : Site → Json → Compile Nat}
  (below : ∀ site value, IsSteady knows (sub site value))
include below

omit settles in
theorem isSteady_compileKeywords (entries : List (KeywordEntry Json)) :
    IsSteady knows (compileKeywords registered sub site entries) := by
  induction entries generalizing site with
  | nil => exact isSteady_pure _
  | cons entry rest ih =>
    exact (KeywordSite.isSteady_compile _ registered below _ _).bind fun result =>
      (ih result.1).bind fun _ => isSteady_pure _

theorem isSteady_compileShape (value : Json) :
    IsSteady knows (site.compileShape options registered sub value) := by
  cases value with
  | bool accepts => exact isSteady_pure _
  | object members =>
    refine IsSteady.bind ?_ fun result => isSteady_pure _
    refine (site.isSteady_selectDialect settles members).bind fun selected => ?_
    refine (selected.isSteady_compileKeywords below _).bind fun result => ?_
    dsimp only
    split
    · exact isSteady_throw _
    · exact isSteady_pure _
    · exact isSteady_pure _
  | _ => exact isSteady_throw _

theorem isSteady_compileNode (value : Json) :
    IsSteady knows (site.compileNode options registered sub value) := by
  refine isSteady_get_bind fun left dialects known knownOther => ?_
  refine IsSteady.bind (isSteady_modify (fun _ _ => rfl) fun _ => rfl) fun _ => ?_
  refine (isSteady_compileShape _ settles below value).bind fun result => ?_
  exact IsSteady.bind (isSteady_modify (fun _ _ => by rfl) fun _ => by rfl) fun _ => isSteady_pure _

omit below

theorem isSteady_compileWithin (depth : Nat) (site : Site) (value : Json) :
    IsSteady knows (compileWithin options registered depth site value) := by
  induction depth generalizing site value with
  | zero => exact isSteady_throw _
  | succ depth ih => exact site.isSteady_compileNode settles ih value

end Site

namespace Schema

variable {dialect : Dialect} {base : Url} {registered : Bool} {value : Json} {first second : DialectCache}

theorem compileDocument_of_settles (settles : options.Settles knows) (known : knows first) (knownOther : knows second) :
    (compileDocument options dialect base registered value first).1.toOption =
        (compileDocument options dialect base registered value second).1.toOption ∧
      knows (compileDocument options dialect base registered value first).2 := by
  have steady : IsSteady knows (Site.compileWithin options registered (value.depth + 1) (.root dialect base) value) :=
    Site.isSteady_compileWithin settles _ _ _
  unfold compileDocument
  dsimp only
  have matched := steady (.start dialect base registered first) (.start dialect base registered second)
    ⟨second, rfl, known, knownOther⟩
  revert matched
  rcases (Site.compileWithin options registered (value.depth + 1) (.root dialect base) value).run
    (.start dialect base registered first) with ⟨result, left⟩
  rcases (Site.compileWithin options registered (value.depth + 1) (.root dialect base) value).run
    (.start dialect base registered second) with ⟨result', right⟩
  intro matched
  cases result with
  | ok node =>
    cases result' with
    | ok node' =>
      obtain ⟨-, dialects, rfl, knowsLeft, -⟩ := matched
      exact ⟨rfl, knowsLeft⟩
    | error cause' => exact matched.elim
  | error cause =>
    cases result' with
    | ok node' => exact matched.elim
    | error cause' =>
      obtain impossible | ⟨dialects, rfl, knowsLeft, -⟩ := matched
      · exact impossible.elim
      · exact ⟨rfl, knowsLeft⟩

/-- What a value is compiled to does not depend on the dialects found before, if the library gives the same answers;
and it still gives them afterwards. -/
theorem compileDocument_of_knows (knows : options.Knows answers first) (knowsOther : options.Knows answers second) :
    (compileDocument options dialect base registered value first).1.toOption =
        (compileDocument options dialect base registered value second).1.toOption ∧
      options.Knows answers (compileDocument options dialect base registered value first).2 :=
  compileDocument_of_settles (options.settles_knows answers) knows knowsOther

/-- What is remembered stays so when a value is compiled. -/
theorem assoc?_compileDocument {id : Url} {found : Dialect} (remembered : assoc? id first = some found) :
    assoc? id (compileDocument options dialect base registered value first).2 = some found := by
  have known := options.knows_answers first
  exact (compileDocument_of_settles ((options.settles_knows _).remembering id found) ⟨known, remembered⟩
    ⟨known, remembered⟩).2.2

end Schema

end JsonSchema
