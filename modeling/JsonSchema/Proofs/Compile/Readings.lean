import JsonSchema.Proofs.Compile.Inherited
import JsonSchema.Proofs.Compile.UnknownKeywords

/-! # Readings of schema objects

What a text in a schema object means depends on the base against which it is taken: the one that the object declares by
its id, or the one from outside. The readings of a value are the objects in it, under known keywords or unknown ones,
with all bases under which they may be compiled (`Json.readings`): a pointer from an outer resource leads past the ids
on its way. A document inherits from its value that all readings
comply (`Json.inherited_complies`), and as long as no dialect is found by a locator that readings name, it is the
same with this locator and without it (`Schema.compileDocument_locating`).
-/

namespace JsonSchema

open Compile

/-- An object with a base from outside under which it is read. -/
structure Json.Reading where
  base : Url
  members : List (String × Json)

namespace Json.Reading

variable (reading : Reading)

/-- The text under a keyword. -/
def text? (keyword : StandardKeyword) : Option String := (assoc? keyword.name reading.members).bind (·.string?)

/-- The URL that is meant by the text under a keyword, taken against a base. -/
def url? (base : Url) (keyword : StandardKeyword) : Option Url :=
  (reading.text? keyword).bind fun text => (base.join text).toOption

/-- The id that the object declares. -/
def declared? : Option Url := (reading.url? reading.base .id).map (·.withoutFragment)

/-- The bases under which the values in the object are read. -/
def bases : List Url := reading.base :: reading.declared?.toList

/-- What the object refers to. -/
def references : List Url :=
  [StandardKeyword.ref, .dynamicRef].filterMap (reading.url? (reading.declared?.getD reading.base))

/-- The id of the dialect that the object names. -/
def dialect? : Option Url :=
  ((reading.text? .schema).bind fun text => (Url.parse text).toOption).map (·.withoutFragment)

/-- Whether an object names no member twice, its references are allowed, and so is the dialect that it names. -/
structure Complies (allows names : Url → Prop) : Prop where
  distinct : (reading.members.map (·.1)).Nodup
  allowed : ∀ reference ∈ reading.references, allows reference
  named : ∀ id ∈ reading.dialect?, names id

end Json.Reading

namespace Json

open Reading

mutual

/-- The objects in a value with the bases under which they may be read. -/
def readings (base : Url) : Json → List Reading
  | .array items => readingsOfItems base items
  | .object members =>
    ⟨base, members⟩ :: (Reading.mk base members).bases.flatMap fun inner => readingsOfMembers inner members
  | _ => []

/-- The objects in items with the bases under which they may be read. -/
def readingsOfItems (base : Url) : List Json → List Reading
  | [] => []
  | item :: rest => readings base item ++ readingsOfItems base rest

/-- The objects in the values of members with the bases under which they may be read. -/
def readingsOfMembers (base : Url) : List (String × Json) → List Reading
  | [] => []
  | (_, value) :: rest => readings base value ++ readingsOfMembers base rest

end

/-- Whether all readings of a value comply. -/
def Complies (allows names : Url → Prop) (base : Url) (value : Json) : Prop :=
  ∀ reading ∈ value.readings base, reading.Complies allows names

theorem mem_readingsOfItems {base : Url} {items : List Json} {value : Json} {reading : Reading}
    (member : value ∈ items) (inside : reading ∈ value.readings base) : reading ∈ readingsOfItems base items := by
  induction items with
  | nil => exact absurd member List.not_mem_nil
  | cons item rest ih =>
    rcases List.mem_cons.mp member with rfl | member
    · exact List.mem_append_left _ inside
    · exact List.mem_append_right _ (ih member)

theorem mem_readingsOfMembers {base : Url} {members : List (String × Json)} {name : String} {value : Json}
    {reading : Reading} (member : (name, value) ∈ members) (inside : reading ∈ value.readings base) :
    reading ∈ readingsOfMembers base members := by
  induction members with
  | nil => exact absurd member List.not_mem_nil
  | cons entry rest ih =>
    rcases List.mem_cons.mp member with rfl | member
    · exact List.mem_append_left _ inside
    · exact List.mem_append_right _ (ih member)

theorem mem_readings_object {base inner : Url} {members : List (String × Json)} {reading : Reading}
    (under : inner ∈ (Reading.mk base members).bases) (inside : reading ∈ readingsOfMembers inner members) :
    reading ∈ (Json.object members).readings base := by
  rw [readings]
  exact List.mem_cons_of_mem _ (List.mem_flatMap.mpr ⟨inner, under, inside⟩)

end Json

/-- What stands under a key that no other entry has is found by it. -/
theorem assoc?_of_mem {α β : Type _} [DecidableEq α] {key : α} {value : β} {entries : List (α × β)}
    (distinct : (entries.map (·.1)).Nodup) (member : (key, value) ∈ entries) : assoc? key entries = some value := by
  induction entries with
  | nil => exact absurd member List.not_mem_nil
  | cons head rest ih =>
    obtain ⟨other, old⟩ := head
    obtain ⟨fresh, distinct⟩ := List.nodup_cons.mp distinct
    rcases List.mem_cons.mp member with same | member
    · obtain ⟨rfl, rfl⟩ := Prod.mk.inj same
      rw [assoc?, if_pos rfl]
    · have different : key ≠ other := fun same => fresh (same ▸ List.mem_map.mpr ⟨_, member, rfl⟩)
      rw [assoc?, if_neg different]
      exact ih distinct member

theorem assoc?_eq_none {α β : Type _} [DecidableEq α] {key : α} {entries : List (α × β)}
    (absent : key ∉ entries.map (·.1)) : assoc? key entries = none := by
  induction entries with
  | nil => rfl
  | cons head rest ih =>
    obtain ⟨different, absent⟩ := not_or.mp (mt List.mem_cons.mpr absent)
    rw [assoc?, if_neg different]
    exact ih absent

namespace Json

variable {allows names : Url → Prop} {base : Url} {members : List (String × Json)}

theorem Reading.url?_of_mem {inner : Url} (distinct : (members.map (·.1)).Nodup) {keyword : StandardKeyword}
    {text : String} {url : Url} (member : (keyword.name, .string text) ∈ members) (joined : inner.join text = .ok url) :
    (Reading.mk base members).url? inner keyword = some url := by
  have found : (Reading.mk base members).text? keyword = some text := by
    rw [text?, assoc?_of_mem distinct member]
    rfl
  rw [url?, found, Option.bind_some, joined]
  rfl

theorem Reading.declared?_eq_none (absent : StandardKeyword.id.name ∉ members.map (·.1)) :
    (Reading.mk base members).declared? = none := by
  rw [declared?, url?, text?, assoc?_eq_none absent]
  rfl

theorem Complies.own (complies : Complies allows names base (.object members)) :
    (Reading.mk base members).Complies allows names :=
  complies _ (by
    rw [readings]
    exact List.mem_cons_self)

/-- An object that complies is settled under the base against which its references are taken. -/
theorem Complies.settled {inner : Url} (complies : Complies allows names base (.object members))
    (under : inner ∈ (Reading.mk base members).bases)
    (against : (Reading.mk base members).declared?.getD base = inner) :
    Settled allows (Complies allows names) inner members := by
  refine ⟨fun name value member reading inside => ?_, fun keyword text url refers member joined => ?_⟩
  · exact complies reading (mem_readings_object under (mem_readingsOfMembers member inside))
  · refine complies.own.allowed url (List.mem_filterMap.mpr ⟨keyword, refers, ?_⟩)
    rw [against]
    exact Reading.url?_of_mem complies.own.distinct member joined

/-- What is in a value that complies does so too. -/
theorem inherited_complies : Inherited allows (Complies allows names) where
  distinct base members complies := complies.own.distinct
  item base items inner complies member reading inside := complies reading (by
    rw [readings]
    exact mem_readingsOfItems member inside)
  member base members name value complies member reading inside :=
    complies reading (mem_readings_object List.mem_cons_self (mem_readingsOfMembers member inside))
  settled base members complies absent :=
    complies.settled List.mem_cons_self (by rw [Reading.declared?_eq_none absent]; rfl)
  id base members text url complies member joined := by
    have declared : (Reading.mk base members).declared? = some url.withoutFragment := by
      rw [Reading.declared?, Reading.url?_of_mem complies.own.distinct member joined]
      rfl
    refine complies.settled (List.mem_cons_of_mem _ ?_) (by rw [declared]; rfl)
    rw [declared]
    exact List.mem_singleton.mpr rfl

theorem Complies.mono {other : Url → Prop} (complies : Complies allows names base value)
    (weaker : ∀ id, names id → other id) : Complies allows other base value :=
  fun reading inside =>
    let own := complies reading inside
    ⟨own.distinct, own.allowed, fun id named => weaker id (own.named id named)⟩

end Json

/-! ## Locators -/

/-- The options with a place where references into other documents are looked up. -/
def Options.locating (options : Options) (locator : Locator) : Options := { options with schemas := some locator }

theorem Node.mapRules_id (node : Node) : node.mapRules id = node := by
  obtain ⟨resource, location, value, anchor, dynamicAnchor, vocabularies, shape⟩ := node
  cases shape <;> rfl

theorem Document.mapRules_id (document : Document) : document.mapRules id = document := by
  obtain ⟨nodes, resources, ids⟩ := document
  rw [mapRules, funext Node.mapRules_id, Array.map_id']

theorem Options.parallels_locating {options : Options} (plain : options.schemas = none) {locator : Locator}
    {allows names : Url → Prop}
    (elsewhere : ∀ id, names id → options.dialect.id = id ∨ locator id = none) :
    options.Parallels id Eq (fun value => ∃ base, value.Complies allows names base) (options.locating locator) where
  below members complies name value member inner part := by
    obtain ⟨base, complies⟩ := complies
    have inherited := @Json.inherited_complies allows names
    exact ⟨base, inherited.part (inherited.member base members name value complies member) part⟩
  selects site members complies := by
    obtain ⟨base, complies⟩ := complies
    refine site.parallel_selectDialect fun value present => ?_
    refine site.parallel_namedDialect (Site.parallel_libraryDialect? _ rfl) rfl rfl ?_
    rintro text url rfl parsed - other
    have named : names url.withoutFragment := by
      refine complies.own.named _ (Option.mem_def.mpr ?_)
      rw [Json.Reading.dialect?, Json.Reading.text?, Option.mem_def.mp present]
      show Option.map _ (Url.parse text).toOption = _
      rw [parsed]
      rfl
    rw [plain]
    exact (elsewhere _ named).resolve_left other
  completes site final members rules known := by
    unfold Options.locating
    dsimp only
    split
    · exact couples_throw _ _
    · exact couples_pure rfl
    · exact couples_pure rfl

/-- A value is compiled to the same with a locator as without, if it names no dialect that the locator finds. -/
theorem Schema.compileDocument_locating {options : Options} (plain : options.schemas = none) {locator : Locator}
    {allows names : Url → Prop} (elsewhere : ∀ id, names id → options.dialect.id = id ∨ locator id = none)
    (dialect : Dialect) {base : Url} (registered : Bool) {value : Json} (complies : value.Complies allows names base)
    (dialects : DialectCache) :
    let located := compileDocument (options.locating locator) dialect base registered value dialects
    let plain := compileDocument options dialect base registered value dialects
    located.1.toOption = plain.1.toOption ∧ located.2 = plain.2 := by
  obtain ⟨same, remembered⟩ := (Options.parallels_locating plain elsewhere).compileDocument dialect base registered
    ⟨base, complies⟩ (Eq.refl dialects)
  refine ⟨same.trans ?_, remembered.symm⟩
  cases (compileDocument options dialect base registered value dialects).1.toOption with
  | none => rfl
  | some schema =>
    obtain ⟨document, resource⟩ := schema
    rw [Option.map_some, mapRules, Document.mapRules_id]

/-! ## References on the web

A reference that names no other scheme stays on the web, whatever it is read against, so that none of the bases in a
document has to be computed to see where its references lead.
-/

theorem Except.eq_ok_of_bind {ε α β : Type _} {first : Except ε α} {next : α → Except ε β} {result : β}
    (bound : first >>= next = .ok result) : ∃ value, first = .ok value ∧ next value = .ok result := by
  cases first with
  | error reason => cases bound
  | ok value => exact ⟨value, rfl, bound⟩

namespace Url

/-- The scheme that a text names, if any. -/
def scheme? (text : String) : Option String := (splitScheme? (clean (trim text))).map (·.1)

theorem scheme_withTail (scheme : String) (authority : Option Authority) (path rest : List Char) :
    (withTail scheme authority path rest).scheme = scheme := by
  simp only [withTail]
  split
  · split <;> rfl
  · rfl
  · rfl

theorem scheme_readAuthority {scheme : String} {text : List Char} {url : Url}
    (read : readAuthority scheme text = .ok url) : url.scheme = scheme := by
  obtain ⟨⟨user, rest⟩, -, read⟩ := Except.eq_ok_of_bind read
  simp only at read
  split at read
  · cases read
  · split at read <;>
      obtain ⟨host, -, read⟩ := Except.eq_ok_of_bind read <;>
      split at read <;> try cases read
    all_goals
      obtain ⟨⟨port, rest⟩, -, read⟩ := Except.eq_ok_of_bind read
      cases read
      exact scheme_withTail _ _ _ _

theorem scheme_readRelative {base url : Url} {text : List Char} (read : readRelative base text = .ok url) :
    url.scheme = base.scheme := by
  simp only [readRelative] at read
  split at read
  · cases read
    rfl
  · repeat' split at read
    all_goals first
      | exact scheme_readAuthority read
      | (cases read; exact scheme_withTail _ _ _ _)
      | (cases read; rfl)

/-- Without another scheme, what is read against a URL on the web is on the web too. -/
theorem scheme_read {base : Option Url} {text : String} {url : Url} (onWeb : ∀ url ∈ base, url.scheme = "https")
    (stays : ∀ scheme ∈ scheme? text, scheme = "https") (found : read base text = .ok url) :
    url.scheme = "https" := by
  simp only [read] at found
  split at found
  · next scheme rest named =>
    obtain rfl : scheme = "https" := stays scheme (Option.mem_def.mpr (by rw [scheme?, named]; rfl))
    simp only [readAfterScheme, show schemeKind "https" = .special from by decide] at found
    split at found
    · next base =>
      split at found
      · exact (scheme_readRelative found).trans (onWeb base rfl)
      · exact scheme_readAuthority found
    · exact scheme_readAuthority found
  · simp only [readWithoutScheme] at found
    split at found
    · cases found
    · next base =>
      have web := onWeb base rfl
      split at found
      · cases found
        exact web
      · split at found
        · cases found
        · rw [if_neg (by rw [web]; decide)] at found
          exact (scheme_readRelative found).trans web

end Url

namespace Json

/-- Whether the texts under the keywords that are read as URLs name no other scheme than that of the web. -/
def StaysOnWeb (members : List (String × Json)) : Prop :=
  ∀ keyword ∈ [StandardKeyword.ref, .dynamicRef, .id],
    ∀ text ∈ (assoc? keyword.name members).bind (·.string?), ∀ scheme ∈ Url.scheme? text, scheme = "https"

instance : DecidablePred StaysOnWeb := fun _ => inferInstanceAs (Decidable (∀ keyword ∈ _, _))

mutual

/-- The members of all objects in a value. -/
def objects : Json → List (List (String × Json))
  | .array items => objectsOfItems items
  | .object members => members :: objectsOfMembers members
  | _ => []

/-- The members of all objects in items. -/
def objectsOfItems : List Json → List (List (String × Json))
  | [] => []
  | item :: rest => objects item ++ objectsOfItems rest

/-- The members of all objects in the values of members. -/
def objectsOfMembers : List (String × Json) → List (List (String × Json))
  | [] => []
  | (_, value) :: rest => objects value ++ objectsOfMembers rest

end

theorem StaysOnWeb.url?_scheme {reading : Reading} {base : Url} (stays : StaysOnWeb reading.members)
    (onWeb : base.scheme = "https") {keyword : StandardKeyword}
    (refers : keyword ∈ [StandardKeyword.ref, .dynamicRef, .id]) {url : Url}
    (found : reading.url? base keyword = some url) : url.scheme = "https" := by
  obtain ⟨text, written, joined⟩ := Option.bind_eq_some_iff.mp found
  cases read : base.join text with
  | error reason => simp [read, Except.toOption] at joined
  | ok target =>
    obtain rfl : target = url := by simpa [read, Except.toOption] using joined
    refine Url.scheme_read (fun base same => ?_) (stays keyword refers text written) read
    exact Option.some.inj same ▸ onWeb

theorem StaysOnWeb.declared?_scheme {reading : Reading} (stays : StaysOnWeb reading.members)
    (onWeb : reading.base.scheme = "https") {id : Url} (declared : reading.declared? = some id) :
    id.scheme = "https" := by
  obtain ⟨url, found, rfl⟩ := Option.map_eq_some_iff.mp declared
  have referring : StandardKeyword.id ∈ [StandardKeyword.ref, .dynamicRef, .id] := by decide
  have scheme : url.scheme = "https" := stays.url?_scheme onWeb referring found
  exact scheme

theorem StaysOnWeb.bases_scheme {reading : Reading} (stays : StaysOnWeb reading.members)
    (onWeb : reading.base.scheme = "https") {inner : Url} (under : inner ∈ reading.bases) :
    inner.scheme = "https" := by
  rcases List.mem_cons.mp under with rfl | under
  · exact onWeb
  · exact stays.declared?_scheme onWeb (Option.mem_toList.mp under)

mutual

/-- What stands in a value on the web is on the web. -/
theorem onWeb_of_mem_readings {base : Url} {value : Json} (onWeb : base.scheme = "https")
    (stays : ∀ members ∈ value.objects, StaysOnWeb members) {reading : Reading}
    (inside : reading ∈ value.readings base) : reading.base.scheme = "https" ∧ reading.members ∈ value.objects := by
  cases value with
  | array items =>
    simp only [readings, objects] at inside stays ⊢
    exact onWeb_of_mem_readingsOfItems onWeb stays inside
  | object members =>
    simp only [readings, objects, List.mem_flatMap, List.mem_cons] at inside stays ⊢
    rcases inside with rfl | ⟨inner, under, inside⟩
    · exact ⟨onWeb, .inl rfl⟩
    · have web : inner.scheme = "https" := StaysOnWeb.bases_scheme (stays members (.inl rfl)) onWeb under
      obtain ⟨web, member⟩ := onWeb_of_mem_readingsOfMembers web (fun inner member => stays inner (.inr member)) inside
      exact ⟨web, .inr member⟩
  | _ => simp [readings] at inside

/-- What stands in items on the web is on the web. -/
theorem onWeb_of_mem_readingsOfItems {base : Url} {items : List Json} (onWeb : base.scheme = "https")
    (stays : ∀ members ∈ objectsOfItems items, StaysOnWeb members) {reading : Reading}
    (inside : reading ∈ readingsOfItems base items) :
    reading.base.scheme = "https" ∧ reading.members ∈ objectsOfItems items := by
  cases items with
  | nil => exact absurd inside List.not_mem_nil
  | cons item rest =>
    simp only [readingsOfItems, objectsOfItems, List.mem_append] at inside stays ⊢
    rcases inside with inside | inside
    · obtain ⟨web, member⟩ := onWeb_of_mem_readings onWeb (fun inner member => stays inner (.inl member)) inside
      exact ⟨web, .inl member⟩
    · obtain ⟨web, member⟩ :=
        onWeb_of_mem_readingsOfItems onWeb (fun inner member => stays inner (.inr member)) inside
      exact ⟨web, .inr member⟩

/-- What stands in the values of members on the web is on the web. -/
theorem onWeb_of_mem_readingsOfMembers {base : Url} {members : List (String × Json)} (onWeb : base.scheme = "https")
    (stays : ∀ inner ∈ objectsOfMembers members, StaysOnWeb inner) {reading : Reading}
    (inside : reading ∈ readingsOfMembers base members) :
    reading.base.scheme = "https" ∧ reading.members ∈ objectsOfMembers members := by
  match members with
  | [] => exact absurd inside List.not_mem_nil
  | (_, value) :: rest =>
    simp only [readingsOfMembers, objectsOfMembers, List.mem_append] at inside stays ⊢
    rcases inside with inside | inside
    · obtain ⟨web, member⟩ := onWeb_of_mem_readings onWeb (fun inner member => stays inner (.inl member)) inside
      exact ⟨web, .inl member⟩
    · obtain ⟨web, member⟩ :=
        onWeb_of_mem_readingsOfMembers onWeb (fun inner member => stays inner (.inr member)) inside
      exact ⟨web, .inr member⟩

end

end Json

/-! ## Documents of the draft -/

namespace Draft

/-- The text by which the documents of the draft name their dialect. -/
def schemaText : String := "https://json-schema.org/draft/2020-12/schema"

/-- Every object in a document of the draft names no member twice, stays on the web and names no other dialect. -/
theorem objects_documents : ∀ value ∈ documents, ∀ members ∈ value.objects,
    (members.map (·.1)).Nodup ∧ Json.StaysOnWeb members ∧
      ∀ text ∈ (assoc? StandardKeyword.schema.name members).bind (·.string?), text = schemaText := by
  decide +kernel

/-- The documents of the draft are on the web. -/
theorem scheme_documents : ∀ value ∈ documents,
    ∀ text ∈ (value.member? StandardKeyword.id.name).bind (·.string?),
      ∀ scheme ∈ Url.scheme? text, scheme = "https" := by
  decide +kernel

/-- No document of the draft refers to the default base, or names another dialect. -/
theorem complies_documents : ∀ value ∈ documents,
    ∀ text ∈ (value.member? StandardKeyword.id.name).bind (·.string?), ∀ url ∈ (Url.parse text).toOption,
      value.Complies (·.withoutFragment ≠ Url.defaultBase)
        (· ∈ (Url.parse schemaText).toOption.map (·.withoutFragment)) url.withoutFragment := by
  intro value member text declared url parsed reading inside
  have found : Url.parse text = .ok url := by
    cases read : Url.parse text with
    | error reason => simp [read, Except.toOption] at parsed
    | ok target => simpa [read, Except.toOption] using parsed
  have onWeb : url.scheme = "https" :=
    Url.scheme_read (fun base absent => by cases absent) (scheme_documents value member text declared) found
  have objects := objects_documents value member
  have within : url.withoutFragment.scheme = "https" := onWeb
  obtain ⟨web, listed⟩ := Json.onWeb_of_mem_readings within (fun inner listed => (objects inner listed).2.1) inside
  obtain ⟨distinct, stays, named⟩ := objects reading.members listed
  refine ⟨distinct, fun reference refers atDefault => ?_, fun id dialect => ?_⟩
  · obtain ⟨keyword, referring, written⟩ := List.mem_filterMap.mp refers
    have against : (reading.declared?.getD reading.base).scheme = "https" := by
      cases declared : reading.declared? with
      | none => exact web
      | some id => exact stays.declared?_scheme web declared
    have scheme : reference.scheme = "https" := stays.url?_scheme against (by
      rcases List.mem_cons.mp referring with rfl | referring
      · decide
      · rcases List.mem_singleton.mp referring with rfl
        decide) written
    have other : reference.scheme = "local" := congrArg Url.scheme atDefault
    rw [scheme] at other
    exact absurd other (by decide)
  · obtain ⟨target, read, rfl⟩ := Option.map_eq_some_iff.mp dialect
    obtain ⟨written, same, read⟩ := Option.bind_eq_some_iff.mp read
    rw [← named written same, read]
    rfl

end Draft

end JsonSchema
