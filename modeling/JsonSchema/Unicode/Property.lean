import JsonSchema.Unicode.Age
import JsonSchema.Unicode.Boundary
import JsonSchema.Unicode.Casing
import JsonSchema.Unicode.Emoji
import JsonSchema.Unicode.Feature
import JsonSchema.Unicode.Letter
import JsonSchema.Unicode.Mark
import JsonSchema.Unicode.Script
import JsonSchema.Unicode.ScriptExtension
import JsonSchema.Unicode.Symbol

/-! # Character properties by name

The sets of characters that the standard names fall into families: general categories and their
groups, scripts, versions, the parts that characters play at boundaries in text, and properties that a
character has or has not. Names are compared without regard to case, blanks, hyphens, underscores
and a leading `is`.
-/

namespace JsonSchema.Unicode

/-! ## General categories -/

/-- Letters. -/
def letters : List Run := upperCaseLetter ++ lowerCaseLetter ++ titleCaseLetter ++ modifierLetter ++ otherLetter

/-- Marks. -/
def marks : List Run := nonspacingMark ++ spacingMark ++ enclosingMark

/-- Numbers. -/
def numbers : List Run := decimalNumber ++ letterNumber ++ otherNumber

/-- Punctuation. -/
def punctuation : List Run :=
  connectorPunctuation ++ dashPunctuation ++ openPunctuation ++ closePunctuation ++ initialPunctuation ++
    finalPunctuation ++ otherPunctuation

/-- Symbols. -/
def symbols : List Run := mathSymbol ++ currencySymbol ++ modifierSymbol ++ otherSymbol

/-- Separators. -/
def separators : List Run := spaceSeparator ++ lineSeparator ++ paragraphSeparator

/-- The code points that are no characters: those of surrogates. -/
def surrogates : Run := ⟨0xD800, 0xDFFF, 1⟩

/-- Code points to which no category is assigned. -/
def unassigned : List Run :=
  Ranges.toRuns (Ranges.complement (rangesOf (surrogates :: letters ++ marks ++ numbers ++ punctuation ++
    symbols ++ separators ++ control ++ format ++ privateUse)))

/-- The general categories and their groups. -/
def categories : List NamedSet :=
  [⟨["any"], [⟨0, lastCodePoint, 1⟩]⟩, ⟨["ascii"], [⟨0, 0x7F, 1⟩]⟩,
    ⟨["assigned"], Ranges.toRuns (Ranges.complement (rangesOf unassigned))⟩,
    ⟨["cn", "unassigned"], unassigned⟩,
    ⟨["c", "other"], control ++ format ++ privateUse ++ unassigned⟩,
    ⟨["l", "letter"], letters⟩, ⟨["m", "mark", "combiningmark"], marks⟩, ⟨["n", "number"], numbers⟩,
    ⟨["p", "punctuation", "punct"], punctuation⟩, ⟨["s", "symbol"], symbols⟩, ⟨["z", "separator"], separators⟩,
    ⟨["lc", "casedletter"], upperCaseLetter ++ lowerCaseLetter ++ titleCaseLetter⟩,
    ⟨["lu", "uppercaseletter"], upperCaseLetter⟩, ⟨["ll", "lowercaseletter"], lowerCaseLetter⟩,
    ⟨["lt", "titlecaseletter"], titleCaseLetter⟩, ⟨["lm", "modifierletter"], modifierLetter⟩,
    ⟨["lo", "otherletter"], otherLetter⟩, ⟨["mn", "nonspacingmark"], nonspacingMark⟩,
    ⟨["mc", "spacingmark"], spacingMark⟩, ⟨["me", "enclosingmark"], enclosingMark⟩,
    ⟨["nd", "decimalnumber", "digit"], decimalNumber⟩, ⟨["nl", "letternumber"], letterNumber⟩,
    ⟨["no", "othernumber"], otherNumber⟩, ⟨["pc", "connectorpunctuation"], connectorPunctuation⟩,
    ⟨["pd", "dashpunctuation"], dashPunctuation⟩, ⟨["ps", "openpunctuation"], openPunctuation⟩,
    ⟨["pe", "closepunctuation"], closePunctuation⟩, ⟨["pi", "initialpunctuation"], initialPunctuation⟩,
    ⟨["pf", "finalpunctuation"], finalPunctuation⟩, ⟨["po", "otherpunctuation"], otherPunctuation⟩,
    ⟨["sm", "mathsymbol"], mathSymbol⟩, ⟨["sc", "currencysymbol"], currencySymbol⟩,
    ⟨["sk", "modifiersymbol"], modifierSymbol⟩, ⟨["so", "othersymbol"], otherSymbol⟩,
    ⟨["zs", "spaceseparator"], spaceSeparator⟩, ⟨["zl", "lineseparator"], lineSeparator⟩,
    ⟨["zp", "paragraphseparator"], paragraphSeparator⟩, ⟨["cc", "control", "cntrl"], control⟩,
    ⟨["cf", "format"], format⟩, ⟨["co", "privateuse"], privateUse⟩]

/-! ## Properties with two values -/

/-- Alphabetic characters. -/
def alphabetic : List Run := letters ++ letterNumber ++ otherAlphabetic

/-- Lower case characters. -/
def lowerCase : List Run := lowerCaseLetter ++ otherLowerCase

/-- Upper case characters. -/
def upperCase : List Run := upperCaseLetter ++ otherUpperCase

/-- The runs of a difference of two sets. -/
def without (kept removed : List Run) : List Run :=
  Ranges.toRuns (Ranges.difference (rangesOf kept) (rangesOf removed))

/-- Starts of identifiers; signs of patterns are none. -/
def identifierStart : List Run := without (letters ++ letterNumber ++ otherIdentifierStart) patternSyntax

/-- Parts of identifiers. -/
def identifierPart : List Run :=
  identifierStart ++ nonspacingMark ++ spacingMark ++ decimalNumber ++ connectorPunctuation ++ otherIdentifierPart

/-- Parts of identifiers that normalization turns into something else. -/
def unstableIdentifierPart : List Run := runs "37A 309B-309C FC5E-FC63 FDFA-FDFB FE70 FE72-FE7E/2"

/-- Starts of identifiers that normalization turns into something else or into mere parts. -/
def unstableIdentifierStart : List Run := unstableIdentifierPart ++ runs "E33 EB3 FF9E-FF9F"

/-- Characters that extend the one before them. -/
def graphemeExtend : List Run := nonspacingMark ++ enclosingMark ++ otherGraphemeExtend

/-- Characters that can be extended. -/
def graphemeBase : List Run :=
  without [⟨0, lastCodePoint, 1⟩] (surrogates :: control ++ format ++ privateUse ++ unassigned ++ lineSeparator ++
    paragraphSeparator ++ graphemeExtend)

/-- The characters of a part that characters play at the boundaries of words. -/
def wordBreak (name : String) : List Run :=
  match wordBreaks.find? (·.names.contains name) with
  | some set => set.runs
  | none => []

/-- Characters that are passed over where the case of those around them counts. -/
def caseIgnorable : List Run :=
  nonspacingMark ++ enclosingMark ++ format ++ modifierLetter ++ modifierSymbol ++ wordBreak "midletter" ++
    wordBreak "midnumlet" ++ wordBreak "singlequote"

/-- The properties that a character has or has not. -/
def features : List NamedSet :=
  [⟨["alphabetic", "alpha"], alphabetic⟩, ⟨["lowercase", "lower"], lowerCase⟩, ⟨["uppercase", "upper"], upperCase⟩,
    ⟨["cased"], lowerCase ++ upperCase ++ titleCaseLetter⟩, ⟨["caseignorable", "ci"], caseIgnorable⟩,
    ⟨["changeswhenlowercased", "cwl"], changesWhenLowerCased⟩,
    ⟨["changeswhenuppercased", "cwu"], changesWhenUpperCased⟩,
    ⟨["changeswhentitlecased", "cwt"], changesWhenTitleCased⟩,
    ⟨["changeswhencasefolded", "cwcf"], changesWhenFolded⟩,
    ⟨["changeswhencasemapped", "cwcm"], changesWhenLowerCased ++ changesWhenUpperCased ++ changesWhenTitleCased⟩,
    ⟨["whitespace", "wspace", "space"], whiteSpace⟩, ⟨["idstart", "ids"], identifierStart⟩,
    ⟨["idcontinue", "idc"], identifierPart⟩, ⟨["xidstart", "xids"], without identifierStart unstableIdentifierStart⟩,
    ⟨["xidcontinue", "xidc"], without identifierPart unstableIdentifierPart⟩,
    ⟨["otheralphabetic", "oalpha"], otherAlphabetic⟩, ⟨["otherlowercase", "olower"], otherLowerCase⟩,
    ⟨["otheruppercase", "oupper"], otherUpperCase⟩, ⟨["othermath", "omath"], otherMath⟩,
    ⟨["otheridstart", "oids"], otherIdentifierStart⟩, ⟨["otheridcontinue", "oidc"], otherIdentifierPart⟩,
    ⟨["othergraphemeextend", "ogrext"], otherGraphemeExtend⟩,
    ⟨["otherdefaultignorablecodepoint", "odi"], otherDefaultIgnorable⟩,
    ⟨["math"], mathSymbol ++ otherMath⟩, ⟨["hexdigit", "hex"], hexDigit⟩, ⟨["asciihexdigit", "ahex"], asciiHexDigit⟩,
    ⟨["bidicontrol", "bidic"], bidiControl⟩, ⟨["bidimirrored", "bidim"], bidiMirrored⟩, ⟨["dash"], dash⟩,
    ⟨["hyphen"], hyphen⟩, ⟨["defaultignorablecodepoint", "di"], defaultIgnorable⟩,
    ⟨["deprecated", "dep"], deprecated⟩, ⟨["diacritic", "dia"], diacritic⟩, ⟨["extender", "ext"], extender⟩,
    ⟨["graphemebase", "grbase"], graphemeBase⟩, ⟨["graphemeextend", "grext"], graphemeExtend⟩,
    ⟨["graphemelink", "grlink"], graphemeLink⟩, ⟨["idsbinaryoperator", "idsb"], binaryDescription⟩,
    ⟨["idstrinaryoperator", "idst"], ternaryDescription⟩, ⟨["idsunaryoperator", "idsu"], unaryDescription⟩,
    ⟨["idcompatmathstart"], mathIdentifierStart⟩, ⟨["idcompatmathcontinue"], mathIdentifierPart⟩,
    ⟨["ideographic", "ideo"], ideographic⟩, ⟨["unifiedideograph", "uideo"], unifiedIdeograph⟩,
    ⟨["joincontrol", "joinc"], joinControl⟩, ⟨["logicalorderexception", "loe"], logicalOrderException⟩,
    ⟨["modifiercombiningmark", "mcm"], modifierCombiningMark⟩, ⟨["noncharactercodepoint", "nchar"], noncharacter⟩,
    ⟨["patternsyntax", "patsyn"], patternSyntax⟩, ⟨["patternwhitespace", "patws"], patternWhiteSpace⟩,
    ⟨["prependedconcatenationmark", "pcm"], prependedMark⟩, ⟨["quotationmark", "qmark"], quotationMark⟩,
    ⟨["radical"], radical⟩, ⟨["sentenceterminal", "sterm"], sentenceTerminal⟩, ⟨["softdotted", "sd"], softDotted⟩,
    ⟨["terminalpunctuation", "term"], terminalPunctuation⟩, ⟨["variationselector", "vs"], variationSelector⟩,
    ⟨["emoji"], emoji⟩, ⟨["emojicomponent", "ecomp"], emojiComponent⟩, ⟨["emojimodifier", "emod"], emojiModifier⟩,
    ⟨["emojimodifierbase", "ebase"], emojiModifierBase⟩, ⟨["emojipresentation", "epres"], emojiPresentation⟩,
    ⟨["extendedpictographic", "extpict"], extendedPictographic⟩, ⟨["regionalindicator", "ri"], regionalIndicator⟩]

/-! ## Families -/

/-- A kind of named sets. -/
inductive Family where
  | category
  | script
  /-- Scripts with the characters that they share with others. -/
  | scriptExtensions
  /-- The characters that a version knows. -/
  | age
  | graphemeBreak
  | wordBreak
  | sentenceBreak
  /-- Properties that a character has or has not. -/
  | feature
  deriving DecidableEq, Hashable

/-- Syllables of two letters, of three letters, and what else makes up grapheme clusters. -/
def allGraphemeBreaks : List NamedSet :=
  ⟨["lv"], [⟨0xAC00, 0xD788, 28⟩]⟩ ::
    ⟨["lvt"], (List.range 27).map fun k => ⟨0xAC01 + k, 0xD789 + k, 28⟩⟩ :: graphemeBreaks

/-- The characters that scripts share with others. -/
def allShared : List Run := sharedCharacters.flatMap (·.runs)

/-- A script with the characters that it shares; what belongs to no script in particular loses those. -/
def extended (script : NamedSet) : NamedSet :=
  if script.names.contains "common" || script.names.contains "inherited" then
    { script with runs := without script.runs allShared }
  else match sharedCharacters.find? fun shared => shared.names.any script.names.contains with
    | some shared => { script with runs := script.runs ++ shared.runs }
    | none => script

/-- The versions from one on with all characters that each of them knows, given those known before. -/
def knownFrom (known : List Run) : List NamedSet → List NamedSet
  | [] => []
  | version :: rest =>
    let known := known ++ version.runs
    { version with runs := known } :: knownFrom known rest

/-- The scripts with the characters that they share. -/
def extendedScripts : List NamedSet := scripts.map extended

/-- The versions with all characters that each of them knows. -/
def knownCharacters : List NamedSet := knownFrom [] versions

/-- The sets of a family. -/
def Family.sets : Family → List NamedSet
  | .category => categories
  | .script => scripts
  | .scriptExtensions => extendedScripts
  | .age => knownCharacters
  | .graphemeBreak => allGraphemeBreaks
  | .wordBreak => wordBreaks
  | .sentenceBreak => sentenceBreaks
  | .feature => features

/-- The families that stand before a sign of equality, with their names in reduced form. -/
def Family.names : List (Family × List String) :=
  [(.category, ["gc", "generalcategory"]), (.script, ["sc", "script"]),
    (.scriptExtensions, ["scx", "scriptextensions"]), (.age, ["age"]),
    (.graphemeBreak, ["gcb", "graphemeclusterbreak"]), (.wordBreak, ["wb", "wordbreak"]),
    (.sentenceBreak, ["sb", "sentencebreak"])]

/-! ## Properties -/

/-- A set of characters that the standard names, or the one of words. -/
inductive Property where
  | named (family : Family) (name : String)
  | word
  deriving DecidableEq, Hashable

/-- The characters of words: alphabetic ones, marks, decimal digits, connectors and joiners. -/
def wordCharacters : List Run := alphabetic ++ marks ++ decimalNumber ++ connectorPunctuation ++ joinControl

/-- The characters of a property. -/
def Property.runs : Property → List Run
  | .named family name =>
    match family.sets.find? (·.names.contains name) with
    | some set => set.runs
    | none => []
  | .word => wordCharacters

/-- Whether a character has a property. -/
def Property.contains (property : Property) (n : Nat) : Bool := inRuns property.runs n

/-- Whether a code point is blank. -/
def isWhiteSpace (n : Nat) : Bool := inRuns whiteSpace n

/-- Whether a code point is alphabetic. -/
def isAlphabetic (n : Nat) : Bool := inRuns alphabetic n

/-- Whether a code point is a number. -/
def isNumber (n : Nat) : Bool := inRuns numbers n

/-- Whether a code point is part of a word. -/
def isWord (n : Nat) : Bool := inRuns wordCharacters n

/-! ## Look-up -/

/-- A name reduced to what is compared. -/
def normalizeName (name : String) : String :=
  let kept := name.toList.filter fun c => c.toNat < 128 && c != ' ' && c != '_' && c != '-'
  let lower := kept.map Char.toLower
  match (name.toList.take 2).map Char.toLower, lower with
  | ['i', 's'], 'i' :: 's' :: rest => if rest = ['c'] then "isc" else String.ofList rest
  | _, _ => String.ofList lower

/-- The property of a reduced name in a family. -/
def Family.property? (family : Family) (name : String) : Option Property :=
  if family.sets.any (·.names.contains name) then some (.named family name) else none

/-- The property of a name: what a character has or has not goes before categories, and these before scripts. -/
def Property.ofName? (name : String) : Option Property :=
  let name := normalizeName name
  Family.feature.property? name <|> Family.category.property? name <|> Family.script.property? name

/-- The property of a kind of name and a name. -/
def Property.ofPair? (kind name : String) : Option Property :=
  let kind := normalizeName kind
  match Family.names.find? (·.2.contains kind) with
  | some (family, _) => family.property? (normalizeName name)
  | none => none

end JsonSchema.Unicode
