import JsonSchema.Setting.Ini
import JsonSchema.Setting.Json5
import JsonSchema.Setting.Reading
import JsonSchema.Setting.Ron
import JsonSchema.Setting.Source
import JsonSchema.Setting.Yaml
import JsonSchema.Workspace

/-! # Formats of configuration files

A file is written in the format that its extension names. Whatever the format, the document is a table; the
fault of a document is told together with the file that it comes from.
-/

namespace JsonSchema

/-- The formats of configuration files. -/
inductive ConfigurationFormat where
  | toml
  | json
  | yaml
  | ini
  | ron
  | json5
  deriving DecidableEq

/-- Why a document holds no settings. -/
inductive DocumentFault where
  | json (cause : JsonError)
  | ini (cause : Setting.Ini.Fault)
  | severalDocuments (count : Nat)
  /-- The document is something else than a table. -/
  | notTable (found : Setting)
  /-- The document does not follow its format. -/
  | malformed

/-- The wording of a fault of a document from some place. -/
def DocumentFault.message (origin : String) : DocumentFault → String
  | .json cause => cause.message
  | .ini cause => cause.message
  | .severalDocuments count => "Got " ++ decimalText count ++ " YAML documents, expected 1"
  | .notTable found => "invalid type: " ++ found.describe ++ ", expected a map in " ++ origin
  | .malformed => "invalid document"

namespace ConfigurationFormat

/-- The formats by the extensions of their files. -/
def byExtension : List (String × ConfigurationFormat) :=
  [("toml", .toml), ("json", .json), ("yaml", .yaml), ("yml", .yaml), ("ini", .ini), ("ron", .ron), ("json5", .json5)]

/-- The format of a file by its name. -/
def ofFileName? (name : String) : Option ConfigurationFormat := (extension? name).bind (assoc? · byExtension)

/-- The document that a text denotes. -/
def document (format : ConfigurationFormat) (text : String) : Except DocumentFault Setting :=
  match format with
  | .toml => (Toml.read? text).elim (.error .malformed) fun members => .ok (.table none (Setting.membersOfToml members))
  | .json => ((Json.read text).map Setting.ofJson).mapError .json
  | .yaml =>
    match Setting.Yaml.read? text with
    | none => .error .malformed
    | some [] => .ok (.table none [])
    | some [found] => .ok found
    | some found => .error (.severalDocuments found.length)
  | .ini => (Setting.Ini.read text).mapError .ini
  | .ron => (Setting.Ron.read? text).elim (.error .malformed) .ok
  | .json5 => (Setting.Json5.read? text).elim (.error .malformed) .ok

/-- The settings in a text from some place; a mark of the byte order in front of it does not count. -/
def read (format : ConfigurationFormat) (origin text : String) : Except DocumentFault (List (String × Setting)) := do
  let text := match text.toList with
    | c :: rest => if c.toNat = 0xFEFF then String.ofList rest else text
    | [] => text
  match ← format.document text with
  | .table _ members => return Setting.locatedMembers origin members
  | found => throw (.notTable found)

end ConfigurationFormat

end JsonSchema
