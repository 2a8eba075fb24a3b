import JsonSchema.Pointer

/-! # Workspaces

What a program needs from the place where it runs: the texts of files, the files below a directory,
absolute paths and environment variables. A `FileTree` is such a place in memory: the files below one
root directory, given by their path components. A path is followed name by name, and every name is looked
up in a directory that exists.
-/

namespace JsonSchema

/-- Why a file or a directory cannot be used. -/
inductive FileFault where
  | notFound
  | notDirectory
  | isDirectory
  | notText
  | nameTooLong
  | other (message : String)
  deriving DecidableEq

/-- The wording of a fault. -/
def FileFault.message : FileFault → String
  | .notFound => "No such file or directory (os error 2)"
  | .notDirectory => "Not a directory (os error 20)"
  | .isDirectory => "Is a directory (os error 21)"
  | .notText => "stream did not contain valid UTF-8"
  | .nameTooLong => "File name too long (os error 36)"
  | .other message => message

/-- Files and environment variables. -/
structure Workspace (m : Type → Type) where
  readText : String → m (Except FileFault String)
  writeText : String → String → m (Except FileFault Unit)
  /-- Whether a path leads to a file. -/
  isFile : String → m Bool
  /-- The files below a path by their remaining components, in order; a file is below itself. -/
  filesBelow : String → m (Except FileFault (List (List String)))
  /-- The absolute path of something that exists. -/
  absolutePath : String → m (Except FileFault String)
  environment : m (List (String × String))

/-- The names of a path; a slash at the end gives an empty one. -/
def pathNames (path : String) : List String := (splitList '/' path.toList).map String.ofList

/-- The components that a name leads to: an empty name or one dot stays, and two dots go up. -/
def step (components : List String) (name : String) : List String :=
  if name.isEmpty || name == "." then components
  else if name == ".." then components.dropLast
  else components ++ [name]

/-- The components of a path. -/
def pathComponents (path : String) : List String := (pathNames path).foldl step []

/-- The path of some components below another. -/
def joinPath (path : String) (components : List String) : String :=
  components.foldl (fun path name =>
    if path.toList.getLast? = some '/' then path ++ name else path ++ "/" ++ name) path

/-- The extension of a file name: what follows its last dot, unless that is its first character. -/
def extension? (name : String) : Option String :=
  let chars := name.toList
  let ending := (chars.reverse.takeWhile (· != '.')).reverse
  if ending.length + 1 < chars.length then some (String.ofList ending) else none

/-- Files in memory below one root directory. -/
structure FileTree where
  /-- The absolute path of the root. -/
  root : String
  /-- Texts by their path components below the root. -/
  files : List (List String × String)
  environment : List (String × String)

namespace FileTree

/-- What a path can lead to. -/
inductive Entry where
  | file (text : String)
  | directory

/-- The files by the components of their absolute paths. -/
def absoluteFiles (tree : FileTree) : List (List String × String) :=
  tree.files.map fun (components, text) => (pathComponents tree.root ++ components, text)

/-- What stands at absolute components. -/
def entry? (tree : FileTree) (components : List String) : Option Entry :=
  match tree.absoluteFiles.find? (·.1 == components) with
  | some (_, text) => some (.file text)
  | none =>
    if components.isPrefixOf (pathComponents tree.root)
        || tree.absoluteFiles.any (fun (file, _) => components.isPrefixOf file) then some .directory
    else none

/-- The greatest number of bytes in a name. -/
def nameLimit : Nat := 255

/-- The greatest number of bytes in a path. -/
def pathLimit : Nat := 4095

/-- Follows names from absolute components; all but the last must lead to directories. -/
def follow (tree : FileTree) (components : List String) : List String → Except FileFault (List String)
  | [] => .ok components
  | name :: rest =>
    match tree.entry? components with
    | none => .error .notFound
    | some (.file _) => .error .notDirectory
    | some .directory =>
      if nameLimit < name.utf8ByteSize then .error .nameTooLong else tree.follow (step components name) rest

/-- Follows the names of a path; relative paths start at the root, and the empty path leads nowhere. -/
def followPath (tree : FileTree) (path : String) (names : List String) : Except FileFault (List String) :=
  if path.isEmpty then .error .notFound
  else if pathLimit < path.utf8ByteSize then .error .nameTooLong
  else tree.follow (if "/".isPrefixOf path then [] else pathComponents tree.root) names

/-- The absolute components of a path to something that exists. -/
def resolve (tree : FileTree) (path : String) : Except FileFault (List String × Entry) := do
  let components ← tree.followPath path (pathNames path)
  match tree.entry? components with
  | some entry => return (components, entry)
  | none => throw .notFound

/-- The text at a path. -/
def read (tree : FileTree) (path : String) : Except FileFault String := do
  match (← tree.resolve path).2 with
  | .file text => return text
  | .directory => throw .isDirectory

/-- The tree with a text at absolute components below its root. -/
def put (tree : FileTree) (components : List String) (text : String) : Except FileFault FileTree :=
  let root := pathComponents tree.root
  let below := components.drop root.length
  match root.isPrefixOf components, tree.entry? components with
  | _, some .directory => .error .isDirectory
  | true, _ => .ok { tree with files := (below, text) :: tree.files.filter (·.1 != below) }
  | false, _ => .error .notFound

/-- The tree with a text at a path; the directory must exist, and a path with a slash or dots at its end is
that of a directory. -/
def write (tree : FileTree) (path text : String) : Except FileFault FileTree := do
  let names := ((pathNames path).reverse.dropWhile String.isEmpty).reverse
  let name := names.getLast?.getD ""
  let directory ← tree.followPath path (names.dropLast ++ ["."])
  if ["", ".", ".."].contains name || names.length != (pathNames path).length then throw .isDirectory
  else tree.put (← tree.follow directory [name]) text

/-- The files below a path in the order of their components. -/
def filesBelow (tree : FileTree) (path : String) : Except FileFault (List (List String)) := do
  let (components, _) ← tree.resolve path
  let files := (tree.absoluteFiles.map (·.1)).filter components.isPrefixOf
  return (files.map (·.drop components.length)).mergeSort fun a b => (compare a b).isLE

/-- The absolute path of something that exists. -/
def absolutePath (tree : FileTree) (path : String) : Except FileFault String := do
  return joinPath "/" (← tree.resolve path).1

/-- Work on files in memory. -/
def workspace : Workspace (StateM FileTree) where
  readText path := return (← get).read path
  writeText path text := do
    match (← get).write path text with
    | .ok tree =>
      set tree
      return .ok ()
    | .error fault => return .error fault
  isFile path := return ((← get).read path).toBool
  filesBelow path := return (← get).filesBelow path
  absolutePath path := return (← get).absolutePath path
  environment := return (← get).environment

end FileTree

end JsonSchema
