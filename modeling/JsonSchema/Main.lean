import JsonSchema.CommandLine

/-! # The program

The command line on the files and the environment of the process.
-/

namespace JsonSchema.Process

/-- The fault that an error of the file system stands for. -/
def faultOf : IO.Error → FileFault
  | .noFileOrDirectory .. => .notFound
  | .inappropriateType _ 20 _ => .notDirectory
  | .inappropriateType _ 21 _ => .isDirectory
  | .invalidArgument _ 36 _ => .nameTooLong
  | cause => .other (toString cause)

/-- The result of work on files, or its fault. -/
def attempt {α : Type} (work : IO α) : IO (Except FileFault α) := do
  try
    return .ok (← work)
  catch cause =>
    return .error (faultOf cause)

/-- The text of a file. -/
def readText (path : String) : IO (Except FileFault String) := do
  return (← attempt (IO.FS.readBinFile path)).bind fun bytes =>
    match String.fromUTF8? bytes with
    | some text => .ok text
    | none => .error .notText

/-- The greatest length of a path. -/
def pathLimit : Nat := 4096

/-- The files below a path that exists, by their remaining components, down to a bound on the nesting. -/
def filesOf : Nat → String → List String → IO (List (List String))
  | 0, _, _ => return []
  | depth + 1, path, components => do
    let place ← IO.FS.realPath (joinPath path components)
    if ← place.isDir then
      let names := ((← place.readDir).toList.map (·.fileName)).mergeSort
      return (← names.mapM fun name => filesOf depth path (components ++ [name])).flatten
    return [components]

/-- The environment variables of the process. -/
def environment : IO (List (String × String)) := do
  match ← readText "/proc/self/environ" with
  | .error _ => return []
  | .ok text =>
    return (splitList (Char.ofNat 0) text.toList).filterMap fun entry =>
      match entry.dropWhile (· != '=') with
      | [] => none
      | _ :: value => some (String.ofList (entry.takeWhile (· != '=')), String.ofList value)

/-- The files and the environment of the process. -/
def workspace : Workspace IO where
  readText := readText
  writeText path text := attempt (IO.FS.writeFile path text)
  isFile path := do
    match ← attempt (IO.FS.realPath path) with
    | .ok place => return (← place.pathExists) && !(← place.isDir)
    | .error _ => return false
  filesBelow path := attempt (filesOf pathLimit path [])
  absolutePath path := attempt (do return (← IO.FS.realPath path).toString)
  environment := environment

end JsonSchema.Process

/-- Runs the program, prints what it leaves behind and ends with its code. -/
def main (arguments : List String) : IO UInt32 := do
  let outcome ← JsonSchema.CommandLine.run JsonSchema.Process.workspace arguments
  IO.print outcome.output
  IO.eprint outcome.errors
  return outcome.code.toUInt32
