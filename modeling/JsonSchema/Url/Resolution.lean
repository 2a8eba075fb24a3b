import JsonSchema.Url
import JsonSchema.Url.Host

/-! # Reading and resolving URLs

`Url.parse` reads an absolute URL and `Url.join` resolves a reference against a base, as the URL
standard lays down: surrounding blanks are cut off, tabs and line breaks are dropped, special
schemes have a host and take a backslash for a slash, dot segments are removed and every component
is percent-encoded by its own set.
-/

namespace JsonSchema.Url

/-- The three ways in which a scheme is read. -/
inductive SchemeKind where
  | file
  | special
  | other
  deriving DecidableEq

/-- How a scheme is read. -/
def schemeKind (scheme : String) : SchemeKind :=
  if scheme = "file" then .file
  else if ["http", "https", "ws", "wss", "ftp"].contains scheme then .special
  else .other

/-- Whether a backslash divides the path. -/
def SchemeKind.isSpecial (kind : SchemeKind) : Bool := kind != .other

/-- The port that a scheme implies. -/
def defaultPort? (scheme : String) : Option Nat :=
  match scheme with
  | "http" => some 80
  | "ws" => some 80
  | "https" => some 443
  | "wss" => some 443
  | "ftp" => some 21
  | _ => none

/-- Cuts blanks and control characters off both ends. -/
def trim (text : String) : List Char :=
  let isCut (c : Char) : Bool := c.toNat ≤ 0x20
  let front := text.toList.dropWhile isCut
  (front.reverse.dropWhile isCut).reverse

/-- Drops tabs and line breaks. -/
def clean (text : List Char) : List Char := text.filter (!isIgnored ·)

/-- Whether a character is a slash or a backslash. -/
def isSlash (c : Char) : Bool := c == '/' || c == '\\'

/-- Whether a character starts the query or the fragment. -/
def endsPath (c : Char) : Bool := c == '?' || c == '#'

/-- The scheme in lower case and what follows its colon. -/
def splitScheme? (text : List Char) : Option (String × List Char) :=
  match text with
  | [] => none
  | first :: _ =>
    let isPart (c : Char) : Bool := c.isAlphanum || c == '+' || c == '-' || c == '.'
    match text.dropWhile isPart with
    | ':' :: rest =>
      if first.isAlpha then some (String.ofList ((text.takeWhile isPart).map Char.toLower), rest) else none
    | _ => none

/-! ## Paths -/

/-- Whether two characters name a Windows drive. -/
def isDriveLetter (segment : List Char) : Bool :=
  match segment with
  | [c, d] => c.isAlpha && (d == ':' || d == '|')
  | _ => false

/-- Whether a segment is a drive in normal form. -/
def isNormalDriveLetter (segment : List Char) : Bool :=
  match segment with
  | [c, ':'] => c.isAlpha
  | _ => false

/-- Whether a drive stands at the start. -/
def startsWithDriveLetter (text : List Char) : Bool :=
  isDriveLetter (text.take 2) &&
    (match text.drop 2 with | [] => true | c :: _ => isSlash c || endsPath c)

/-- Whether a segment is a drive in normal form, a tab or line break and something more. -/
def breaksAfterDrive (segment : List Char) : Bool :=
  match segment.dropWhile isIgnored with
  | c :: rest =>
    match rest.dropWhile isIgnored with
    | d :: rest => isNormalDriveLetter [c, d] && (rest.head?.map isIgnored).getD false && !(clean rest).isEmpty
    | [] => false
  | [] => false

/-- The characters up to and with the last slash. -/
def uptoLastSlash (path : List Char) : List Char := (path.reverse.dropWhile (· != '/')).reverse

/-- The characters after the last slash. -/
def afterLastSlash (path : List Char) : List Char := (path.reverse.takeWhile (· != '/')).reverse

/-- The path without its last segment; a drive of a file URL stays. -/
def popPath (kind : SchemeKind) (path : List Char) : List Char :=
  if kind = .file ∧ isNormalDriveLetter (afterLastSlash path) then path else uptoLastSlash path

/-- Whether the slash at the end of a path is not its root and does not follow a drive. -/
def canRemoveLastSlash (path : List Char) : Bool :=
  let before := path.dropLast
  before.contains '/' && !startsWithDriveLetter (afterLastSlash before ++ ['/'])

/-- Whether a path ends with a slash. -/
def endsWithSlash (path : List Char) : Bool := path.getLast? == some '/'

/-- Whether a segment leads one level up. -/
def isDoubleDot (segment : List Char) : Bool :=
  ["..", "%2e%2e", "%2e.", ".%2e"].contains (String.ofList (segment.map Char.toLower))

/-- Whether a segment stays on its level. -/
def isSingleDot (segment : List Char) : Bool :=
  [".", "%2e"].contains (String.ofList (segment.map Char.toLower))

/-- Whether a segment names the drive of a file path that is the root so far. -/
def namesDrive (kind : SchemeKind) (path segment : List Char) : Bool :=
  kind = .file && path == ['/'] && isDriveLetter segment

/-- A path after one more segment, which a slash follows or not; a drive that the path holds, or that a tab
or line break ends, is divided from what follows it. -/
def addSegment (kind : SchemeKind) (path written : List Char) (slash : Bool) : List Char :=
  let tail := if slash then ['/'] else []
  let segment := percentEncode inPathSet (clean written)
  let path :=
    if kind = .file ∧ isNormalDriveLetter path.tail ∧ !segment.isEmpty then path ++ ['/'] else path
  if isDoubleDot segment then
    let path := if endsWithSlash path && canRemoveLastSlash path then path.dropLast else path
    let path := popPath kind path
    if slash && !endsWithSlash path then path ++ ['/'] else path
  else if isSingleDot segment then
    if endsWithSlash path then path else path ++ ['/']
  else if namesDrive kind path segment then path ++ segment.take 1 ++ [':'] ++ tail
  else if namesDrive kind path (segment.take 2) ∧ breaksAfterDrive written then
    path ++ segment.take 2 ++ ['/'] ++ segment.drop 2 ++ tail
  else path ++ segment ++ tail

/-- A segment up to the next divider, whether that is a slash, and the rest. -/
def splitSegment (kind : SchemeKind) (text : List Char) : List Char × Bool × List Char :=
  let divides (c : Char) : Bool := c == '/' || endsPath c || (c == '\\' && kind.isSpecial)
  let segment := text.takeWhile (!divides ·)
  match text.dropWhile (!divides ·) with
  | [] => (segment, false, [])
  | c :: rest => if endsPath c then (segment, false, c :: rest) else (segment, true, rest)

/-- What is read of a path. -/
structure PathReading where
  path : List Char
  /-- Whether a drive is named right after the root. -/
  hasDrive : Bool
  rest : List Char

/-- Adds segments to a path, within `fuel` segments. -/
def addSegments (kind : SchemeKind) (path : List Char) (hasDrive : Bool) (text : List Char) : Nat → PathReading
  | 0 => ⟨path, hasDrive, text⟩
  | fuel + 1 =>
    let (segment, slash, rest) := splitSegment kind text
    let hasDrive := hasDrive || namesDrive kind path (clean segment)
    let path := addSegment kind path segment slash
    if slash then addSegments kind path hasDrive rest fuel else ⟨path, hasDrive, rest⟩

/-- Reads the segments of a path after what is already there; a file path has one slash in front. -/
def readPath (kind : SchemeKind) (path text : List Char) : PathReading :=
  let read := addSegments kind path false text (text.length + 1)
  if kind = .file then { read with path := '/' :: read.path.dropWhile (· == '/') } else read

/-- Reads the path after a host. -/
def readPathAfterHost (kind : SchemeKind) (text : List Char) : PathReading :=
  match text with
  | [] => if kind.isSpecial then readPath kind ['/'] [] else ⟨[], false, []⟩
  | c :: rest =>
    if kind.isSpecial then readPath kind ['/'] (if isSlash c then rest else text)
    else if endsPath c then ⟨[], false, text⟩
    else if c = '/' then readPath kind [] text
    else readPath kind ['/'] text

/-! ## Query and fragment -/

/-- A URL with the query and the fragment that follow its path. -/
def withTail (scheme : String) (authority : Option Authority) (path : List Char) (rest : List Char) : Url :=
  let rest := clean rest
  let querySet := if (schemeKind scheme).isSpecial then inSpecialQuerySet else inQuerySet
  let base : Url := ⟨scheme, authority, String.ofList path, none, none⟩
  match rest with
  | '?' :: rest =>
    let query := rest.takeWhile (· != '#')
    let base := { base with query := some (String.ofList (percentEncode querySet query)) }
    match rest.dropWhile (· != '#') with
    | _ :: fragment => { base with fragment := some (encodeFragment fragment) }
    | [] => base
  | '#' :: fragment => { base with fragment := some (encodeFragment fragment) }
  | _ => base

/-! ## Authorities -/

/-- The user part before the last at-sign and what follows it. -/
def splitUser (kind : SchemeKind) (text : List Char) : Option (List Char × List Char) :=
  let ends (c : Char) : Bool := c == '/' || endsPath c || (c == '\\' && kind.isSpecial)
  let front := text.takeWhile (!ends ·)
  if front.contains '@' then
    let user := (front.reverse.dropWhile (· != '@')).tail.reverse
    some (user, text.drop (user.length + 1))
  else none

/-- The encoded user name, with a colon and the password unless that is empty. -/
def encodeUser (user : List Char) : List Char :=
  let name := percentEncode inUserSet (user.takeWhile (· != ':'))
  match (user.dropWhile (· != ':')).tail with
  | [] => name
  | password => name ++ [':'] ++ percentEncode inUserSet password

/-- Reads the user part. -/
def readUser (kind : SchemeKind) (text : List Char) : Except ParseError (List Char × List Char) :=
  match splitUser kind text with
  | none => .ok ([], text)
  | some ([], rest) =>
    match rest with
    | c :: _ => if c == '/' || endsPath c || (c == '\\' && kind.isSpecial) then .error .emptyHost else .ok ([], rest)
    | [] => .ok ([], rest)
  | some (user, rest) => .ok (encodeUser user, rest)

/-- The length of the host at the start of a text; a colon inside brackets belongs to it. -/
def hostLength (kind : SchemeKind) (inBrackets : Bool) : List Char → Nat
  | [] => 0
  | c :: rest =>
    if (c == ':' && !inBrackets) || (c == '\\' && kind.isSpecial) || c == '/' || endsPath c then 0
    else hostLength kind (if c = '[' then true else if c = ']' then false else inBrackets) rest + 1

/-- The greatest port number. -/
def portMax : Nat := 65535

/-- Reads decimal digits of a port; anything but a path may not follow. -/
def readPortDigits (port : Option Nat) : List Char → Except ParseError (Option Nat × List Char)
  | [] => .ok (port, [])
  | c :: rest =>
    if c.isDigit then
      let value := port.getD 0 * 10 + (c.toNat - 48)
      if portMax < value then .error .invalidPort else readPortDigits (some value) rest
    else if isSlash c || endsPath c then .ok (port, c :: rest)
    else .error .invalidPort

/-- Reads the port after a host; the default port of the scheme is left out. -/
def readPort (scheme : String) (text : List Char) : Except ParseError (Option Nat × List Char) :=
  match text with
  | ':' :: rest => do
    let (port, rest) ← readPortDigits none rest
    return (if port = defaultPort? scheme then none else port, rest)
  | _ => .ok (none, text)

/-- Reads what follows two slashes. -/
def readAuthority (scheme : String) (text : List Char) : Except ParseError Url := do
  let kind := schemeKind scheme
  let (user, rest) ← readUser kind text
  let length := hostLength kind false rest
  let written := rest.take length
  let rest := rest.drop length
  if kind.isSpecial && written.isEmpty then .error .emptyHost
  else
    let host ← if kind.isSpecial then parseHost written else parseAnyHost written
    if host.isEmpty && (rest.head? == some ':' || !user.isEmpty) then .error .emptyHost
    else
      let (port, rest) ← readPort scheme rest
      let read := readPathAfterHost kind rest
      return withTail scheme (some ⟨String.ofList user, String.ofList host, port⟩) read.path read.rest

/-! ## File URLs -/

/-- The authority of a file URL on the given host. -/
def fileAuthority (host : String) : Option Authority := some ⟨"", host, none⟩

/-- A file URL on the local host. -/
def localFile (path text : List Char) : Url :=
  let read := readPath .file path text
  withTail "file" (fileAuthority "") read.path read.rest

/-- Reads a file URL after two slashes; a path that no host comes before is not searched for a drive. -/
def readFileHost (text : List Char) : Except ParseError Url :=
  let isEnd (c : Char) : Bool := isSlash c || endsPath c
  let written := clean (text.takeWhile (!isEnd ·))
  let rest := text.dropWhile (!isEnd ·)
  if isDriveLetter written then .ok (localFile ['/'] text)
  else if written.isEmpty then .ok (localFile ['/'] rest)
  else do
    let host ← parseHost written
    if String.ofList host = "localhost" then return localFile ['/'] rest
    else
      let read := readPathAfterHost .file rest
      return withTail "file" (fileAuthority (if read.hasDrive then "" else String.ofList host)) read.path read.rest

/-- The base up to its path, of which a part is kept and the rest is read. -/
def continuing (base : Url) (path text : List Char) : Url :=
  let read := readPath (schemeKind base.scheme) path text
  withTail base.scheme base.authority read.path read.rest

/-- The base up to its query, followed by a query or a fragment. -/
def keepingPath (base : Url) (rest : List Char) : Url :=
  withTail base.scheme base.authority base.path.toList rest

/-- The base with a fragment of its own. -/
def keepingQuery (base : Url) (fragment : List Char) : Url :=
  { base with fragment := some (encodeFragment (clean fragment)) }

/-- Reads a file URL after its scheme, or a reference to a file URL; tabs and line breaks are still there. -/
def readFile (base : Option Url) (text : List Char) : Except ParseError Url :=
  match text.dropWhile isIgnored with
  | c :: rest =>
    if isSlash c then
      match rest.dropWhile isIgnored with
      | d :: more =>
        if isSlash d then readFileHost more else .ok (afterOneSlash rest)
      | [] => .ok (afterOneSlash rest)
    else
      match base with
      | none => .ok (localFile ['/'] text)
      | some base =>
        if c = '?' then .ok (base.keepingPath text)
        else if c = '#' then .ok (base.keepingQuery rest)
        else if startsWithDriveLetter (clean text) then .ok (localFile ['/'] text)
        else .ok (base.continuing (popPath .file base.path.toList) text)
  | [] =>
    match base with
    | none => .ok (localFile ['/'] text)
    | some base => .ok { base with fragment := none }
where
  /-- A path from the root keeps the host of the base, or its drive. -/
  afterOneSlash (rest : List Char) : Url :=
    let drive := (base.map fun base => (base.path.toList.tail.takeWhile (· != '/'))).getD []
    let host := (base.bind (·.authority)).elim "" (·.host)
    if startsWithDriveLetter (clean rest) then localFile [] ('/' :: rest)
    else if isNormalDriveLetter drive then localFile ('/' :: drive) ('/' :: rest)
    else
      let read := readPath .file [] ('/' :: rest)
      withTail "file" (fileAuthority host) read.path read.rest

/-! ## References -/

/-- Resolves a reference without scheme against a base that is no file URL. -/
def readRelative (base : Url) (text : List Char) : Except ParseError Url :=
  let kind := schemeKind base.scheme
  match text with
  | [] => .ok { base with fragment := none }
  | c :: rest =>
    if c = '?' then .ok (base.keepingPath text)
    else if c = '#' then .ok (base.keepingQuery rest)
    else if isSlash c then
      match rest with
      | d :: more =>
        if isSlash d then
          readAuthority base.scheme (if c = '/' ∧ d = '/' then more else text.dropWhile isSlash)
        else .ok (base.continuing ['/'] rest)
      | [] => .ok (base.continuing ['/'] rest)
    else
      let path := popPath kind base.path.toList
      .ok (base.continuing (if path.isEmpty then ['/'] else path) text)

/-- Reads what follows a scheme that is not special. -/
def readOther (scheme : String) (text : List Char) : Except ParseError Url :=
  match text with
  | '/' :: '/' :: rest => readAuthority scheme rest
  | '/' :: rest =>
    let read := readPath .other ['/'] rest
    .ok (withTail scheme none read.path read.rest)
  | _ =>
    let path := percentEncode isControl (text.takeWhile (!endsPath ·))
    .ok (withTail scheme none path (text.dropWhile (!endsPath ·)))

/-- What follows a number of characters other than tabs and line breaks. -/
def dropKept : Nat → List Char → List Char
  | 0, text => text
  | _ + 1, [] => []
  | count + 1, c :: text => if isIgnored c then dropKept (count + 1) text else dropKept count text

/-- Reads what follows a scheme, with tabs and line breaks (`written`) and without. -/
def readAfterScheme (base : Option Url) (scheme : String) (written text : List Char) : Except ParseError Url :=
  match schemeKind scheme with
  | .file => readFile (base.filter (·.scheme == "file")) written
  | .other => readOther scheme text
  | .special =>
    let slashes := text.takeWhile isSlash
    match base with
    | some base =>
      if slashes.length < 2 ∧ base.scheme = scheme then readRelative base text
      else readAuthority scheme (text.dropWhile isSlash)
    | none => readAuthority scheme (text.dropWhile isSlash)

/-- Reads a reference without scheme. -/
def readWithoutScheme (base : Option Url) (written : List Char) : Except ParseError Url :=
  let text := clean written
  match base with
  | none => .error .relativeWithoutBase
  | some base =>
    match text with
    | '#' :: fragment => .ok (base.keepingQuery fragment)
    | _ =>
      if base.cannotBeABase then .error .relativeWithCannotBeABaseBase
      else if base.scheme = "file" then readFile (some base) written
      else readRelative base text

/-- Reads a URL or, given a base, a reference. -/
def read (base : Option Url) (text : String) : Except ParseError Url :=
  let written := trim text
  let text := clean written
  match splitScheme? text with
  | some (scheme, rest) => readAfterScheme base scheme (dropKept (text.length - rest.length) written) rest
  | none => readWithoutScheme base written

/-- Reads an absolute URL. -/
def parse (text : String) : Except ParseError Url := read none text

/-- Resolves a reference against a base. -/
def join (base : Url) (reference : String) : Except ParseError Url := read (some base) reference

/-- The base of schemas that are given none. -/
def defaultBase : Url := ⟨"local", some ⟨"", "schema", none⟩, "", none, none⟩

end JsonSchema.Url
