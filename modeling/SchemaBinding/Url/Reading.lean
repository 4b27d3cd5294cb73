import SchemaBinding.Path
import SchemaBinding.Text.Split
import SchemaBinding.Url.Basic
import SchemaBinding.Url.Host

/-!
# Reading URLs

A text as a URL, by itself or relative to another URL. Control characters and blanks at the ends
do not count, nor do tabs and line ends anywhere.

## Main definitions

* `Url.parse`: the URL that a text stands for by itself
* `Url.join`: the URL that a reference stands for relative to a base
* `Url.filePath?`: the path of the file that a URL of the scheme `file` names
-/

namespace SchemaBinding.Url

/-! ## Parts -/

/-- The characters between the control characters and blanks at the ends. -/
def trim (s : String) : List Char :=
  ((s.toList.dropWhile (· ≤ ' ')).reverse.dropWhile (· ≤ ' ')).reverse

/-- Whether a character does not count wherever it stands. -/
def isBreak (c : Char) : Bool := c == '\t' || c == '\n' || c == '\r'

/-- The characters that count. -/
def relevant (cs : List Char) : List Char := cs.filter fun c => !isBreak c

/-- The rest of a scheme that has begun, in small letters, and what follows its colon. -/
def schemeRest? : List Char → Option (List Char × List Char)
  | [] => none
  | c :: cs =>
    if c = ':' then some ([], cs)
    else if c.isAlphanum || c == '+' || c == '-' || c == '.' then
      (schemeRest? cs).map fun (scheme, rest) => (c.toLower :: scheme, rest)
    else none

/-- The scheme at the start, and what follows its colon. -/
def splitScheme? : List Char → Option (String × List Char)
  | [] => none
  | c :: cs =>
    if c.isAlpha then
      (schemeRest? (c :: cs)).map fun (scheme, rest) => (String.ofList scheme, rest)
    else none

/-- Whether a character is a slash of either kind. -/
def isSlash (c : Char) : Bool := c == '/' || c == '\\'

/-- The fragment of the given characters. -/
def readFragment (cs : List Char) : String :=
  String.ofList (Percent.encode Percent.inFragment cs)

/-- The query and the fragment that follow a path. -/
def readTail (special : Bool) : List Char → Option String × Option String
  | '#' :: cs => (none, some (readFragment cs))
  | '?' :: cs =>
    let escaped := if special then Percent.inSpecialQuery else Percent.inQuery
    let query := String.ofList (Percent.encode escaped (cs.takeWhile (· != '#')))
    match cs.dropWhile (· != '#') with
    | [] => (some query, none)
    | _ :: rest => (some query, some (readFragment rest))
  | _ => (none, none)

/-- Whether a character belongs to a path. -/
def isPathChar (c : Char) : Bool := c != '?' && c != '#'

/-! ## Paths -/

/-- A segment, encoded. -/
def readSegment (cs : List Char) : String := String.ofList (Percent.encode Percent.inPath cs)

/-- What stands between slashes. With a special scheme `\` is a slash too. -/
def splitSlashes (special : Bool) (cs : List Char) : List (List Char) :=
  cs.splitOnP fun c => c == '/' || (special && c == '\\')

/-- The segments between slashes, encoded. -/
def splitSegments (special : Bool) (cs : List Char) : List String :=
  (splitSlashes special cs).map readSegment

/-- A segment in which an encoded dot is written as a dot. -/
def plainDots (segment : String) : String :=
  (segment.replace "%2e" ".").replace "%2E" "."

/-- Whether a segment stands for the place where it is. -/
def isSingleDot (segment : String) : Bool := plainDots segment == "."

/-- Whether a segment stands for the place above. -/
def isDoubleDot (segment : String) : Bool := plainDots segment == ".."

/-- Whether a segment is a drive letter: a letter and a colon or a bar, and maybe a `\` that is no
slash, with anything after it. -/
def isDrive (segment : String) : Bool :=
  match segment.toList with
  | a :: b :: cs => a.isAlpha && (b == ':' || b == '|') && (cs.isEmpty || cs.head? == some '\\')
  | _ => false

/-- The place above the end of a path. There is none above a drive letter. -/
def ascend (path : List String) : List String :=
  match path.getLast? with
  | some last => if isDrive last then path else path.dropLast
  | none => []

/-- Follows one segment that a slash comes after. -/
def descend (path : List String) (segment : String) : List String :=
  if isDoubleDot segment then ascend path
  else if isSingleDot segment then path
  else path ++ [segment]

/-- Follows segments from a path; the last one is not followed by a slash. -/
def follow (path : List String) : List String → List String
  | [] => path
  | [segment] =>
    let reached := descend path segment
    if isDoubleDot segment || isSingleDot segment then reached ++ [""] else reached
  | segment :: more => follow (descend path segment) more

/-! ## Authorities -/

/-- Whether a character ends an authority. -/
def endsAuthority (special : Bool) (c : Char) : Bool :=
  c == '/' || c == '?' || c == '#' || (special && c == '\\')

/-- Credentials in normal form: an empty password is left out with its colon. -/
def readCredentials (cs : List Char) : String :=
  let encode (part : List Char) : String :=
    String.ofList (Percent.encode Percent.inUserinfo part)
  let user := encode (cs.takeWhile (· != ':'))
  match cs.dropWhile (· != ':') with
  | _ :: c :: password => user ++ ":" ++ encode (c :: password)
  | _ => user

/-- The characters of a host and what follows them. A colon inside brackets belongs to the
host. -/
def splitHost (special inBrackets : Bool) : List Char → List Char × List Char
  | [] => ([], [])
  | c :: cs =>
    if (c = ':' ∧ !inBrackets) ∨ endsAuthority special c then ([], c :: cs)
    else
      let (host, rest) := splitHost special (if c = '[' then true else c != ']' && inBrackets) cs
      (c :: host, rest)

/-- A port and what follows it; the default port of the scheme counts as none. -/
def readPort (scheme : String) (cs : List Char) : Except Fault (Option Nat × List Char) :=
  let digits := cs.takeWhile Char.isDigit
  let rest := cs.dropWhile Char.isDigit
  let ends := match rest with
    | [] => true
    | c :: _ => isSlash c || !isPathChar c
  match Text.number? 10 digits with
  | some port =>
    if port < 65536 && ends then
      let named := !digits.isEmpty && defaultPort? scheme != some port
      .ok (if named then some port else none, rest)
    else .error .port
  | none => .error .port

/-- The authority at the start of some characters, and what follows it. -/
def readAuthority (scheme : String) (cs : List Char) : Except Fault (Authority × List Char) := do
  let special := isSpecial scheme
  let written := cs.takeWhile fun c => !endsAuthority special c
  let after := cs.dropWhile fun c => !endsAuthority special c
  let (credentials, hostAndPort) ← match Text.splitLast? '@' written with
    | none => .ok ("", written)
    | some ([], host) =>
      -- Nothing is written before the last at sign.
      if host.isEmpty && !after.isEmpty then .error .emptyHost else .ok ("", host)
    | some (credentials, host) => .ok (readCredentials credentials, host)
  let (host, rest) := splitHost special false (hostAndPort ++ after)
  -- A host may be missing with other schemes, but not where a port or credentials go with it.
  if host.isEmpty && (special || rest.head? == some ':' || !credentials.isEmpty) then
    throw .emptyHost
  let host ← if special then Host.ofSpecial host else Host.ofOther host
  match rest with
  | ':' :: rest =>
    let (port, rest) ← readPort scheme rest
    return (⟨credentials, host, port⟩, rest)
  | _ => return (⟨credentials, host, none⟩, rest)

/-- The URL whose path starts with the given characters, after `path`. -/
def withPath (scheme : String) (authority : Option Authority) (path : List String)
    (cs : List Char) : Url :=
  let special := isSpecial scheme
  let (query, fragment) := readTail special (cs.dropWhile isPathChar)
  { scheme := scheme
    authority := authority
    path := .segments (follow path (splitSegments special (cs.takeWhile isPathChar)))
    query := query
    fragment := fragment }

/-- The URL of a scheme, given what follows the slashes in front of its authority. -/
def readHierarchical (scheme : String) (cs : List Char) : Except Fault Url := do
  let special := isSpecial scheme
  let (authority, rest) ← readAuthority scheme cs
  match rest with
  | [] =>
    if special then return withPath scheme (some authority) [] []
    else return ⟨scheme, some authority, .segments [], none, none⟩
  | c :: after =>
    if c = '/' || (special && c = '\\') then return withPath scheme (some authority) [] after
    else if !special && !isPathChar c then
      let (query, fragment) := readTail special rest
      return ⟨scheme, some authority, .segments [], query, fragment⟩
    else return withPath scheme (some authority) [] rest

/-! ## Files -/

/-- Whether characters are a letter followed by a colon or a bar. -/
def isDriveLetter : List Char → Bool
  | [a, b] => a.isAlpha && (b == ':' || b == '|')
  | _ => false

/-- The path of a file as far as it is followed, and whether it is on a drive. -/
structure FilePath where
  segments : List String
  onDrive : Bool

/-- The drive letter at the start of a segment and the rest of the segment, if a tab or a line end
stands between the two. -/
def splitDrive? (cs : List Char) : Option (String × String) :=
  match cs.dropWhile isBreak with
  | [] => none
  | a :: cs =>
    match cs.dropWhile isBreak with
    | ':' :: c :: cs =>
      if a.isAlpha && isBreak c && !(relevant cs).isEmpty then
        some (String.ofList [a, ':'], readSegment (relevant cs))
      else none
    | _ => none

/-- Follows a segment in the path of a file. A drive letter at the start of the path is written
with a colon. -/
def FilePath.enter (p : FilePath) (cs : List Char) : FilePath :=
  let segment := readSegment (relevant cs)
  if !p.segments.isEmpty then { p with segments := descend p.segments segment }
  else
    match splitDrive? cs with
    | some (drive, rest) => { p with segments := [drive, rest] }
    | none =>
      if isDriveLetter (relevant cs) then ⟨[String.ofList ((relevant cs).take 1 ++ [':'])], true⟩
      else { p with segments := descend [] segment }

/-- Follows segments in the path of a file; the last one is not followed by a slash. -/
def FilePath.follow (p : FilePath) : List (List Char) → FilePath
  | [] => p
  | [cs] =>
    let segment := readSegment (relevant cs)
    let reached := p.enter cs
    if isDoubleDot segment || isSingleDot segment then
      { reached with segments := reached.segments ++ [""] }
    else reached
  | cs :: more => (p.enter cs).follow more

/-- A path without empty segments at its start. -/
def dropEmptySegments (path : List String) : List String :=
  match path.dropWhile String.isEmpty with
  | [] => [""]
  | rest => rest

/-- The URL of a file, given what follows the slash at the start of its path. A drive takes the
place of the host. -/
def fileUrl (host : String) (cs : List Char) : Url :=
  let (query, fragment) := readTail true (relevant (cs.dropWhile isPathChar))
  let path := FilePath.follow ⟨[], false⟩ (splitSlashes true (cs.takeWhile isPathChar))
  { scheme := "file"
    authority := some ⟨"", if path.onDrive then "" else host, none⟩
    path := .segments (dropEmptySegments path.segments)
    query := query
    fragment := fragment }

/-- What follows a slash at the start, if there is one. -/
def afterSlash? : List Char → Option (List Char)
  | [] => none
  | c :: cs => if isBreak c then afterSlash? cs else if isSlash c then some cs else none

/-- The URL of a file, given what follows two slashes. -/
def readFileHost (cs : List Char) : Except Fault Url :=
  let written := relevant (cs.takeWhile fun c => !endsAuthority true c)
  let after := cs.dropWhile fun c => !endsAuthority true c
  -- A drive letter after two slashes belongs to the path.
  if isDriveLetter written then .ok (fileUrl "" cs)
  -- Without a host the path starts with an empty segment, in front of any drive letter.
  else if written.isEmpty then .ok (fileUrl "" after)
  else do
    let host ← Host.ofSpecial written
    if host = "localhost" then return fileUrl "" after
    else return fileUrl host ((afterSlash? after).getD after)

/-- The URL of a file, given what follows the scheme. -/
def readFile (cs : List Char) : Except Fault Url :=
  match afterSlash? cs with
  | none => .ok (fileUrl "" cs)
  | some path =>
    match afterSlash? path with
    | none => .ok (fileUrl "" path)
    | some rest => readFileHost rest

/-! ## Whole URLs -/

/-- The URL of a scheme that is not special, given what follows the scheme. -/
def readOther (scheme : String) : List Char → Except Fault Url
  | '/' :: '/' :: cs => readHierarchical scheme cs
  | '/' :: cs => .ok (withPath scheme none [] cs)
  | cs =>
    let (query, fragment) := readTail false (cs.dropWhile isPathChar)
    let path := String.ofList (Percent.encode Percent.isControl (cs.takeWhile isPathChar))
    .ok ⟨scheme, none, .flat path, query, fragment⟩

/-- The URL that a reference without a scheme stands for, relative to a base whose path has the
given segments. -/
def readRelative (base : Url) (items : List String) (cs : List Char) : Except Fault Url :=
  let special := isSpecial base.scheme
  match cs with
  | [] => .ok { base with fragment := none }
  | c :: rest =>
    if c = '?' then
      let (query, fragment) := readTail special cs
      .ok { base with query := query, fragment := fragment }
    else if c = '#' then .ok { base with fragment := some (readFragment rest) }
    else if isSlash c then
      match cs with
      | '/' :: '/' :: after => readHierarchical base.scheme after
      | _ =>
        if 2 ≤ (cs.takeWhile isSlash).length then
          readHierarchical base.scheme (cs.dropWhile isSlash)
        else .ok (withPath base.scheme base.authority [] rest)
    else .ok (withPath base.scheme base.authority items.dropLast cs)

/-- The URL with a scheme other than `file`, given what follows the scheme. A URL with the special
scheme of the base may leave out the authority. -/
def readWithScheme (base : Option Url) (scheme : String) (cs : List Char) : Except Fault Url :=
  if isSpecial scheme then
    match base with
    | some b =>
      match b.path with
      | .segments items =>
        -- The reference has the scheme of the base and no authority: it is relative to the base.
        if b.scheme = scheme && (cs.takeWhile isSlash).length < 2 then readRelative b items cs
        else readHierarchical scheme (cs.dropWhile isSlash)
      | .flat _ => readHierarchical scheme (cs.dropWhile isSlash)
    | none => readHierarchical scheme (cs.dropWhile isSlash)
  else readOther scheme cs

/-- The URL that characters stand for, relative to a base if there is one. -/
def read (base : Option Url) (written : List Char) : Except Fault Url :=
  let cs := relevant written
  match splitScheme? cs with
  | some (scheme, rest) =>
    if scheme = "file" then readFile ((written.dropWhile (· != ':')).drop 1)
    else readWithScheme base scheme rest
  | none =>
    match base with
    | none => .error .relativeWithoutBase
    | some b =>
      match cs with
      | '#' :: fragment => .ok { b with fragment := some (readFragment fragment) }
      | _ =>
        match b.path with
        | .flat _ => .error .flatBase
        | .segments items => readRelative b items cs

/-- The URL that a text stands for by itself. -/
def parse (s : String) : Except Fault Url := read none (trim s)

/-- The URL that a reference stands for relative to a base. -/
def join (base : Url) (reference : String) : Except Fault Url :=
  read (some base) (trim reference)

/-- The octets of a path that ends in a drive letter are followed by a slash. -/
def closeDrive (octets : Text.Octets) : Text.Octets :=
  match octets.reverse with
  | b :: a :: _ :: _ =>
    if (Char.ofNat a.toNat).isAlpha && (b == 0x3A || b == 0x7C) then octets ++ [0x2F] else octets
  | _ => octets

/-- The path of the file that a URL names; there is none if the URL names a host. -/
def filePath? (url : Url) : Option SchemaBinding.Path :=
  match url.authority, url.path with
  | some ⟨_, "", _⟩, .segments items =>
    let octets := items.flatMap fun item => 0x2F :: Percent.decode (Text.encode item)
    some (.ofOctets (closeDrive octets))
  | _, _ => none

end SchemaBinding.Url
