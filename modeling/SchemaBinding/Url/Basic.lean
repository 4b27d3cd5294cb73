/-!
# URLs

A URL in its normal form: every part is ASCII and has what it may not hold encoded.

## Main definitions

* `Url`: the parts
* `Url.text`: the written form
* `Url.isSpecial`, `Url.defaultPort?`: what depends on the scheme
-/

namespace SchemaBinding

/-- Where a URL leads to: credentials, which may be empty, a host, and a port that is not the
default one. -/
structure Url.Authority where
  credentials : String
  host : String
  port : Option Nat
  deriving DecidableEq, Repr

/-- The path of a URL. -/
inductive Url.Path where
  /-- A path without structure, which does not start with a slash. -/
  | flat (text : String)
  /-- Segments, each of which follows a slash. -/
  | segments (items : List String)
  deriving DecidableEq, Repr

/-- A URL in its normal form. -/
structure Url where
  scheme : String
  authority : Option Url.Authority
  path : Url.Path
  query : Option String
  fragment : Option String
  deriving DecidableEq, Repr

namespace Url

/-- Whether a scheme is one whose URLs always have a host and take `\` for a slash. -/
def isSpecial (scheme : String) : Bool :=
  ["http", "https", "ws", "wss", "ftp", "file"].contains scheme

/-- The port that URLs with a scheme lead to if they name none. -/
def defaultPort? (scheme : String) : Option Nat :=
  [("http", 80), ("https", 443), ("ws", 80), ("wss", 443), ("ftp", 21)].lookup scheme

/-- The written form of an authority. -/
def Authority.text (a : Authority) : String :=
  "//" ++ (if a.credentials.isEmpty then "" else a.credentials ++ "@") ++ a.host ++
    match a.port with
    | some port => ":" ++ toString port
    | none => ""

/-- The written form of a path. -/
def Path.text : Path → String
  | .flat text => text
  | .segments items => String.join (items.map ("/" ++ ·))

/-- What stands between the scheme and the path: the authority, or what keeps a path with an empty
first segment from being read as one. -/
def leadText (url : Url) : String :=
  match url.authority, url.path with
  | some a, _ => a.text
  | none, .segments ("" :: _ :: _) => "/."
  | none, _ => ""

/-- The written form of a URL. -/
def text (url : Url) : String :=
  url.scheme ++ ":" ++ url.leadText ++ url.path.text ++
    (match url.query with
    | some query => "?" ++ query
    | none => "") ++
    match url.fragment with
    | some fragment => "#" ++ fragment
    | none => ""

end Url

end SchemaBinding
