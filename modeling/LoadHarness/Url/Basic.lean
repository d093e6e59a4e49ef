import LoadHarness.Url.Percent

/-!
# URLs

A URL has a scheme, perhaps an authority, a path, perhaps a query and a fragment. All parts
are kept in their written form. A path is a list of segments, unless nothing after the scheme
starts with a slash: such a path is opaque, and no other address can be resolved against it.
-/

namespace LoadHarness

namespace Url

/-- Where a URL points. -/
inductive Host where
  | name (text : String)
  | v4 (address : Ipv4)
  | v6 (address : Ipv6)
  deriving DecidableEq

def Host.toText : Host → String
  | .name text => text
  | .v4 address => address.toText
  | .v6 address => "[" ++ address.toText ++ "]"

/-- The part after the two slashes. The port is absent where the scheme implies it. -/
structure Authority where
  user : Option String
  host : Host
  port : Option Nat
  deriving DecidableEq

/-- Host and port as they stand in a URL. -/
def Authority.hostText (a : Authority) : String :=
  a.host.toText ++ match a.port with
    | some port => ":" ++ toString port
    | none => ""

def Authority.toText (a : Authority) : String :=
  (match a.user with
    | some user => user ++ "@"
    | none => "") ++ a.hostText

/-- A path: text of its own kind, or segments with a slash before each. -/
inductive Path where
  | plain (text : String)
  | segments (parts : List String)
  deriving DecidableEq

def Path.toText : Path → String
  | .plain text => text
  | .segments parts => String.join (parts.map ("/" ++ ·))

end Url

structure Url where
  scheme : String
  authority : Option Url.Authority
  path : Url.Path
  query : Option String
  fragment : Option String
  deriving DecidableEq

namespace Url

/-- Scheme, authority and path. Two slashes at the start of a path would read as an
authority, so a dot goes before them. -/
def locationText (u : Url) : String :=
  let path := u.path.toText
  u.scheme ++ ":" ++ match u.authority with
    | some a => "//" ++ a.toText ++ path
    | none => if path.startsWith "//" then "/." ++ path else path

def toText (u : Url) : String :=
  u.locationText
    ++ (match u.query with
      | some query => "?" ++ query
      | none => "")
    ++ (match u.fragment with
      | some fragment => "#" ++ fragment
      | none => "")

/-- Whether the path is opaque. -/
def isOpaque (u : Url) : Bool :=
  match u.path with
  | .plain _ => true
  | .segments _ => false

/-- The address with a slash at the end of its path. -/
def withTrailingSlash (u : Url) : Url :=
  match u.path with
  | .plain _ => u
  | .segments parts =>
    if parts.getLast? = some "" then u
    else { u with path := .segments (parts ++ [""]) }

/-- The address that a relative path names: its segments take the place of the last one, and
query and fragment go. -/
def join (u : Url) (relative : List String) : Url :=
  match u.path with
  | .plain _ => u
  | .segments parts =>
    { u with path := .segments (parts.dropLast ++ relative), query := none, fragment := none }

/-- The address with a query of names and values. -/
def withQuery (u : Url) (pairs : List (String × String)) : Url :=
  if pairs.isEmpty then u
  else { u with
    query := some (String.intercalate "&" (pairs.map fun (name, value) => name ++ "=" ++ value)) }

/-- Path and query, as a request names them to a server. -/
def requestTarget (u : Url) : String :=
  u.path.toText ++ match u.query with
    | some query => "?" ++ query
    | none => ""

end Url

end LoadHarness
