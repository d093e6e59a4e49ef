import LoadHarness.Url.Basic
import LoadHarness.Url.Domain

/-!
# Reading URLs

Blanks and controls around a URL and breaks within it do not count. Web schemes and `ftp` are
special: they need a host, take a backslash for a slash and leave out their own port. Host
names of special schemes are brought to ASCII, and one that ends in a number is an address.
-/

namespace LoadHarness

namespace Url

/-- Why a text is no URL. -/
inductive Fault where
  | noScheme
  | emptyHost
  | badName
  | badHostCharacter
  | badIpv4
  | badIpv6
  | badPort
  deriving DecidableEq

def Fault.message : Fault → String
  | noScheme => "relative URL without a base"
  | emptyHost => "empty host"
  | badName => "invalid international domain name"
  | badHostCharacter => "invalid domain character"
  | badIpv4 => "invalid IPv4 address"
  | badIpv6 => "invalid IPv6 address"
  | badPort => "invalid port number"

/-- The port that a special scheme implies. -/
def schemePort? (scheme : String) : Option Nat :=
  if scheme = "http" ∨ scheme = "ws" then some 80
  else if scheme = "https" ∨ scheme = "wss" then some 443
  else if scheme = "ftp" then some 21
  else none

def isSpecial (scheme : String) : Bool := scheme == "file" || (schemePort? scheme).isSome

/-! ## Scheme -/

/-- The text without controls and blanks at either end, and without breaks. -/
def cleaned (cs : List Char) : List Char :=
  let outer (c : Char) : Bool := c.toNat ≤ 32
  let inner := ((cs.dropWhile outer).reverse.dropWhile outer).reverse
  inner.filter fun c => c ≠ '\t' ∧ c ≠ '\n' ∧ c ≠ '\r'

/-- Splits off the scheme, in small letters. -/
def splitScheme? (cs : List Char) : Option (String × List Char) :=
  let inScheme (c : Char) : Bool := c.isAlphanum || c == '+' || c == '-' || c == '.'
  match cs with
  | [] => none
  | c :: _ =>
    if !c.isAlpha then none
    else match cs.span inScheme with
      | (scheme, ':' :: rest) => some (String.ofList (scheme.map Char.toLower), rest)
      | _ => none

/-! ## Host -/

/-- A part of an address in base eight, ten or sixteen; a mark in front tells the base. -/
def addressPart? (cs : List Char) : Option Nat :=
  let read (base : Nat) (digits : List Char) : Option Nat :=
    (digits.mapM Ipv6.hexDigit?).bind fun values =>
      if values.all (· < base) then some (values.foldl (fun n d => n * base + d) 0) else none
  match cs with
  | [] => none
  | '0' :: 'x' :: rest => read 16 rest
  | '0' :: 'X' :: rest => read 16 rest
  | ['0'] => some 0
  | '0' :: rest => read 8 rest
  | _ => read 10 cs

/-- The parts of a host name; a point at the end adds none. -/
def hostParts (cs : List Char) : List (List Char) :=
  let parts := splitChars '.' cs
  if parts.getLast? = some [] then parts.dropLast else parts

/-- Whether the last part of a name is a number. -/
def endsInNumber (cs : List Char) : Bool :=
  match (hostParts cs).getLast? with
  | none => false
  | some part => (!part.isEmpty && part.all Char.isDigit) || (addressPart? part).isSome

/-- Reads an address of up to four parts; the last one fills the bytes that are left. -/
def ipv4? (cs : List Char) : Option Ipv4 :=
  let parts := hostParts cs
  if 4 < parts.length then none
  else match parts.mapM addressPart? with
    | none => none
    | some values =>
      let front := values.dropLast
      let last := values.getLastD 0
      if 1 <<< (8 * (4 - front.length)) ≤ last ∨ front.any (255 < ·) then none
      else some ⟨front.zipIdx.foldl (fun n (v, i) => n + v <<< (8 * (3 - i))) last⟩

/-- Reads an address in brackets. -/
def bracketedHost (cs : List Char) : Except Fault Host :=
  if cs.getLast? ≠ some ']' then .error .badIpv6
  else match Ipv6.ofChars? (cs.drop 1).dropLast with
    | some address => .ok (.v6 address)
    | none => .error .badIpv6

/-- Reads the host of a special scheme. -/
def specialHost (cs : List Char) : Except Fault Host :=
  if cs.head? = some '[' then bracketedHost cs
  else
    let bytes := Percent.decode (String.ofList cs).toUTF8.toList
    match String.fromUTF8? ⟨bytes.toArray⟩ with
    | none => .error .badName
    | some text =>
      match Domain.toAscii? text.toList with
      | none => .error .badName
      | some [] => .error .emptyHost
      | some name =>
        if endsInNumber name then
          match ipv4? name with
          | some address => .ok (.v4 address)
          | none => .error .badIpv4
        else .ok (.name (String.ofList name))

/-- Characters that no host of another scheme holds. -/
def isForbiddenInHost (c : Char) : Bool :=
  ['\x00', '\t', '\n', '\r', ' ', '#', '/', ':', '<', '>', '?', '@', '[', '\\', ']', '^',
    '|'].contains c

/-- Reads the host of a scheme that is not special. -/
def plainHost (cs : List Char) : Except Fault Host :=
  if cs.head? = some '[' then bracketedHost cs
  else if cs.any isForbiddenInHost then .error .badHostCharacter
  else .ok (.name (Percent.encode [] cs))

/-! ## Authority -/

/-- Splits where a character satisfies the test for the first time. -/
def splitWhere (test : Char → Bool) (cs : List Char) : List Char × List Char :=
  cs.span fun c => !test c

/-- Characters that end an authority. -/
def endsAuthority (special : Bool) (c : Char) : Bool :=
  c == '/' || c == '?' || c == '#' || (special && c == '\\')

/-- Splits before the colon of a port, which stands outside brackets. -/
def splitHost (inBrackets : Bool) : List Char → List Char × List Char
  | [] => ([], [])
  | c :: rest =>
    if c = ':' ∧ inBrackets = false then ([], c :: rest)
    else
      let (host, port) :=
        splitHost (if c = '[' then true else if c = ']' then false else inBrackets) rest
      (c :: host, port)

/-- The written form of a user name with a password; an empty password is left out. -/
def userText (cs : List Char) : Option String :=
  let (name, rest) := splitWhere (· == ':') cs
  let password := rest.drop 1
  let written := Percent.encode Percent.userSet name
    ++ (if password.isEmpty then "" else ":" ++ Percent.encode Percent.userSet password)
  if written.isEmpty then none else some written

/-- Splits at the last `@`. -/
def splitUser (cs : List Char) : Option (List Char) × List Char :=
  match cs.reverse.span (· ≠ '@') with
  | (host, _ :: user) => (some user.reverse, host.reverse)
  | _ => (none, cs)

/-- Reads a port, and what follows it; one that the scheme implies is left out. -/
def portOf (scheme : String) (cs : List Char) : Except Fault (Option Nat × List Char) :=
  let (digits, rest) := cs.span Char.isDigit
  if 65535 < decimalValue digits then .error .badPort
  else if rest ≠ [] ∧ rest.head? ≠ some '\\' then .error .badPort
  else if digits.isEmpty ∨ schemePort? scheme = some (decimalValue digits) then .ok (none, rest)
  else .ok (some (decimalValue digits), rest)

/-- Reads an authority and what follows it. -/
def authorityOf (scheme : String) (cs : List Char) : Except Fault (Authority × List Char) := do
  let special := isSpecial scheme
  let (inner, rest) := splitWhere (endsAuthority special) cs
  let (user, place) := splitUser inner
  if user = some [] ∧ place.isEmpty ∧ !rest.isEmpty then .error .emptyHost
  let (host, mark) := splitHost false place
  if host.isEmpty ∧ (special ∨ !mark.isEmpty) then .error .emptyHost
  let host ← if special then specialHost host else plainHost host
  let (port, more) ← portOf scheme (mark.drop 1)
  let written := user.bind userText
  if host = .name "" ∧ written.isSome then .error .emptyHost
  return ({ user := written, host, port }, more ++ rest)

/-- Whether a text names a drive: a letter and a colon or a bar. -/
def isDrive (text : String) : Bool :=
  match text.toList with
  | [letter, mark] => letter.isAlpha && (mark == ':' || mark == '|')
  | _ => false

/-- The authority of a file on the machine itself. -/
def Authority.here : Authority := { user := none, host := .name "", port := none }

/-- Reads the machine of a file and what follows it. The letter of a drive is no machine. -/
def machineOf (cs : List Char) : Except Fault (Authority × List Char) := do
  let (host, rest) := splitWhere (endsAuthority true) cs
  if isDrive (String.ofList host) then return (.here, cs)
  if host.isEmpty then return (.here, rest)
  match ← specialHost host with
  | .name "localhost" => return (.here, rest)
  | host => return ({ Authority.here with host }, rest)

/-! ## Path -/

/-- Whether a segment stands for the place itself. -/
def isSingleDot (segment : String) : Bool :=
  [".", "%2e"].contains (segment.map Char.toLower)

/-- Whether a segment stands for the place above. -/
def isDoubleDot (segment : String) : Bool :=
  ["..", "%2e.", ".%2e", "%2e%2e"].contains (segment.map Char.toLower)

/-- The place above: the path without its last segment. There is no place above a drive. -/
def placeAbove (done : List String) : List String :=
  if done.getLast?.any isDrive then done else done.dropLast

/-- Puts segments one after another and resolves those that are dots; dots at the end leave
an empty segment. -/
def resolveDots (done : List String) : List String → List String
  | [] => done
  | segment :: rest =>
    let tail := if rest.isEmpty then [""] else []
    if isDoubleDot segment then resolveDots (placeAbove done ++ tail) rest
    else if isSingleDot segment then resolveDots (done ++ tail) rest
    else resolveDots (done ++ [segment]) rest

/-- Splits characters at slashes, and at backslashes for a special scheme. -/
def splitSegments (special : Bool) (cs : List Char) : List (List Char) :=
  splitChars '/' (if special then cs.map fun c => if c = '\\' then '/' else c else cs)

/-- Reads a path that starts with a slash or is to get one. -/
def pathOf (special : Bool) (cs : List Char) : Path :=
  if cs.isEmpty ∧ !special then .segments []
  else
    let inner := match cs with
      | '/' :: rest => rest
      | '\\' :: rest => if special then rest else cs
      | _ => cs
    .segments (resolveDots [] ((splitSegments special inner).map (Percent.encode Percent.pathSet)))

/-! ## The whole URL -/

/-- What stands after the first of some characters, where there is one. -/
def afterMark (rest : List Char) : Option (List Char) :=
  match rest with
  | [] => none
  | _ :: inner => some inner

/-- Reads the authority after a scheme, where there is one, and what follows it. -/
def placeOf (scheme : String) (cs : List Char) : Except Fault (Option Authority × List Char) :=
  let isSlash (c : Char) : Bool := c == '/' || c == '\\'
  if scheme = "file" then
    match cs.span isSlash with
    | (_ :: _ :: more, rest) => (machineOf (more ++ rest)).map fun (a, rest) => (some a, rest)
    | _ => .ok (some .here, cs)
  else if isSpecial scheme then
    (authorityOf scheme (cs.dropWhile isSlash)).map fun (a, rest) => (some a, rest)
  else match cs with
    | '/' :: '/' :: rest => (authorityOf scheme rest).map fun (a, rest) => (some a, rest)
    | _ => .ok (none, cs)

def ofText? (text : String) : Except Fault Url := do
  let some (scheme, rest) := splitScheme? (cleaned text.toList) | .error .noScheme
  let special := isSpecial scheme
  let (authority, rest) ← placeOf scheme rest
  let (rest, fragment) := splitWhere (· == '#') rest
  let (path, query) := splitWhere (· == '?') rest
  let querySet := if special then Percent.webQuerySet else Percent.querySet
  return {
    scheme, authority
    path :=
      if authority.isSome ∨ path.head? = some '/' then pathOf special path
      else .plain (Percent.encode [] path)
    query := (afterMark query).map (Percent.encode querySet)
    fragment := (afterMark fragment).map (Percent.encode Percent.fragmentSet) }

end Url

end LoadHarness
