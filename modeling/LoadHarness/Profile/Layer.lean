import LoadHarness.Binary64.Text
import LoadHarness.Text.Lowercase
import LoadHarness.Toml.Reader

/-!
# Layers of settings

Settings come in layers: a document first, then the environment. A later layer wins, but tables
are joined key by key. Keys are lower-cased, so that their case does not matter, and stand in
ascending order. The key at the top of a layer may be a path: names with points between them
and places in square brackets.
-/

namespace LoadHarness

/-- A setting with the place that it comes from. -/
inductive Setting where
  | absent
  | bool (b : Bool) (origin : Option String)
  | integer (n : Int) (origin : Option String)
  | real (x : Binary64) (origin : Option String)
  | text (s : String) (origin : Option String)
  | list (items : List Setting) (origin : Option String)
  | table (entries : List (String × Setting)) (origin : Option String)

namespace Setting

/-! ## From a document -/

mutual

/-- The setting of a value in a document. -/
def ofToml (origin : Option String) : TomlValue → Setting
  | .text s => .text s origin
  | .integer n => .integer n origin
  | .real x => .real x origin
  | .bool b => .bool b origin
  | .moment s => .text s origin
  | .array items => .list (ofItems origin items) origin
  | .table _ entries => .table (ofEntries origin entries) origin
  | .tables items => .list (ofTables origin items) origin

def ofItems (origin : Option String) : List TomlValue → List Setting
  | [] => []
  | item :: rest => ofToml origin item :: ofItems origin rest

def ofEntries (origin : Option String) : List (String × TomlValue) → List (String × Setting)
  | [] => []
  | (key, value) :: rest => (key, ofToml origin value) :: ofEntries origin rest

def ofTables (origin : Option String) : List (List (String × TomlValue)) → List Setting
  | [] => []
  | entries :: rest => .table (ofEntries origin entries) origin :: ofTables origin rest

end

/-! ## Joining -/

/-- The entries of a table; anything else has none. -/
def entries : Setting → List (String × Setting)
  | .table entries _ => entries
  | _ => []

/-- The items of a list; anything else has none. -/
def items : Setting → List Setting
  | .list items _ => items
  | _ => []

/-- Puts a setting at its key, in ascending order of keys. -/
def insertAt (key : String) (value : Setting) :
    List (String × Setting) → List (String × Setting)
  | [] => [(key, value)]
  | entry :: rest =>
    if key = entry.1 then (key, value) :: rest
    else if key < entry.1 then (key, value) :: entry :: rest
    else entry :: insertAt key value rest

/-- The setting at a key. -/
def lookup (key : String) (entries : List (String × Setting)) : Setting :=
  ((entries.find? (·.1 == key)).map Prod.snd).getD .absent

/-- Whether a key has a setting. -/
def hasKey (key : String) (entries : List (String × Setting)) : Bool := entries.any (·.1 == key)

mutual

/-- A setting that takes the place of `old`: the entries of a table are joined with those of
`old`, everything else replaces it. -/
def cover (old : Option Setting) : Setting → Setting
  | .table entries _ =>
    match entries with
    | [] => old.getD (.table [] none)
    | entries => .table (joinEntries (old.getD .absent).entries entries) none
  | new => new

/-- Puts new entries over old ones. -/
def joinEntries (old : List (String × Setting)) :
    List (String × Setting) → List (String × Setting)
  | [] => old
  | (key, value) :: rest =>
    let key := lowerText key
    let before := if hasKey key old then some (lookup key old) else none
    joinEntries (insertAt key (cover before value) old) rest

end

/-! ## Paths -/

/-- A step of a path: a name or a place in a list. Places below zero count from the end. -/
inductive PathStep where
  | name (key : String)
  | place (index : Int)
  deriving DecidableEq

def isNameChar (c : Char) : Bool := c.isAlphanum || c == ' ' || c == '_' || c == '-'

/-- Reads a place, which stands in square brackets with blanks around it, and what follows. -/
def place? (cs : List Char) : Option (Int × List Char) :=
  let isBlank (c : Char) : Bool := c == ' ' || c == '\t'
  let cs := cs.dropWhile isBlank
  let (minus, cs) := match cs with
    | '-' :: rest => (true, rest)
    | _ => (false, cs)
  let (digits, rest) := cs.span Char.isDigit
  match rest.dropWhile isBlank with
  | ']' :: rest =>
    if digits.isEmpty then none
    else
      let size : Int := Decimal.valueOf digits
      (Toml.bounded? (if minus then -size else size)).map fun index => (index, rest)
  | _ => none

/-- Reads the steps after the first name of a path. -/
def steps? (fuel : Nat) (cs : List Char) : Option (List PathStep) :=
  match fuel, cs with
  | 0, _ => none
  | _, [] => some []
  | fuel + 1, '.' :: rest =>
    let (name, rest) := rest.span isNameChar
    if name.isEmpty then none
    else (steps? fuel rest).map (.name (String.ofList name) :: ·)
  | fuel + 1, '[' :: rest =>
    match place? rest with
    | some (index, rest) => (steps? fuel rest).map (.place index :: ·)
    | none => none
  | _, _ => none

/-- The steps of a path; a text that is no path is a single name. -/
def pathOf (text : String) : List PathStep :=
  let (name, rest) := text.toList.span isNameChar
  match (if name.isEmpty then none else steps? (rest.length + 1) rest) with
  | some steps => .name (String.ofList name) :: steps
  | none => [.name text]

/-- A list grown to hold a place, at its end or, for a place before the first, at its start; and
the place counted from the start. -/
def growTo (index : Int) (items : List Setting) : List Setting × Nat :=
  if 0 ≤ index then
    (items ++ List.replicate (index.toNat + 1 - items.length) .absent, index.toNat)
  else
    let size := (-index).toNat
    (List.replicate (size - items.length) .absent ++ items, items.length - size)

/-- Puts a setting at a path. What is in the way gives way to tables and lists. -/
def putAt (path : List PathStep) (value : Setting) (old : Setting) : Setting :=
  match path with
  | [] => value
  | [.name key] => .table (joinEntries old.entries [(key, value)]) none
  | .name key :: path =>
    let key := lowerText key
    .table (insertAt key (putAt path value (lookup key old.entries)) old.entries) none
  | .place index :: path =>
    let (items, index) := growTo index old.items
    .list (items.set index (putAt path value (items.getD index .absent))) none

/-- Puts a layer of paths and settings over the settings so far. -/
def layer (old : Setting) (entries : List (String × Setting)) : Setting :=
  entries.foldl (fun settings entry => putAt (pathOf entry.1) entry.2 settings) old

/-! ## The environment -/

/-- The name of the environment as an origin. -/
def environmentName : String := "the environment"

/-- What the names of variables with settings start with. -/
def variableStart : String := "pvz_load__"

/-- The value of a variable: a truth value, a whole number, a number or a text. -/
def ofVariable (text : String) : Setting :=
  let origin := some environmentName
  let lowered := lowerText text
  if lowered = "true" then .bool true origin
  else if lowered = "false" then .bool false origin
  else match wholeNumber? text with
    | some n => .integer n origin
    | none => match Binary64.ofText? text with
      | some x => .real x origin
      | none => .text text origin
where
  /-- A whole number of 64 binary digits with an optional sign. -/
  wholeNumber? (text : String) : Option Int :=
    let (minus, digits) := Decimal.splitSign text.toList
    if digits.isEmpty || !digits.all Char.isDigit then none
    else Toml.bounded? (if minus then -(Decimal.valueOf digits : Int) else Decimal.valueOf digits)

/-- A key with points for the doubled underscores that part its names. -/
def pointed : List Char → List Char
  | '_' :: '_' :: rest => '.' :: pointed rest
  | c :: rest => c :: pointed rest
  | [] => []

/-- The path and the setting of a variable; none for one that holds no setting. -/
def ofEnvironment? (assignment : String × String) : Option (String × Setting) :=
  let name := (lowerText assignment.1).toList
  if variableStart.toList.isPrefixOf name then
    let path := String.ofList (pointed (name.drop variableStart.length))
    some (path, ofVariable assignment.2)
  else none

end Setting

end LoadHarness
