import LoadHarness.Binary64.Text

/-!
# TOML values

A document is a table. A table remembers how it was opened, since that decides what may still
be added to it: a table in braces is closed, one under a header is opened once, one that a
longer header implies may still get a header, and one that dotted keys open may get more of
them.
-/

namespace LoadHarness

/-- How a table was opened. -/
inductive TableForm where
  | braces
  | header
  | implied
  | dotted
  deriving DecidableEq

/-- A value; dates and times are kept in their usual text. -/
inductive TomlValue where
  | text (s : String)
  | integer (n : Int)
  | real (x : Binary64)
  | bool (b : Bool)
  | moment (s : String)
  | array (items : List TomlValue)
  | table (form : TableForm) (entries : List (String × TomlValue))
  /-- Tables that stand under a repeated header in double brackets. -/
  | tables (items : List (List (String × TomlValue)))

/-- The keys of a table with their values, in the order in which they were written. -/
abbrev TomlEntries := List (String × TomlValue)

namespace TomlEntries

def find? (entries : TomlEntries) (key : String) : Option TomlValue :=
  (List.find? (·.1 == key) entries).map Prod.snd

/-- Gives a key that is there another value. -/
def replace (entries : TomlEntries) (key : String) (value : TomlValue) : TomlEntries :=
  entries.map fun entry => if entry.1 == key then (key, value) else entry

/-- Adds a new key; none if it is there. -/
def add? (entries : TomlEntries) (key : String) (value : TomlValue) : Option TomlEntries :=
  if (find? entries key).isSome then none else some (entries ++ [(key, value)])

/-- Replaces the last of the tables under a repeated header. -/
def inLast? (change : TomlEntries → Option TomlEntries) :
    List TomlEntries → Option (List TomlEntries)
  | [] => none
  | [last] => (change last).map fun last => [last]
  | first :: rest => (inLast? change rest).map (first :: ·)

/-- Changes the table at a path of headers. Tables on the way are implied, and of tables under
a repeated header the last is meant. -/
def within? (change : TomlEntries → Option TomlEntries) (path : List String)
    (entries : TomlEntries) : Option TomlEntries :=
  match path with
  | [] => change entries
  | key :: path =>
    match find? entries key with
    | none => (within? change path []).map fun inner =>
        entries ++ [(key, .table .implied inner)]
    | some (.table .braces _) => none
    | some (.table form inner) => (within? change path inner).map fun inner =>
        replace entries key (.table form inner)
    | some (.tables items) => (inLast? (within? change path) items).map fun items =>
        replace entries key (.tables items)
    | some _ => none

/-- Opens a table under a header, which must not have been opened before. It is then the last of
its tables, also if a longer header implied it. -/
def openTable? (key : String) (entries : TomlEntries) : Option TomlEntries :=
  match find? entries key with
  | none => some (entries ++ [(key, .table .header [])])
  | some (.table .implied inner) =>
    some ((entries.filter (·.1 != key)) ++ [(key, .table .header inner)])
  | some _ => none

/-- Opens one more table under a repeated header. -/
def openItem? (key : String) (entries : TomlEntries) : Option TomlEntries :=
  match find? entries key with
  | none => some (entries ++ [(key, .tables [[]])])
  | some (.tables items) => some (replace entries key (.tables (items ++ [[]])))
  | some _ => none

/-- Adds a value at a dotted key. All but the last part of the key must name tables that dotted
keys opened; further up, an implied table will do. -/
def addDotted? (value : TomlValue) (path : List String) (key : String)
    (entries : TomlEntries) : Option TomlEntries :=
  match path with
  | [] => add? entries key value
  | first :: path =>
    match find? entries first with
    | none => (addDotted? value path key []).map fun inner =>
        entries ++ [(first, .table .dotted inner)]
    | some (.table form inner) =>
      if form = .dotted ∨ (form = .implied ∧ path ≠ []) then
        (addDotted? value path key inner).map fun inner =>
          replace entries first (.table form inner)
      else none
    | some (.tables items) =>
      if path = [] then none
      else (inLast? (addDotted? value path key) items).map fun items =>
        replace entries first (.tables items)
    | some _ => none

end TomlEntries

end LoadHarness
