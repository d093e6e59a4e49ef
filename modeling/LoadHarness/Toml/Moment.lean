import LoadHarness.Toml.Scalar

/-!
# Tables that stand for dates and times

A table whose first key is a reserved one is no table but a moment: the text at that key has to
be a date, a time or both, and the other keys do not count.
-/

namespace LoadHarness

namespace Toml

/-- The reserved key. -/
def momentKey : String := "$__toml_private_datetime"

/-- The moment that a value at the reserved key names. -/
def namedMoment? : TomlValue → Option TomlValue
  | .text s => (moment? .quoted s.toList).map fun cs => .moment (String.ofList cs)
  | _ => none

mutual

/-- The value with moments in place of the tables that stand for them; none if one of these
names no moment. -/
def resolve? : TomlValue → Option TomlValue
  | .array items => (resolveItems? items).map .array
  | .table form entries =>
    match entries with
    | [] => some (.table form [])
    | (key, value) :: rest =>
      if key = momentKey then namedMoment? value
      else (resolveEntries? ((key, value) :: rest)).map (.table form)
  | .tables items => (resolveTables? items).map .array
  | value => some value

def resolveItems? : List TomlValue → Option (List TomlValue)
  | [] => some []
  | value :: rest => do
    let value ← resolve? value
    return value :: (← resolveItems? rest)

def resolveEntries? : List (String × TomlValue) → Option (List (String × TomlValue))
  | [] => some []
  | (key, value) :: rest => do
    let value ← resolve? value
    return (key, value) :: (← resolveEntries? rest)

def resolveTables? : List (List (String × TomlValue)) → Option (List TomlValue)
  | [] => some []
  | entries :: rest => do
    let value ← match entries with
      | [] => some (.table .header [])
      | (key, value) :: rest =>
        if key = momentKey then namedMoment? value
        else (resolveEntries? ((key, value) :: rest)).map (.table .header)
    return value :: (← resolveTables? rest)

end

/-- The entries of a document, which stands for no moment itself. -/
def resolveDocument? (entries : TomlEntries) : Option TomlEntries :=
  if (entries.head?.map Prod.fst) = some momentKey then none else resolveEntries? entries

end Toml

end LoadHarness
