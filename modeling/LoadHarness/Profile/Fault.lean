import LoadHarness.Profile.Layer
import LoadHarness.Text.Quoted
import LoadHarness.Url.Reader
import LoadHarness.Word

/-!
# What is wrong with a setting

A setting that cannot be taken as the kind of value that is asked for is reported with its key
and its origin; a section or a table in the wrong shape only with what was found instead.
-/

namespace LoadHarness

namespace Setting

/-- What was found where a single value was asked for. -/
inductive Found where
  | nothing
  | integer (n : Int)
  | natural (n : Nat)
  | text (s : String)
  | list
  | table

def Found.message : Found → String
  | .nothing => "unit value"
  | .integer n => "64-bit integer `" ++ toString n ++ "`"
  | .natural n => "64-bit unsigned integer `" ++ toString n ++ "`"
  | .text s => "string " ++ quoted s
  | .list => "sequence"
  | .table => "map"

/-- A setting as it is named where a section, a table or a list was asked for. -/
def shapeMessage : Setting → String
  | .absent => "unit value"
  | .bool b _ => "boolean `" ++ (if b then "true" else "false") ++ "`"
  | .integer n _ => "integer `" ++ toString n ++ "`"
  | .real x _ => "floating point `" ++ x.format ⟨none, none, true, false⟩ ++ "`"
  | .text s _ => "string " ++ quoted s
  | .list .. => "sequence"
  | .table .. => "map"

inductive Fault where
  /-- A value of another kind; the key grows as the fault is passed upwards. -/
  | wrongType (found : Found) (expected : String) (key : String) (origin : Option String)
  | wrongShape (found : Setting) (expected : String)
  | unknownVariant (kind name : String)
  | noVariant (kind : String)
  | badDuration (s : String)
  | badUrl (fault : Url.Fault) (s : String)
  | badAddress

namespace Fault

def message : Fault → String
  | wrongType found expected key origin =>
    "invalid type: " ++ found.message ++ ", expected " ++ expected
      ++ (if key.isEmpty then "" else " for key `" ++ key ++ "`")
      ++ (match origin with
        | some origin => " in " ++ origin
        | none => "")
  | wrongShape found expected =>
    "invalid type: " ++ found.shapeMessage ++ ", expected " ++ expected
  | unknownVariant kind name => "enum " ++ kind ++ " does not have variant constructor " ++ name
  | noVariant kind =>
    "value of enum " ++ kind
      ++ " should be represented by either string or table with exactly one key"
  | badDuration s => "invalid value: string " ++ quoted s ++ ", expected a duration"
  | badUrl fault s => fault.message ++ ": " ++ quoted s
  | badAddress => SocketAddress.invalidMessage

/-- The fault as seen from the table or list that holds the setting. A point stands between
two names, but not before a place. -/
def under (step : PathStep) : Fault → Fault
  | wrongType found expected key origin =>
    let longer := match step with
      | .name name => if key.isEmpty ∨ key.startsWith "[" then name ++ key else name ++ "." ++ key
      | .place index => "[" ++ toString index ++ "]" ++ key
    wrongType found expected longer origin
  | fault => fault

end Fault

/-- Reads a setting as a value of some type. -/
abbrev Decoder (α : Type) := Setting → Except Fault α

/-! ## Single values -/

/-- A text; numbers and truth values are taken as their texts. -/
def readText : Decoder String
  | .text s _ => .ok s
  | .bool b _ => .ok (if b then "true" else "false")
  | .integer n _ => .ok (toString n)
  | .real x _ => .ok x.toText
  | .absent => .error (.wrongType .nothing "a string" "" none)
  | .list _ origin => .error (.wrongType .list "a string" "" origin)
  | .table _ origin => .error (.wrongType .table "a string" "" origin)

/-- A truth value; of numbers, zero alone is false. -/
def readBool : Decoder Bool
  | .bool b _ => .ok b
  | .integer n _ => .ok (n ≠ 0)
  | .real x _ => .ok (!x.isZero)
  | .text s origin =>
    let word := lowerText s
    if ["1", "true", "on", "yes"].contains word then .ok true
    else if ["0", "false", "off", "no"].contains word then .ok false
    else .error (.wrongType (.text word) "a boolean" "" origin)
  | .absent => .error (.wrongType .nothing "a boolean" "" none)
  | .list _ origin => .error (.wrongType .list "a boolean" "" origin)
  | .table _ origin => .error (.wrongType .table "a boolean" "" origin)

/-- The largest natural number that a setting can hold. -/
def largest : Nat := Word.bound64 - 1

/-- Decimal digits with an optional plus, in range. -/
def naturalOf? (s : String) : Option Nat :=
  let digits := match s.toList with
    | '+' :: rest => rest
    | cs => cs
  if digits.isEmpty ∨ !digits.all Char.isDigit ∨ largest < Decimal.valueOf digits then none
  else some (Decimal.valueOf digits)

/-- A natural number; other numbers are rounded and cut off, truth values count as one and
zero. -/
def readNatural : Decoder Nat
  | .integer n origin =>
    if n < 0 then
      .error (.wrongType (.integer n) "an unsigned 64 bit or less integer" "" origin)
    else .ok n.toNat
  | .bool b _ => .ok (if b then 1 else 0)
  | .real x _ => .ok (x.roundNat largest)
  | .text s origin =>
    let word := lowerText s
    if ["true", "on", "yes"].contains word then .ok 1
    else if ["false", "off", "no"].contains word then .ok 0
    else match naturalOf? s with
      | some n => .ok n
      | none => .error (.wrongType (.text s) "an integer" "" origin)
  | .absent => .error (.wrongType .nothing "an integer" "" none)
  | .list _ origin => .error (.wrongType .list "an integer" "" origin)
  | .table _ origin => .error (.wrongType .table "an integer" "" origin)

/-- A natural number of 32 binary digits. -/
def readShortNatural (s : Setting) : Except Fault Nat := do
  let n ← readNatural s
  if n < Word.bound32 then .ok n
  else .error (.wrongType (.natural n) "an unsigned 32 bit integer" "" none)

/-- One of some named values: its name in any case, or a table with the name as its only key. -/
def readVariant {α : Type} (kind : String) (name : α → String) (all : List α) : Decoder α
  | .text s _ => pick s
  | .table [(key, _)] _ => pick key
  | _ => .error (.noVariant kind)
where
  pick (s : String) : Except Fault α :=
    match all.find? fun a => lowerText (name a) == lowerText s with
    | some a => .ok a
    | none => .error (.unknownVariant kind s)

/-- A setting that may be absent. -/
def readOptional {α : Type} (read : Decoder α) : Decoder (Option α)
  | .absent => .ok none
  | s => (read s).map some

/-! ## Sections, tables and lists -/

/-- Items in order. -/
def readItems {α : Type} (read : Decoder α) (index : Nat) :
    List Setting → Except Fault (List α)
  | [] => .ok []
  | item :: rest => do
    let a ← (read item).mapError (·.under (.place index))
    let others ← readItems read (index + 1) rest
    return a :: others

def readList {α : Type} (read : Decoder α) : Decoder (List α)
  | .list items _ => readItems read 0 items
  | s => .error (.wrongShape s "a sequence")

/-- The entries of a table in order. -/
def readTable {α : Type} (read : Decoder α) : Decoder (List (String × α))
  | .table entries _ => entries.mapM fun (key, s) =>
      ((read s).mapError (·.under (.name key))).map fun a => (key, a)
  | s => .error (.wrongShape s "a map")

/-- The settings of a section by their keys, with the step that leads to each. -/
abbrev Section := List (String × PathStep × Setting)

/-- The settings of a section. It is a table, or a list with the settings in a fixed order. -/
def readSection (name : String) (keys : List String) : Decoder Section
  | .table entries _ => .ok (entries.map fun (key, s) => (key, .name key, s))
  | .list items _ => .ok ((keys.zip items).zipIdx.map fun ((key, s), i) => (key, .place i, s))
  | s => .error (.wrongShape s ("struct " ++ name))

/-- Reads a setting of a section; one that is not there has a default. -/
def Section.read {α : Type} (settings : Section) (key : String) (read : Decoder α) (other : α) :
    Except Fault α :=
  match settings.find? (·.1 == key) with
  | some (_, step, s) => (read s).mapError (·.under step)
  | none => .ok other

end Setting

end LoadHarness
