import LoadHarness.Binary64.Basic

/-!
# JSON values

Numbers are whole numbers of 64 binary digits or binary64 numbers. The members of an object
keep the order in which the list gives them.
-/

namespace LoadHarness

inductive JsonNumber where
  | natural (n : Nat)
  | negative (magnitude : Nat)
  | real (x : Binary64)

inductive JsonValue where
  | null
  | bool (b : Bool)
  | number (n : JsonNumber)
  | string (s : String)
  | array (items : List JsonValue)
  | object (members : List (String × JsonValue))

namespace JsonNumber

/-- Whether the number is zero, of whatever form and sign. -/
def isZero : JsonNumber → Bool
  | natural n => n == 0
  | negative n => n == 0
  | real x => x.isZero

end JsonNumber

namespace JsonValue

/-- The value of a member; none unless the value is an object that has it. -/
def member? (v : JsonValue) (name : String) : Option JsonValue :=
  match v with
  | object members => (members.find? (·.1 == name)).map Prod.snd
  | _ => none

/-- Null, false, zero and the empty text say no; everything else says yes. -/
def isTruthy : JsonValue → Bool
  | null => false
  | bool b => b
  | number n => !n.isZero
  | string s => s != ""
  | array _ => true
  | object _ => true

/-- The items of an array. -/
def items? : JsonValue → Option (List JsonValue)
  | array items => some items
  | _ => none

/-- Puts a member at its place among members in ascending order of their names; a member of
the same name gives way. -/
def insertMember (name : String) (value : JsonValue) :
    List (String × JsonValue) → List (String × JsonValue)
  | [] => [(name, value)]
  | (key, v) :: rest =>
    if name < key then (name, value) :: (key, v) :: rest
    else if name = key then (name, value) :: rest
    else (key, v) :: insertMember name value rest

end JsonValue

end LoadHarness
