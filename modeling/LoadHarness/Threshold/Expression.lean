import LoadHarness.Threshold.Aggregation

/-!
# Threshold expressions

An expression compares an aggregation with a finite bound, as in `p(95)<100`. Blanks have
no meaning anywhere in it.
-/

namespace LoadHarness

inductive Comparison where
  | less
  | atMost
  | greater
  | atLeast
  | equal
  | unequal
  deriving DecidableEq

namespace Comparison

/-- Whether an observed number stands in the relation to a bound. -/
def holds : Comparison → Binary64 → Binary64 → Bool
  | less, observed, bound => observed.lt bound
  | atMost, observed, bound => observed.le bound
  | greater, observed, bound => bound.lt observed
  | atLeast, observed, bound => bound.le observed
  | equal, observed, bound => observed.eq bound
  | unequal, observed, bound => !observed.eq bound

def symbol : Comparison → String
  | less => "<"
  | atMost => "<="
  | greater => ">"
  | atLeast => ">="
  | equal => "=="
  | unequal => "!="

/-- All comparisons, in the order in which answers list them. -/
def all : List Comparison := [less, atMost, greater, atLeast, equal, unequal]

/-- The comparison at the start of a text and what follows it; two signs before one. -/
def split? : List Char → Option (Comparison × List Char)
  | '<' :: '=' :: rest => some (atMost, rest)
  | '>' :: '=' :: rest => some (atLeast, rest)
  | '=' :: '=' :: rest => some (equal, rest)
  | '!' :: '=' :: rest => some (unequal, rest)
  | '<' :: rest => some (less, rest)
  | '>' :: rest => some (greater, rest)
  | _ => none

end Comparison

/-- An aggregation, a comparison and a bound. -/
structure Expression where
  aggregation : Aggregation
  comparison : Comparison
  bound : Binary64

namespace Expression

/-- Why a text is no expression. -/
inductive Cause where
  | missingOperator
  | unknownOperator (rest : String)
  | aggregation (cause : Aggregation.Cause)
  | bound (text : String)

namespace Cause

def message : Cause → String
  | missingOperator => "missing comparison operator"
  | unknownOperator rest => "unknown operator in '" ++ rest ++ "'"
  | aggregation cause => cause.message
  | bound text => "invalid bound '" ++ text ++ "'"

end Cause

def toText (e : Expression) : String :=
  e.aggregation.toText ++ e.comparison.symbol ++ e.bound.toText

instance : ToString Expression := ⟨toText⟩

/-- Characters that start a comparison. -/
def startsComparison (c : Char) : Bool := c == '<' || c == '>' || c == '=' || c == '!'

/-- The number a bound stands for; it must be finite. -/
def bound? (cs : List Char) : Option Binary64 := (Binary64.ofChars? cs).filter (·.isFinite)

/-- Reads an expression without blanks. -/
def ofCompact? (cs : List Char) : Except Cause Expression :=
  let left := cs.takeWhile fun c => !startsComparison c
  let rest := cs.dropWhile fun c => !startsComparison c
  if rest.isEmpty then .error .missingOperator
  else match Comparison.split? rest with
    | none => .error (.unknownOperator (String.ofList rest))
    | some (comparison, right) =>
      match Aggregation.ofChars? left with
      | .error cause => .error (.aggregation cause)
      | .ok aggregation =>
        match bound? right with
        | none => .error (.bound (String.ofList right))
        | some bound => .ok ⟨aggregation, comparison, bound⟩

def ofText? (text : String) : Except Cause Expression :=
  ofCompact? (text.toList.filter fun c => !isBlank c)

end Expression

end LoadHarness
