import LoadHarness.Threshold.Expression

/-!
# Threshold tables

A table maps series names to expression texts, in order. Reading it gives one threshold for
each expression, in the order of the table, or the first thing that is wrong with it.
-/

namespace LoadHarness

/-- Expression texts by series name. -/
abbrev ThresholdTable := List (String × List String)

/-- An expression that a series has to meet, with the text it was read from. -/
structure Threshold where
  series : String
  source : String
  expression : Expression

/-- What is wrong with a threshold table. -/
inductive ThresholdError where
  | malformed (source : String) (cause : Expression.Cause)
  | unknownSeries (name : String)
  | unsupported (series : String) (aggregation : Aggregation) (kind : SeriesKind)

namespace ThresholdError

def message : ThresholdError → String
  | malformed source cause =>
    "invalid threshold expression '" ++ source ++ "': " ++ cause.message
  | unknownSeries name => "threshold references unknown metric '" ++ name ++ "'"
  | unsupported series aggregation kind =>
    "aggregation '" ++ aggregation.toText ++ "' is not available on " ++ kind.name
      ++ " metric '" ++ series ++ "'"

end ThresholdError

namespace Threshold

/-- Reads one expression text for a series of a kind. -/
def ofSource? (series : String) (kind : SeriesKind) (source : String) :
    Except ThresholdError Threshold :=
  match Expression.ofText? source with
  | .error cause => .error (.malformed source cause)
  | .ok expression =>
    if expression.aggregation.supports kind then .ok ⟨series, trimBlank source, expression⟩
    else .error (.unsupported series expression.aggregation kind)

/-- Reads the expressions of one series. -/
def ofRow? (kindOf : String → Option SeriesKind) (entry : String × List String) :
    Except ThresholdError (List Threshold) :=
  match kindOf entry.1 with
  | none => .error (.unknownSeries entry.1)
  | some kind => entry.2.mapM (ofSource? entry.1 kind)

/-- Reads a table. -/
def ofTable? (kindOf : String → Option SeriesKind) (table : ThresholdTable) :
    Except ThresholdError (List Threshold) :=
  (table.mapM (ofRow? kindOf)).map List.flatten

end Threshold

namespace ThresholdTable

/-- Puts expressions at a series: at its place if the series is there, else at the end. -/
def put (table : ThresholdTable) (series : String) (sources : List String) : ThresholdTable :=
  if table.any (·.1 == series) then
    table.map fun entry => if entry.1 == series then (series, sources) else entry
  else table ++ [(series, sources)]

/-- A table from entries that may name a series twice; the later expressions stay. -/
def ofEntries (entries : List (String × List String)) : ThresholdTable :=
  entries.foldl (fun table entry => put table entry.1 entry.2) []

end ThresholdTable

end LoadHarness
