import LoadHarness.Binary64.Text
import LoadHarness.Metrics.Registry
import LoadHarness.Text.Quoted
import LoadHarness.Word

/-!
# Exposition text

The text form of a registry. Families come in the order of their names, samples in the order
of their label values, labels in the order of their names. A labelled family without samples
is left out. Every value is written as a number without exponent.
-/

namespace LoadHarness

namespace Exposition

/-- A label and its value. -/
abbrev Label := String × String

/-- Backslashes and line ends of a text, and its quotes if asked, behind a backslash. -/
def escapeChar (quotes : Bool) (c : Char) : List Char :=
  if c = '\\' then ['\\', '\\']
  else if c = '\n' then ['\\', 'n']
  else if c = '"' ∧ quotes then ['\\', '"']
  else [c]

/-- The value of a label as it stands between quotes. -/
def escape (text : String) : String := String.ofList (text.toList.flatMap (escapeChar true))

def labelText (label : Label) : String := label.1 ++ "=\"" ++ escape label.2 ++ "\""

/-- One line: name, labels in braces if there are any, value. -/
def line (name : String) (labels : List Label) (value : String) : String :=
  let shown := if labels.isEmpty then ""
    else "\x7b" ++ String.intercalate "," (labels.map labelText) ++ "\x7d"
  name ++ shown ++ " " ++ value ++ "\n"

/-- The two lines before the samples of a family. -/
def header (name help kind : String) : String :=
  "# HELP " ++ name ++ " " ++ help ++ "\n# TYPE " ++ name ++ " " ++ kind ++ "\n"

def numberText (n : Nat) : String := (Binary64.ofNat n).toText

/-- A gauge holds a signed number of 64 binary digits. -/
def gaugeText (n : Nat) : String :=
  let word := n % Word.bound64
  if word < Word.signedBound64 then numberText word
  else (-Binary64.ofNat (Word.bound64 - word)).toText

/-- Whether label values come before others or are the same; the first difference decides. -/
def valuesUpTo : List Label → List Label → Bool
  | [], _ => true
  | _ :: _, [] => false
  | (_, a) :: rest, (_, b) :: others => a < b || (a == b && valuesUpTo rest others)

/-- Orders samples by their label values. -/
def byValues (a b : List Label × α) : Bool := valuesUpTo a.1 b.1

/-- The sample lines of a labelled counter. -/
def counterLines (name : String) (samples : List (List Label × Nat)) : String :=
  String.join ((samples.mergeSort byValues).map fun (labels, n) =>
    line name labels (numberText n))

/-- A labelled counter with its header; nothing when it has no samples. -/
def counterFamily (name help : String) (samples : List (List Label × Nat)) : String :=
  if samples.isEmpty then "" else header name help "counter" ++ counterLines name samples

/-- Bucket lines with running counts. -/
def bucketLines (name : String) (labels : List Label) :
    Nat → List Binary64 → List Nat → List String
  | below, bound :: bounds, n :: counts =>
    line (name ++ "_bucket") (labels ++ [("le", bound.toText)]) (numberText (below + n))
      :: bucketLines name labels (below + n) bounds counts
  | _, _, _ => []

/-- All lines of one latency sample. -/
def latencyLines (name : String) (labels : List Label) (b : LatencyBuckets) : String :=
  String.join (bucketLines name labels 0 latencyBounds b.within)
    ++ line (name ++ "_bucket") (labels ++ [("le", "+Inf")]) (numberText b.count)
    ++ line (name ++ "_sum") labels b.sum.toText
    ++ line (name ++ "_count") labels (numberText b.count)

end Exposition

/-- The samples of counts whose keys bear labels. -/
def Counts.samples {κ : Type} (labels : κ → List Exposition.Label) (counts : Counts κ) :
    Counts (List Exposition.Label) :=
  counts.map fun (key, n) => (labels key, n)

namespace Registry

open Exposition

/-! ## Samples -/

def checkLabels : String × Bool → List Label
  | (name, passed) => [("check", name), ("outcome", if passed then "pass" else "fail")]

def checkSamples (r : Registry) : Counts (List Label) := r.checks.samples checkLabels

def latencySamples (r : Registry) : List (List Label × LatencyBuckets) :=
  r.latencies.map fun (step, b) => ([("step", step)], b)

def requestLabels : String × Nat → List Label
  | (step, status) => [("status", toString status), ("step", step)]

def requestSamples (r : Registry) : Counts (List Label) := r.requests.samples requestLabels

def iterationLabels (completed : Bool) : List Label :=
  [("outcome", if completed then "completed" else "failed")]

def iterationSamples (r : Registry) : Counts (List Label) :=
  r.iterations.samples iterationLabels

/-- The labels of a step outcome; they include the name of the error series. -/
def stepLabels (errorSeries : String) : String × Bool → List Label
  | (step, failed) =>
    [("outcome", if failed then "error" else "ok"), ("series", errorSeries), ("step", step)]

def stepSamples (r : Registry) (errorSeries : String) : Counts (List Label) :=
  r.stepErrors.samples (stepLabels errorSeries)

/-! ## Families -/

def checkFamily (r : Registry) : String :=
  counterFamily "pvz_load_checks_total" "Named response checks by outcome" r.checkSamples

def droppedFamily (r : Registry) : String :=
  header "pvz_load_dropped_iterations_total"
      "Scheduled iteration starts skipped because every worker was busy" "counter"
    ++ line "pvz_load_dropped_iterations_total" [] (numberText r.dropped)

def latencyFamily (r : Registry) : String :=
  if r.latencies.isEmpty then ""
  else
    header "pvz_load_http_req_duration_seconds"
        "Time from sending a scenario request until its response body was read" "histogram"
      ++ String.join ((r.latencySamples.mergeSort byValues).map fun (labels, b) =>
        latencyLines "pvz_load_http_req_duration_seconds" labels b)

def requestFamily (r : Registry) : String :=
  counterFamily "pvz_load_http_reqs_total"
    "HTTP requests issued by the scenario, by step and response status" r.requestSamples

def iterationFamily (r : Registry) : String :=
  counterFamily "pvz_load_iterations_total" "Finished iterations by outcome" r.iterationSamples

def stepFamily (r : Registry) (errorSeries : String) : String :=
  counterFamily "pvz_load_step_errors_total"
    "Error-rate observations fed once per executed scenario step" (r.stepSamples errorSeries)

def gaugeFamily (name help : String) (value : Nat) : String :=
  header name help "gauge" ++ line name [] (gaugeText value)

/-- The text of all families. -/
def exposition (r : Registry) (errorSeries : String) : String :=
  r.checkFamily ++ r.droppedFamily ++ r.latencyFamily ++ r.requestFamily ++ r.iterationFamily
    ++ r.stepFamily errorSeries
    ++ gaugeFamily "pvz_load_vus" "Workers currently executing an iteration" r.active
    ++ gaugeFamily "pvz_load_vus_max" "Workers allocated by the executor" r.allocated

end Registry

end LoadHarness
