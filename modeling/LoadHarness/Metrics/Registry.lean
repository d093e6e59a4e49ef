import LoadHarness.Metrics.Recording

/-!
# The registry

Counters, gauges and latency buckets by label values, as an exposition shows them. They are
kept apart from the aggregated series: the same recordings are counted under other keys.
-/

namespace LoadHarness

/-- Counts by key, in the order of first use. -/
abbrev Counts (κ : Type) := List (κ × Nat)

namespace Counts

variable {κ : Type} [DecidableEq κ]

/-- Counts a key once more. -/
def bump (counts : Counts κ) (key : κ) : Counts κ :=
  match counts with
  | [] => [(key, 1)]
  | (k, n) :: rest => if k = key then (k, n + 1) :: rest else (k, n) :: bump rest key

/-- The count of a key; an absent one counts zero. -/
def get (counts : Counts κ) (key : κ) : Nat :=
  match counts with
  | [] => 0
  | (k, n) :: rest => if k = key then n else get rest key

/-- The sum over all keys. -/
def total (counts : Counts κ) : Nat := counts.foldr (fun c n => c.2 + n) 0

end Counts

/-- The upper bounds of the latency buckets in seconds: one millisecond, fifteen times
doubled. -/
def latencyBounds : List Binary64 :=
  (List.range 16).map fun i => .ofNat (1 <<< i) / .ofNat 1000

/-- Latencies of one step: how many lie within each bound and within none of the smaller
ones, their number and the sum of their seconds. -/
structure LatencyBuckets where
  within : List Nat
  count : Nat
  sum : Binary64

namespace LatencyBuckets

def empty : LatencyBuckets := ⟨latencyBounds.map fun _ => 0, 0, .zero⟩

/-- Counts a value at the first bound that it does not exceed. -/
def place (value : Binary64) : List Binary64 → List Nat → List Nat
  | bound :: bounds, n :: counts =>
    if value.le bound then (n + 1) :: counts else n :: place value bounds counts
  | _, counts => counts

def observe (b : LatencyBuckets) (latency : Duration) : LatencyBuckets :=
  let seconds := latency.toSeconds
  { within := place seconds latencyBounds b.within
    count := b.count + 1
    sum := b.sum + seconds }

end LatencyBuckets

/-- Counters, gauges and buckets of a run. -/
structure Registry where
  /-- Exchanges by step and status. -/
  requests : Counts (String × Nat)
  latencies : List (String × LatencyBuckets)
  /-- Checks by name and outcome. -/
  checks : Counts (String × Bool)
  /-- Steps by name and whether they failed. -/
  stepErrors : Counts (String × Bool)
  /-- Iterations by whether they completed. -/
  iterations : Counts Bool
  dropped : Nat
  active : Nat
  allocated : Nat

namespace Registry

def empty : Registry := ⟨[], [], [], [], [], 0, 0, 0⟩

/-- Observes a latency of a step. -/
def observeLatency (latencies : List (String × LatencyBuckets)) (step : String)
    (latency : Duration) : List (String × LatencyBuckets) :=
  match latencies with
  | [] => [(step, LatencyBuckets.empty.observe latency)]
  | (key, buckets) :: rest =>
    if key = step then (key, buckets.observe latency) :: rest
    else (key, buckets) :: observeLatency rest step latency

/-- Takes one recording into the collectors that it concerns. -/
def record (r : Registry) : Recording → Registry
  | .request step status _ latency =>
    { r with
      requests := r.requests.bump (step, status)
      latencies := observeLatency r.latencies step latency }
  | .check name passed => { r with checks := r.checks.bump (name, passed) }
  | .step step failed => { r with stepErrors := r.stepErrors.bump (step, failed) }
  | .iteration completed => { r with iterations := r.iterations.bump completed }
  | .dropped count => { r with dropped := (r.dropped + count) % counterModulus }
  | .active workers => { r with active := workers }
  | .allocated workers => { r with allocated := workers }

def ofRecordings (recordings : List Recording) : Registry := recordings.foldl record empty

end Registry

end LoadHarness
