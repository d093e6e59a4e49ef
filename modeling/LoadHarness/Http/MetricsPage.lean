import LoadHarness.Metrics.Basic
import LoadHarness.Net.Listener

/-!
# The page of metrics

While a run is active, its metrics can be fetched at one path. Every other path leads nowhere,
and the page can only be read.
-/

namespace LoadHarness

/-- A page as it is served. -/
structure MetricsPage where
  status : Nat
  contentType : Option String
  body : String

namespace MetricsPage

def path : String := "/metrics"

/-- The type of the text exposition. -/
def expositionType : String := "text/plain; version=0.0.4"

/-- What is served to a request; a query does not matter. -/
def serve (m : RunMetrics) (method target : String) : MetricsPage :=
  if String.ofList (target.toList.takeWhile (· ≠ '?')) ≠ path then ⟨404, none, ""⟩
  else if method = "GET" then ⟨200, some expositionType, m.exposition⟩
  else if method = "HEAD" then ⟨200, some expositionType, ""⟩
  else ⟨405, none, ""⟩

/-- The status with its usual words. -/
def statusText (p : MetricsPage) : String :=
  if p.status = 200 then "200 OK"
  else if p.status = 404 then "404 Not Found"
  else "405 Method Not Allowed"

end MetricsPage

end LoadHarness
