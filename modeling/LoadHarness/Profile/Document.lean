import LoadHarness.Digest
import LoadHarness.Duration.Text
import LoadHarness.Profile.Basic
import LoadHarness.Toml.Writer
import LoadHarness.Word

/-!
# Profiles as documents

A profile is written as a TOML document with a section for each group of settings. Settings
without a value are left out. Whole numbers beyond 63 binary digits cannot be written.
-/

namespace LoadHarness

namespace Profile

def natural (n : Nat) : TomlValue := .integer n

def durationValue (d : Duration) : TomlValue := .text d.toText

/-- A setting that may be absent. -/
def optionalText (key : String) (value : Option String) : TomlEntries :=
  match value with
  | some s => [(key, .text s)]
  | none => []

/-- The sections of a profile in order. -/
def sections (p : Profile) : List (String × TomlEntries) :=
  [("target",
      [("base_url", .text p.target.baseUrl.toText),
        ("request_timeout", durationValue p.target.requestTimeout)]),
    ("scenario",
      [("role", .text p.scenario.role.name),
        ("city", .text p.scenario.city),
        ("page", natural p.scenario.page),
        ("limit", natural p.scenario.limit),
        ("optimized_listing", .bool p.scenario.optimizedListing),
        ("error_metric", .text p.scenario.errorSeries)]),
    ("executor",
      [("kind", .text p.executor.kind.name),
        ("rate", natural p.executor.rate),
        ("time_unit", durationValue p.executor.timeUnit),
        ("duration", durationValue p.executor.duration),
        ("pre_allocated_workers", natural p.executor.preAllocatedWorkers),
        ("max_workers", natural p.executor.maxWorkers),
        ("graceful_stop", durationValue p.executor.gracefulStop),
        ("iterations", natural p.executor.iterations),
        ("workers", natural p.executor.workers)]),
    ("thresholds", p.thresholds.map fun (series, sources) =>
      (series, .array (sources.map .text))),
    ("logging",
      optionalText "directory" p.logging.directory
        ++ [("format", .text p.logging.format.name)]
        ++ optionalText "file_prefix" p.logging.filePrefix),
    ("metrics",
      [("enabled", .bool p.exporter.enabled),
        ("listen", .text p.exporter.listen.toText)]),
    ("report", optionalText "summary_path" p.summaryPath)]

/-- Whether a value can be written. -/
def isWritable : TomlValue → Bool
  | .integer n => n < Word.signedBound64
  | _ => true

/-- Why a profile cannot be written. -/
inductive DocumentError where
  | numberTooLarge

namespace DocumentError

def message : DocumentError → String
  | numberTooLarge => "failed to serialise configuration to TOML"

def cause : DocumentError → String
  | numberTooLarge => "out-of-range value for u64 type"

end DocumentError

/-- The text of a profile. -/
def toDocument (p : Profile) : Except DocumentError String :=
  if p.sections.all fun s => s.2.all fun e => isWritable e.2 then
    .ok (Toml.sectionsText p.sections)
  else .error .numberTooLarge

end Profile

end LoadHarness
