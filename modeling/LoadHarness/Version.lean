/-!
# Version information

What a build of the program says about itself.
-/

namespace LoadHarness

structure VersionInfo where
  semver : String
  buildTimestamp : String
  target : String
  optLevel : String

namespace VersionInfo

/-- The one-line banner. -/
def banner (v : VersionInfo) : String := "pvz-load v" ++ v.semver

/-- The banner with what is known of the build. -/
def extended (v : VersionInfo) : String :=
  v.banner ++ "\nBuilt: " ++ v.buildTimestamp ++ "\nTarget: " ++ v.target ++ "\nOpt level: "
    ++ v.optLevel

/-- This version of the program. -/
def current : VersionInfo := ⟨"0.1.0", "UNKNOWN", "UNKNOWN", "UNKNOWN"⟩

end VersionInfo

end LoadHarness
