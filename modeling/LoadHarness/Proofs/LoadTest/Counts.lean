import LoadHarness.Proofs.LoadTest.Ledger
import LoadHarness.Proofs.Threshold.Defaults

/-!
# Two counts of one run

A report holds two counts of the same iterations, that of the executor and that of the
metrics. They agree on the iterations that completed and, up to the width of a counter, on the
starts that were dropped. They agree on the iterations that failed if every iteration had a
turn before it was ended, and only then: an iteration that is ended from outside before its
first turn is missing from the metrics.
-/

namespace LoadHarness

namespace LoadTest

variable {σ : Type}

/-- In the report of a configured run the metrics hold what the executor counted, except that
they know nothing of the iterations that were ended before their first turn. -/
theorem report_counts (p : Profile) (t : LoadTest) (made : ofProfile p = .ok t)
    (target : Target σ) (state : σ) (shutdown : Shutdown) (h : History)
    (r : ExecutorRun (RunState σ) Pending) (run : t.RunsTo target state shutdown h r)
    (document : String) (period : Period) :
    let report := t.reportOf document period r
    report.metrics.completed = report.executor.completed ∧
      report.metrics.dropped = report.executor.dropped % counterModulus ∧
      report.metrics.failed + (History.unbegun h).length = report.executor.failed ∧
      (report.metrics.failed = report.executor.failed ↔ History.unbegun h = []) := by
  obtain ⟨-, -, -, watched, -⟩ := ofProfile_eq made
  have recorded := run.recorded
  have counted := run.schedule.counted run.finished
  have completed : r.crew.world.metrics.series.completed = r.crew.tally.completed := by
    rw [recorded.completed, counted]
  have dropped : r.crew.world.metrics.series.dropped = r.crew.dropped % counterModulus := by
    rw [recorded.dropped watched, run.schedule.accounted.dropped]
  have failed : r.crew.world.metrics.series.failed + (History.unbegun h).length =
      r.crew.tally.failed := by
    rw [recorded.failed, counted]
  refine ⟨completed, dropped, failed, ?_⟩
  constructor
  · intro same
    have same : r.crew.world.metrics.series.failed = r.crew.tally.failed := same
    exact List.eq_nil_of_length_eq_zero (by omega)
  · intro none
    rw [none] at failed
    exact failed

/-! ## An iteration that is missing from the metrics -/

/-- A target to which no connection can be made. -/
def refusing : Target Unit := fun state _ =>
  (state, .answer (.failure (.other "connection refused")) .zero .zero)

/-- More iterations than take their turns in a row, and no time for those that are running when
shutdown is requested. -/
def crowded : Profile :=
  { Profile.defaults with
    executor :=
      { ExecutorSettings.defaults with
        kind := .fixedIterations
        gracefulStop := .zero
        iterations := 61
        workers := 61 } }

theorem ofProfile_crowded : ofProfile crowded = .ok (ofDefaults crowded) :=
  ofProfile_of_defaults rfl rfl

/-- The run in which shutdown is requested in the first turn. -/
def crowdedRun : ExecutorRun (RunState Unit) Pending :=
  (ofDefaults crowded).execute refusing () (.after .zero)

/-- The last of its iterations is ended before its first turn. -/
theorem crowdedRun_counts :
    crowdedRun.isFinished = true ∧ crowdedRun.report.failed = 61 ∧
      crowdedRun.crew.world.metrics.snapshot.failed = 60 := by
  decide +kernel

theorem crowded_runsTo : ∃ h, (ofDefaults crowded).RunsTo refusing () (.after .zero) h crowdedRun :=
  execute_runsTo crowdedRun_counts.1

theorem report_counts_crowded :
    ∃ h, (ofDefaults crowded).RunsTo refusing () (.after .zero) h crowdedRun ∧
      crowdedRun.report.failed = 61 ∧ crowdedRun.crew.world.metrics.snapshot.failed = 60 ∧
      (History.unbegun h).length = 1 := by
  obtain ⟨h, run⟩ := crowded_runsTo
  obtain ⟨-, counted, told⟩ := crowdedRun_counts
  obtain ⟨-, -, failed, -⟩ := report_counts crowded (ofDefaults crowded) ofProfile_crowded refusing
    () (.after .zero) h crowdedRun run "" ⟨default, default⟩
  have failed : crowdedRun.crew.world.metrics.snapshot.failed + (History.unbegun h).length =
      crowdedRun.report.failed := failed
  rw [told, counted] at failed
  exact ⟨h, run, counted, told, by omega⟩

/-- The two counts differ when an iteration is ended before its first turn. -/
theorem failed_counts_differ :
    ¬ ∀ (t : LoadTest) (h : History) (r : ExecutorRun (RunState Unit) Pending)
      (document : String) (period : Period), ofProfile crowded = .ok t →
      t.RunsTo refusing () (.after .zero) h r →
      (t.reportOf document period r).metrics.failed =
        (t.reportOf document period r).executor.failed := by
  intro same
  obtain ⟨h, run⟩ := crowded_runsTo
  have same : crowdedRun.crew.world.metrics.snapshot.failed = crowdedRun.report.failed :=
    same _ h crowdedRun "" ⟨default, default⟩ ofProfile_crowded run
  rw [crowdedRun_counts.2.1, crowdedRun_counts.2.2] at same
  cases same

end LoadTest

end LoadHarness
