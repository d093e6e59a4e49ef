import LoadHarness.LoadTest.Basic
import LoadHarness.Proofs.Profile.Section

/-!
# The phases of a load test

A load test is prepared, then its executor runs, and at the end its report is written. Only the
first and the last phase can fail: before the run for the settings, for the place of the metrics or
for an executor that cannot start, and after it for the file of the report.
-/

namespace LoadHarness

namespace LoadTest

variable {σ : Type} {t : LoadTest} {document : String} {period : Period} {files : FileTree}
  {executed : ExecutorRun (RunState σ) Pending} {outcome : Outcome σ}

/-- A test is prepared if its settings can be written, the place for its metrics can be taken and
its executor can start. -/
theorem prepare_eq_ok :
    (t.prepare : Except (RunError σ) String) = .ok document ↔
      t.profile.toDocument = .ok document ∧ t.refusal? = none ∧
        t.executor.breakdown? = none := by
  rw [prepare, bind_eq_ok]
  simp only [mapError_eq_ok]
  constructor
  · rintro ⟨written, written_eq, checked⟩
    split at checked
    · cases checked
    · cases checked
    · next free able =>
      obtain rfl := Except.ok.inj checked
      exact ⟨written_eq, free, able⟩
  · rintro ⟨written_eq, free, able⟩
    refine ⟨document, written_eq, ?_⟩
    rw [free, able]

/-- What is refused has not run. -/
theorem state_of_prepare {e : RunError σ} (refused : t.prepare = .error e) : e.state? = none := by
  rw [prepare, bind_eq_error, mapError_eq_error] at refused
  obtain ⟨cause, -, rfl⟩ | ⟨document, -, refused⟩ := refused
  · rfl
  · split at refused
    · obtain rfl := Except.error.inj refused
      rfl
    · obtain rfl := Except.error.inj refused
      rfl
    · cases refused

/-- What is concluded has the report of the run, and its state. -/
theorem conclude_eq_ok :
    t.conclude document period files executed = .ok outcome ↔
      t.writeReport files (t.reportOf document period executed) = .ok outcome.files ∧
        outcome.report = t.reportOf document period executed ∧
        outcome.state = executed.crew.world := by
  rw [conclude, bind_eq_ok]
  simp only [mapError_eq_ok]
  constructor
  · rintro ⟨kept, written, outcome_eq⟩
    obtain rfl := Except.ok.inj outcome_eq
    exact ⟨written, rfl, rfl⟩
  · rintro ⟨written, report_eq, state_eq⟩
    refine ⟨outcome.files, written, ?_⟩
    rw [← report_eq, ← state_eq]
    rfl

/-- A run whose report cannot be written is not concluded. -/
theorem conclude_eq_error {e : RunReport.WriteError}
    (refused : t.writeReport files (t.reportOf document period executed) = .error e) :
    t.conclude document period files executed = .error (.report executed.crew.world e) := by
  rw [conclude, refused]
  rfl

end LoadTest

end LoadHarness
