import LoadHarness.CommandLine.Session
import LoadHarness.Proofs.LoadTest.Counts
import LoadHarness.Proofs.LoadTest.Phases

/-!
# How sessions end

The exit status of a session tells whether there was a run and whether all of its thresholds hold.
One end is misleading: when a run is over but its report cannot be written to its file, nothing is
printed and the status is that of a session which never came to a run.
-/

namespace LoadHarness

namespace CommandLine

variable {σ : Type} {target : Target σ} {state : σ} {period : LoadTest.Period} {day : String}
  {files : FileTree} {p : Profile}

/-- How a session of a profile can go, with the run of the executor if there is one and the files
that this one leaves. The target answers as it likes, turns are taken in any order, shutdown may be
requested at any time, and others may change the files meanwhile. -/
inductive Runs (target : Target σ) (state : σ) (period : LoadTest.Period) (day : String)
    (files : FileTree) (p : Profile) :
    Option (ExecutorRun (RunState σ) Pending × FileTree) → Session σ → Prop where
  | unlogged {e} (refused : openLog p.logging day files = .error e) :
      Runs target state period day files p none ⟨.failed e.message, files, none⟩
  | unmade {opened e} (logged : openLog p.logging day files = .ok opened)
      (refused : LoadTest.ofProfile p = .error e) :
      Runs target state period day files p none ⟨.failed e.message, opened, none⟩
  | unprepared {opened t} {e : LoadTest.RunError σ}
      (logged : openLog p.logging day files = .ok opened) (made : LoadTest.ofProfile p = .ok t)
      (refused : t.prepare = .error e) :
      Runs target state period day files p none (.ofRun opened (.error e))
  | finished {opened t document shutdown h r}
      (logged : openLog p.logging day files = .ok opened) (made : LoadTest.ofProfile p = .ok t)
      (prepared : (t.prepare : Except (LoadTest.RunError σ) String) = .ok document)
      (run : t.RunsTo target state shutdown h r) (tree : FileTree) :
      Runs target state period day files p (some (r, tree))
        (.ofRun tree (t.conclude document period tree r))

/-- A session in which the executor comes to its end is one of those. -/
theorem runProfile_runs
    (ends : ∀ t, LoadTest.ofProfile p = .ok t →
      (t.execute target state .never).isFinished = true) :
    ∃ ran, Runs target state period day files p ran
      (runProfile target state period day files p) := by
  rw [runProfile]
  cases logged : openLog p.logging day files with
  | error e => exact ⟨none, .unlogged logged⟩
  | ok opened =>
      cases made : LoadTest.ofProfile p with
      | error e => exact ⟨none, .unmade logged made⟩
      | ok t =>
          obtain ⟨h, run⟩ := LoadTest.execute_runsTo (ends t made)
          simp only [LoadTest.run]
          cases prepared : (t.prepare : Except (LoadTest.RunError σ) String) with
          | error e => exact ⟨none, .unprepared logged made prepared⟩
          | ok document => exact ⟨_, .finished logged made prepared run opened⟩

/-! ## Exit statuses -/

namespace Session

/-- A session that ends without a run. -/
structure Refused (s : Session σ) : Prop where
  state : s.state = none
  output : s.farewell.output = ""
  status : s.farewell.status = 1 ∨ s.farewell.status = Farewell.brokenStatus

/-- A session that shows a report, and whether all of its thresholds hold. -/
structure Reported (s : Session σ) (report : RunReport) : Prop where
  output : s.farewell.output = report.toText ++ "\n"
  status : s.farewell.status =
    if report.verdicts.all (·.passed) then 0 else Farewell.crossedStatus

/-- A session that ends after its run without showing a report. -/
structure Silenced (s : Session σ) : Prop where
  output : s.farewell.output = ""
  status : s.farewell.status = 1

end Session

/-- How a session ends. If there was no run, nothing is printed and the status is one, or that of a
program that breaks down. If there was one, its report is printed and the status tells whether all
thresholds hold, provided that the report can be written to its file. If it cannot, nothing is
printed and the status is one again. -/
theorem exit_of_runs {s : Session σ} :
    (Runs target state period day files p none s → s.Refused) ∧
      ∀ r tree, Runs target state period day files p (some (r, tree)) s →
        ∃ t document, LoadTest.ofProfile p = .ok t ∧ p.toDocument = .ok document ∧
          s.state = some r.crew.world ∧
          ((∃ written, t.writeReport tree (t.reportOf document period r) = .ok written ∧
              s.files = written ∧ s.Reported (t.reportOf document period r)) ∨
            ∃ e, t.writeReport tree (t.reportOf document period r) = .error e ∧
              s.files = tree ∧ s.Silenced) := by
  constructor
  · intro session
    cases session with
    | unlogged refused => exact ⟨rfl, rfl, .inl rfl⟩
    | unmade logged refused => exact ⟨rfl, rfl, .inl rfl⟩
    | @unprepared opened t e logged made refused =>
        have none_left := LoadTest.state_of_prepare refused
        cases e with
        | document error => exact ⟨rfl, rfl, .inl rfl⟩
        | exporter address refusal => exact ⟨rfl, rfl, .inl rfl⟩
        | executor breakdown => exact ⟨rfl, rfl, .inr rfl⟩
        | report state error => cases none_left
  · intro r tree session
    cases session with
    | @finished opened t document shutdown h _ logged made prepared run =>
        obtain ⟨-, profile_eq, -⟩ := LoadTest.ofProfile_eq made
        obtain ⟨document_eq, -⟩ := LoadTest.prepare_eq_ok.mp prepared
        rw [profile_eq] at document_eq
        cases kept : t.writeReport tree (t.reportOf document period r) with
        | ok written =>
            have concluded : t.conclude document period tree r =
                .ok ⟨t.reportOf document period r, r.crew.world, written⟩ :=
              LoadTest.conclude_eq_ok.mpr ⟨kept, rfl, rfl⟩
            rw [concluded]
            exact ⟨t, document, made, document_eq, rfl, .inl ⟨written, kept, rfl, rfl, rfl⟩⟩
        | error e =>
            rw [LoadTest.conclude_eq_error kept]
            exact ⟨t, document, made, document_eq, rfl, .inr ⟨e, kept, rfl, rfl, rfl⟩⟩

/-- A profile that leaves no time for a request. -/
def impatient : Profile :=
  { Profile.defaults with target := { TargetSettings.defaults with requestTimeout := .zero } }

/-- A profile that is refused, and one that is run. -/
theorem exit_of_runs_crowded :
    (∃ s, Runs LoadTest.refusing () ⟨default, default⟩ "" .empty impatient none s ∧ s.Refused) ∧
      ∃ s document, Runs LoadTest.refusing () ⟨default, default⟩ "" .empty LoadTest.crowded
          (some (LoadTest.crowdedRun, .empty)) s ∧
        s.Reported ((LoadTest.ofDefaults LoadTest.crowded).reportOf document ⟨default, default⟩
          LoadTest.crowdedRun) := by
  constructor
  · have refused : Runs LoadTest.refusing () ⟨default, default⟩ "" .empty impatient none _ :=
      .unmade rfl rfl
    exact ⟨_, refused, exit_of_runs.1 refused⟩
  · obtain ⟨h, run⟩ := LoadTest.crowded_runsTo
    have session : Runs LoadTest.refusing () ⟨default, default⟩ "" .empty LoadTest.crowded
        (some (LoadTest.crowdedRun, .empty)) _ :=
      .finished rfl LoadTest.ofProfile_crowded
        (LoadTest.prepare_eq_ok.mpr ⟨if_pos (by decide), rfl, by decide⟩) run .empty
    obtain ⟨t, document, made, -, -, ⟨written, -, -, reported⟩ | ⟨e, kept, -⟩⟩ :=
      exit_of_runs.2 _ _ session
    · rw [LoadTest.ofProfile_crowded] at made
      obtain rfl := Except.ok.inj made
      exact ⟨_, document, session, reported⟩
    · rw [LoadTest.ofProfile_crowded] at made
      obtain rfl := Except.ok.inj made
      cases kept

/-- The report of a run of one iteration is to be written below a file, where nothing can be. -/
theorem status_of_unwritten_report :
    let s := Session.ofArguments (fun _ => LoadTest.refusing) () ⟨default, default⟩ ""
      ⟨[], [(["blocker"], "")]⟩ []
      ["run", "--iterations", "1", "--summary-export", "blocker/summary.json"]
    s.farewell.status = 1 ∧ s.farewell.output = "" ∧
      (s.state.map fun f => f.metrics.series.failed) = some 1 := by
  decide +kernel

end CommandLine

end LoadHarness
