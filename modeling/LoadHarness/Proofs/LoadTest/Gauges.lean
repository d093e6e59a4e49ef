import LoadHarness.Proofs.Executor.Gauge
import LoadHarness.Proofs.LoadTest.Verdict

/-!
# The gauges of workers

The registry has one gauge for the active workers and one for those that are set aside. In a run
that is watched they show what the executor told last and nothing else. So at the end of a run the
second one agrees with the report, and the first one, which nothing sets back, may be one too high.
-/

namespace LoadHarness

variable {σ : Type}

/-- What the gauges of a run show. -/
def RunMetrics.gauges (m : RunMetrics) : Notice :=
  .workers m.registry.active m.registry.allocated

/-- What is observed of a step moves no gauge. -/
theorem RunMetrics.gauges_observed (m : RunMetrics) (os : List Observation) :
    (m.recordAll (os.map (·.recording))).gauges = m.gauges := by
  induction os generalizing m with
  | nil => rfl
  | cons o rest ih =>
      have kept : (m.record o.recording).gauges = m.gauges := by cases o <;> rfl
      exact (ih (m.record o.recording)).trans kept

/-- The gauges of a run that is watched show what the executor told last. -/
theorem Workload.ofScenario_mirrors (settings : ScenarioSettings) (target : Target σ) :
    (Workload.ofScenario settings target true).Mirrors fun f => f.metrics.gauges where
  resume now i f state := by
    have observe (before : Notice) (f : RunState σ) (a : Awaiting) (answer : Answer)
        (latency : Duration) (same : f.metrics.gauges = before) :
        (f.observe a answer latency).metrics.gauges = before :=
      (f.metrics.gauges_observed _).trans same
    have proceed (f : RunState σ) (progress : Progress) :=
      Pending.proceed_keeps (p := fun m => m.gauges = f.metrics.gauges)
        (observe f.metrics.gauges) (fun _ _ same => same) settings target i f progress rfl
    cases state with
    | none => exact proceed f _
    | some pending =>
        cases pending with
        | answer a answer latency =>
            exact (proceed (f.observe a answer latency) _).trans (observe _ f a answer latency rfl)
        | crash | silence => rfl
  abandon now i f state := rfl
  workers now f active allocated := rfl
  dropped now f := rfl

namespace LoadTest

variable {t : LoadTest} {target : Target σ} {state : σ} {shutdown : Shutdown} {h : History}
  {r : ExecutorRun (RunState σ) Pending}

/-- At the end of a run of a profile the gauge of the workers that are set aside shows what the
report says. The gauge of the active ones shows none after arrivals at a constant rate, and at most
one after a fixed number of iterations. -/
theorem RunsTo.gauges {p : Profile} (made : ofProfile p = .ok t)
    (run : t.RunsTo target state shutdown h r) :
    r.crew.world.metrics.registry.allocated = r.report.allocatedWorkers ∧
      r.crew.world.metrics.registry.active ≤ 1 ∧
      (p.executor.kind = .constantArrivalRate → r.crew.world.metrics.registry.active = 0) := by
  obtain ⟨-, -, executor, watched, -⟩ := ofProfile_eq made
  have schedule := run.schedule
  rw [begin, watched] at schedule
  have emptied := schedule.emptied run.finished
  have idle : r.crew.isIdle = true := by simp [Crew.isIdle, emptied.ready, emptied.sleeping]
  have mirrors := Workload.ofScenario_mirrors t.profile.scenario target
  obtain ⟨active, told, few, none_active⟩ := schedule.told_when_idle mirrors idle
  obtain ⟨shown, aside⟩ := Notice.workers.inj told
  rw [executor] at none_active
  exact ⟨aside, shown ▸ few, fun constant => shown.trans (none_active constant)⟩

end LoadTest

end LoadHarness
