import LoadHarness.Proofs.Metrics.Accumulation
import LoadHarness.Proofs.Scenario.Ensemble

/-!
# Interleaved recordings

Iterations that run at the same time record into the same metrics. Each makes its recordings
in a fixed order, but the recordings of others may come between any two of them. The names of
checks are the one thing that depends on who was first. Every iteration makes its checks in
the order of the steps and leaves none out before its last, so whoever is first to use a name
finds all names before it used already. The metrics are the same for every interleaving.
-/

namespace LoadHarness

/-- The names of all checks, in the order of the steps. -/
def Check.order : List String :=
  ["login status 200", "token present", "pvz status 201", "pvz id present",
    "get pvz status 200", "get pvz returns array",
    "optimized get pvz status 200", "optimized get pvz returns array"]

/-- The names of the checks of a step. -/
def Step.checkNames (s : Step) : List String := (Check.ofStep s).map (·.name)

theorem Check.order_eq : Check.order = Step.all.flatMap Step.checkNames := rfl

theorem Check.nodup_order : Check.order.Nodup := by
  decide

/-! ## The recordings of one iteration -/

namespace Recording

/-- The names of the checks among recordings. -/
def checkNames (rs : List Recording) : List String := (rs.filterMap check?).map (·.1)

theorem checkNames_append (rs rs' : List Recording) :
    checkNames (rs ++ rs') = checkNames rs ++ checkNames rs' := by
  rw [checkNames, List.filterMap_append, List.map_append]
  rfl

theorem checkNames_prefix {rs rs' : List Recording} (begins : rs <+: rs') :
    checkNames rs <+: checkNames rs' := by
  obtain ⟨rest, rfl⟩ := begins
  exact ⟨checkNames rest, (checkNames_append rs rest).symm⟩

end Recording

namespace Transcript

/-- What an iteration records, in order. -/
def recordings (t : Transcript) : List Recording := t.observations.map (·.recording)

/-- It is the transcript of an iteration against some service. -/
def IsRun (t : Transcript) : Prop :=
  ∃ (settings : ScenarioSettings) (iteration : Nat) (σ : Type) (service : Service σ) (state : σ),
    t = (ofService settings iteration service state).2

/-- Every exchange is checked for its step. -/
theorem checkNames_recordings (t : Transcript) :
    Recording.checkNames t.recordings = (t.requests.map (·.step)).flatMap Step.checkNames := by
  obtain ⟨exchanges, outcome⟩ := t
  induction exchanges with
  | nil => rfl
  | cons e rest ih =>
      have first : Recording.checkNames
          ((Observation.ofAnswer e.request.step e.answer e.latency).map (·.recording)) =
          e.request.step.checkNames := by
        cases e.request.step with
        | login | createPoint | listPoints | listOptimized => rfl
      have split : recordings ⟨e :: rest, outcome⟩ =
          (Observation.ofAnswer e.request.step e.answer e.latency).map (·.recording) ++
            recordings ⟨rest, outcome⟩ :=
        List.map_append
      rw [split, Recording.checkNames_append, first, ih]
      rfl

/-- An iteration makes its checks in the order of the steps, without a gap. -/
theorem IsRun.checkNames {t : Transcript} (ran : t.IsRun) :
    Recording.checkNames t.recordings <+: Check.order := by
  obtain ⟨settings, iteration, σ, service, state, rfl⟩ := ran
  have steps := Ensemble.steps_ofService settings iteration service state
  have enabled : Step.enabled settings <+: Step.all := by
    rw [Step.enabled]
    split
    · exact List.prefix_rfl
    · exact ⟨[.listOptimized], rfl⟩
  obtain ⟨rest, all⟩ := steps.trans enabled
  rw [checkNames_recordings, Check.order_eq, ← all, List.flatMap_append]
  exact List.prefix_append _ _

end Transcript

/-! ## Logs -/

/-- Recordings of several iterations, each with the number of the iteration that made it. -/
abbrev Log (n : Nat) := List (Fin n × Recording)

namespace Log

variable {n : Nat} {log log' : Log n} {ts : Fin n → Transcript}

/-- The recordings of one iteration. -/
def of (i : Fin n) (log : Log n) : List Recording :=
  log.filterMap fun x => if x.1 = i then some x.2 else none

/-- The metrics that take the recordings one by one. -/
def metrics (errorSeries : String) (log : Log n) : RunMetrics :=
  (RunMetrics.fresh errorSeries).recordAll (log.map (·.2))

/-- Every iteration made its own recordings in their order. -/
def Interleaves (ts : Fin n → Transcript) (log : Log n) : Prop :=
  ∀ i, log.of i = (ts i).recordings

theorem of_cons (i : Fin n) (x : Fin n × Recording) (log : Log n) :
    of i (x :: log) = if x.1 = i then x.2 :: of i log else of i log := by
  rw [of, List.filterMap_cons]
  split <;> simp_all [of]

theorem of_append (i : Fin n) (log log' : Log n) : of i (log ++ log') = of i log ++ of i log' :=
  List.filterMap_append

theorem of_singleton (i : Fin n) (r : Recording) : of i [(i, r)] = [r] :=
  List.filterMap_cons_some (if_pos rfl)

theorem mem_of {i : Fin n} {r : Recording} : r ∈ log.of i ↔ (i, r) ∈ log := by
  simp [of]

/-- A log is told, but for its order, by what each iteration recorded. -/
theorem perm_of_same (same : ∀ i, log.of i = log'.of i) : log.Perm log' := by
  classical
  rw [List.perm_iff_count]
  rintro ⟨i, r⟩
  have count (log : Log n) : log.count (i, r) = (log.of i).count r := by
    induction log with
    | nil => rfl
    | cons x rest ih =>
        obtain ⟨j, s⟩ := x
        by_cases own : j = i
        · subst own
          simp [of_cons, List.count_cons, ih]
        · simp [of_cons, own, ih]
  rw [count, count, same]

theorem snapshot_metrics (errorSeries : String) (log : Log n) :
    (log.metrics errorSeries).snapshot =
      (Series.ofRecordings (log.map (·.2))).snapshot errorSeries :=
  RunMetrics.snapshot_recordAll errorSeries _

end Log

/-! ## The order of names -/

/-- A name that comes up for the first time is the next of the order, if whoever uses it has
used all names before it. -/
theorem prefix_snoc {names earlier order : List String} {name : String} (nodup : order.Nodup)
    (begins : names <+: order) (own : earlier ++ [name] <+: order)
    (seen : earlier ⊆ names) (new : name ∉ names) : names ++ [name] <+: order := by
  have once : earlier.Nodup := nodup.sublist ((List.prefix_append _ _).trans own).sublist
  rcases List.prefix_or_prefix_of_prefix own begins with longer | shorter
  · exact absurd (longer.subset (List.mem_append_right _ List.mem_cons_self)) new
  rcases List.prefix_concat_iff.mp shorter with rfl | shorter
  · exact absurd (List.mem_append_right _ List.mem_cons_self) new
  · have short : earlier.length ≤ names.length := (once.subperm seen).length_le
    rw [shorter.eq_of_length_le short]
    exact own

namespace Log

variable {n : Nat} {log log' : Log n} {ts : Fin n → Transcript}

/-- While every iteration makes its checks in the order of the steps, names come up in that
order. -/
theorem firstUses_prefix (own : ∀ i, Recording.checkNames (log.of i) <+: Check.order) :
    firstUses (Recording.checkNames (log.map (·.2))) <+: Check.order := by
  induction log using List.reverseRecOn with
  | nil => exact List.nil_prefix
  | append_singleton log x ih =>
      obtain ⟨i, r⟩ := x
      have before : ∀ j, Recording.checkNames (of j log) <+: Check.order := by
        intro j
        have begins : of j log <+: of j (log ++ [(i, r)]) := by
          rw [of_append]
          exact List.prefix_append _ _
        exact (Recording.checkNames_prefix begins).trans (own j)
      have own := own i
      rw [of_append, of_singleton, Recording.checkNames_append] at own
      rw [List.map_append, Recording.checkNames_append]
      cases r with
      | check name passed =>
          show firstUses (_ ++ [name]) <+: _
          rw [firstUses_snoc]
          split
          · exact ih before
          · next new =>
            refine prefix_snoc Check.nodup_order (ih before) own ?_ new
            intro used mem
            obtain ⟨check, made, rfl⟩ := List.mem_map.mp mem
            obtain ⟨r, recorded, told⟩ := List.mem_filterMap.mp made
            have logged : r ∈ log.map (·.2) := List.mem_map.mpr ⟨(i, r), mem_of.mp recorded, rfl⟩
            rw [mem_firstUses]
            exact List.mem_map.mpr ⟨check, List.mem_filterMap.mpr ⟨r, logged, told⟩, rfl⟩
      | request | step | iteration | dropped | active | allocated =>
          exact (List.append_nil _).symm ▸ ih before

theorem names_series (log : Log n) :
    (Series.ofRecordings (log.map (·.2))).checksByName.map (·.1) =
      firstUses (Recording.checkNames (log.map (·.2))) := by
  rw [Series.checksByName_ofRecordings, NamedRates.names_ofChecks]
  rfl

/-- At every moment the names that have come up are the first ones of the order. -/
theorem Interleaves.names_prefix (interleaves : log.Interleaves ts) (ran : ∀ i, (ts i).IsRun)
    (k : Nat) :
    (Series.ofRecordings ((log.take k).map (·.2))).checksByName.map (·.1) <+: Check.order := by
  rw [names_series (log.take k)]
  apply firstUses_prefix
  intro i
  have begins : of i (log.take k) <+: log.of i := (List.take_prefix k log).filterMap _
  rw [interleaves i] at begins
  exact (Recording.checkNames_prefix begins).trans (ran i).checkNames

/-- Names that come up in the order of the steps come up in the same order. -/
theorem Interleaves.names_eq (interleaves : log.Interleaves ts) (interleaves' : log'.Interleaves ts)
    (ran : ∀ i, (ts i).IsRun) :
    (Series.ofRecordings (log.map (·.2))).checksByName.map (·.1) =
      (Series.ofRecordings (log'.map (·.2))).checksByName.map (·.1) := by
  have perm : log.Perm log' := perm_of_same fun i => (interleaves i).trans (interleaves' i).symm
  have one := interleaves.names_prefix ran log.length
  have other := interleaves'.names_prefix ran log'.length
  rw [List.take_length, names_series] at one other
  rw [names_series, names_series]
  have same : (firstUses (Recording.checkNames (log.map (·.2)))).Perm
      (firstUses (Recording.checkNames (log'.map (·.2)))) :=
    firstUses_perm (((perm.map _).filterMap _).map _)
  exact (List.prefix_of_prefix_length_le one other same.length_eq.le).eq_of_length same.length_eq

/-- Two interleavings of the same iterations leave the same metrics, down to the order of the
names of checks; and at every moment of an interleaving the names that have come up are the
first ones of the order of the steps. -/
theorem snapshot_of_interleaves (errorSeries : String) (ran : ∀ i, (ts i).IsRun)
    (interleaves : log.Interleaves ts) (interleaves' : log'.Interleaves ts) :
    (log.metrics errorSeries).snapshot = (log'.metrics errorSeries).snapshot ∧
      ∀ k, (metrics errorSeries (log.take k)).snapshot.checksByName.map (·.1) <+:
        Check.order := by
  have perm : log.Perm log' := perm_of_same fun i => (interleaves i).trans (interleaves' i).symm
  constructor
  · rw [snapshot_metrics, snapshot_metrics,
      Series.ofRecordings_perm (perm.map _) (interleaves.names_eq interleaves' ran)]
  · intro k
    rw [snapshot_metrics]
    exact interleaves.names_prefix ran k

/-! ## One iteration overtaken by another -/

/-- The second of two iterations makes all of its recordings when the first has made `k`. -/
def overtaken (k : Nat) (ts : Fin 2 → Transcript) : Log 2 :=
  ((ts 0).recordings.take k).map (0, ·) ++ (ts 1).recordings.map (1, ·) ++
    ((ts 0).recordings.drop k).map (0, ·)

theorem of_map (i j : Fin n) (rs : List Recording) :
    of i (rs.map (j, ·)) = if j = i then rs else [] := by
  rw [of, List.filterMap_map]
  split
  · next own => simp [own]
  · next other => simp [other]

theorem overtaken_interleaves (k : Nat) (ts : Fin 2 → Transcript) :
    Interleaves ts (overtaken k ts) := by
  intro i
  rw [overtaken, of_append, of_append, of_map, of_map, of_map]
  match i with
  | 0 => simp
  | 1 => simp

/-- A service that lets an iteration log in and creates no point. -/
def tokenOnly : Service Unit := fun state _ =>
  (state, .response 200 "\x7b\"token\": \"t\"\x7d".toUTF8, .ofMillis 3)

/-- A service that knows nobody. -/
def unknown : Service Unit := fun state _ => (state, .response 404 .empty, .ofMillis 2)

/-- Two iterations, of which the second fails at its login. -/
def unequal (i : Fin 2) : Transcript :=
  (Transcript.ofService .defaults i (if i = 0 then tokenOnly else unknown) ()).2

theorem unequal_isRun (i : Fin 2) : (unequal i).IsRun := ⟨_, _, _, _, _, rfl⟩

theorem snapshot_of_overtaken :
    (metrics "errors" (overtaken 0 unequal)).snapshot =
        (metrics "errors" (overtaken 3 unequal)).snapshot ∧
      ∀ k, (metrics "errors" ((overtaken 0 unequal).take k)).snapshot.checksByName.map (·.1) <+:
        Check.order :=
  snapshot_of_interleaves "errors" unequal_isRun (overtaken_interleaves 0 unequal)
    (overtaken_interleaves 3 unequal)

end Log

end LoadHarness
