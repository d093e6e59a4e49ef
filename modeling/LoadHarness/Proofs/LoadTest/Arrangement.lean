import LoadHarness.Proofs.LoadTest.Verdict
import LoadHarness.Proofs.Profile.Read
import LoadHarness.Proofs.Threshold.Table

/-!
# Thresholds in another order

A table of thresholds is read row by row up to the first row that is refused, and what is read
is judged one after the other. Both come out the same in every order of the rows but for the
order itself: a table is accepted if each of its rows is, whatever stands around it, and every
row gives the thresholds of its own series in their own order.
-/

namespace LoadHarness

/-- A list is not mapped only because one of its members is not. -/
theorem exists_of_mapM_eq_error {α β ε : Type} {f : α → Except ε β} {xs : List α} {e : ε}
    (refused : xs.mapM f = .error e) : ∃ x ∈ xs, f x = .error e := by
  induction xs with
  | nil => cases refused
  | cons x rest ih =>
      rw [List.mapM_cons] at refused
      cases first : f x with
      | error e' =>
          rw [first] at refused
          obtain rfl := Except.error.inj refused
          exact ⟨x, List.mem_cons_self, first⟩
      | ok y =>
          cases others : rest.mapM f with
          | error e' =>
              rw [first, others] at refused
              obtain rfl := Except.error.inj refused
              obtain ⟨z, mem, stopped⟩ := ih others
              exact ⟨z, List.mem_cons_of_mem x mem, stopped⟩
          | ok ys =>
              rw [first, others] at refused
              cases refused

/-- A series has one row at most. -/
theorem ThresholdTable.filter_perm {table other : ThresholdTable}
    (names : (table.map Prod.fst).Nodup) (perm : other.Perm table) (series : String) :
    other.filter (·.1 == series) = table.filter (·.1 == series) := by
  have perm := perm.filter (·.1 == series)
  have alone : (table.filter (·.1 == series)).length ≤ 1 := by
    have distinct := (List.filter_sublist (p := (·.1 == series)) (l := table)).map Prod.fst
      |>.nodup names
    have same : (table.filter (·.1 == series)).map Prod.fst =
        List.replicate (table.filter (·.1 == series)).length series := by
      rw [List.eq_replicate_iff]
      refine ⟨List.length_map _, fun name mem => ?_⟩
      obtain ⟨row, found, rfl⟩ := List.mem_map.mp mem
      exact beq_iff_eq.mp (List.mem_filter.mp found).2
    rw [same] at distinct
    exact List.nodup_replicate.mp distinct
  rcases Nat.le_one_iff_eq_zero_or_eq_one.mp alone with none_named | one
  · rw [List.length_eq_zero_iff.mp none_named] at perm ⊢
    exact perm.eq_nil
  · obtain ⟨row, only⟩ := List.length_eq_one_iff.mp one
    rw [only] at perm ⊢
    exact List.perm_singleton.mp perm

namespace Threshold

variable {kindOf : String → Option SeriesKind} {table other : ThresholdTable}
  {ts us : List Threshold}

/-- The thresholds of a row; a row that is refused has none. -/
def ofRow (kindOf : String → Option SeriesKind) (row : String × List String) : List Threshold :=
  (ofRow? kindOf row).toOption.getD []

theorem ofRow_eq {row : String × List String} (read : ofRow? kindOf row = .ok ts) :
    ofRow kindOf row = ts := by
  rw [ofRow, read]
  rfl

/-- The thresholds of a row are for its series. -/
theorem series_of_mem_ofRow {row : String × List String} {t : Threshold}
    (mem : t ∈ ofRow kindOf row) : t.series = row.1 := by
  cases read : ofRow? kindOf row with
  | error e =>
      rw [ofRow, read] at mem
      cases mem
  | ok ts =>
      rw [ofRow_eq read] at mem
      obtain ⟨entry, named, reads⟩ := exists_of_forall₂ (reads_ofRow read).flip mem
      obtain ⟨source, -, rfl⟩ := List.mem_map.mp named
      exact reads.series

/-- A table is accepted exactly if each of its rows is, and gives what they give. -/
theorem ofTable_eq_ok :
    ofTable? kindOf table = .ok ts ↔
      (∀ row ∈ table, ∃ us, ofRow? kindOf row = .ok us) ∧ ts = table.flatMap (ofRow kindOf) := by
  have rows_eq {tss : List (List Threshold)}
      (rows : List.Forall₂ (fun row us => ofRow? kindOf row = .ok us) table tss) :
      tss.flatten = table.flatMap (ofRow kindOf) := by
    rw [List.flatMap_def]
    congr 1
    induction rows with
    | nil => rfl
    | cons here _ ih => rw [List.map_cons, ofRow_eq here, ih]
  constructor
  · intro read
    cases rows : table.mapM (ofRow? kindOf) with
    | error e =>
        rw [ofTable?, rows] at read
        cases read
    | ok tss =>
        rw [ofTable?, rows] at read
        obtain rfl := Except.ok.inj read
        have rows := mapM_eq_ok_iff.mp rows
        refine ⟨fun row mem => ?_, rows_eq rows⟩
        obtain ⟨us, -, here⟩ := exists_of_forall₂ rows mem
        exact ⟨us, here⟩
  · rintro ⟨each, rfl⟩
    obtain ⟨tss, rows⟩ := exists_mapM each
    rw [ofTable?, rows, ← rows_eq (mapM_eq_ok_iff.mp rows)]
    rfl

/-- The thresholds of a series are those of its row, in their order. -/
theorem filter_flatMap_ofRow (series : String) :
    (table.flatMap (ofRow kindOf)).filter (·.series == series) =
      (table.filter (·.1 == series)).flatMap (ofRow kindOf) := by
  induction table with
  | nil => rfl
  | cons row rest ih =>
      have own : ∀ t ∈ ofRow kindOf row, (t.series == series) = (row.1 == series) := by
        intro t mem
        rw [series_of_mem_ofRow mem]
      rw [List.flatMap_cons, List.filter_append, ih]
      cases here : row.1 == series with
      | true =>
          have kept : (ofRow kindOf row).filter (·.series == series) = ofRow kindOf row :=
            List.filter_eq_self.mpr fun t mem => (own t mem).trans here
          rw [List.filter_cons, if_pos here, List.flatMap_cons, kept]
      | false =>
          have gone : (ofRow kindOf row).filter (·.series == series) = [] :=
            List.filter_eq_nil_iff.mpr fun t mem => by simp [own t mem, here]
          rw [List.filter_cons, here, if_neg Bool.false_ne_true, gone, List.nil_append]

/-- In another order a table is accepted alike. -/
theorem ofTable_perm (perm : other.Perm table) (read : ofTable? kindOf table = .ok ts) :
    ofTable? kindOf other = .ok (other.flatMap (ofRow kindOf)) :=
  ofTable_eq_ok.mpr
    ⟨fun row mem => (ofTable_eq_ok.mp read).1 row (perm.mem_iff.mp mem), rfl⟩

/-- A table that is refused is refused for one of its rows. -/
theorem exists_of_ofTable_eq_error {e : ThresholdError}
    (refused : ofTable? kindOf table = .error e) : ∃ row ∈ table, ofRow? kindOf row = .error e := by
  cases rows : table.mapM (ofRow? kindOf) with
  | error e' =>
      rw [ofTable?, rows] at refused
      obtain rfl := Except.error.inj refused
      exact exists_of_mapM_eq_error rows
  | ok tss =>
      rw [ofTable?, rows] at refused
      cases refused

/-- Two orders of one table give the same thresholds up to their order, and those of each series
in the same order. -/
theorem perm_of_order {m : RunMetrics} (names : (table.map Prod.fst).Nodup)
    (perm : other.Perm table) (read : forRun? m table = .ok ts) (again : forRun? m other = .ok us) :
    us.Perm ts ∧ ∀ series, us.filter (·.series == series) = ts.filter (·.series == series) := by
  obtain ⟨-, rfl⟩ := ofTable_eq_ok.mp read
  obtain ⟨-, rfl⟩ := ofTable_eq_ok.mp again
  refine ⟨perm.flatMap_right _, fun series => ?_⟩
  rw [filter_flatMap_ofRow, filter_flatMap_ofRow, ThresholdTable.filter_perm names perm]

/-- Whatever was measured, two orders of one table are accepted alike and judged alike. Either both
are read or both are refused, each for a row that they have in common. If they are read, their
verdicts are the same up to their order, those on one series come in the same order, and all of
them pass or neither do. -/
theorem judged_of_order (names : (table.map Prod.fst).Nodup) (perm : other.Perm table)
    (m state : RunMetrics) :
    ((∃ ts, forRun? m table = .ok ts) ↔ ∃ us, forRun? m other = .ok us) ∧
      (∀ e, forRun? m other = .error e → ∃ row ∈ table, ofRow? m.kindOf row = .error e) ∧
      ∀ ts us, forRun? m table = .ok ts → forRun? m other = .ok us →
        let verdicts := ts.map (judge state)
        let rearranged := us.map (judge state)
        rearranged.Perm verdicts ∧
          (∀ series, rearranged.filter (·.series == series) =
            verdicts.filter (·.series == series)) ∧
          rearranged.all (·.passed) = verdicts.all (·.passed) := by
  refine ⟨⟨?_, ?_⟩, fun e refused => ?_, fun ts us read again => ?_⟩
  · rintro ⟨ts, read⟩
    exact ⟨_, ofTable_perm perm read⟩
  · rintro ⟨us, read⟩
    exact ⟨_, ofTable_perm perm.symm read⟩
  · obtain ⟨row, mem, stopped⟩ := exists_of_ofTable_eq_error refused
    exact ⟨row, perm.mem_iff.mp mem, stopped⟩
  · obtain ⟨same, own⟩ := perm_of_order names perm read again
    have judged := same.map (judge state)
    refine ⟨judged, fun series => ?_, judged.all_eq⟩
    rw [List.filter_map, List.filter_map]
    exact congrArg (List.map (judge state)) (own series)

/-- After a failed step the default thresholds do not all hold, in whatever order they are read. -/
theorem judged_of_order_reversed :
    let table := ThresholdTable.defaults "scenario_errors"
    let m := RunMetrics.fresh "scenario_errors"
    let state := m.record (.step "login" true)
    (table.map Prod.fst).Nodup ∧ table.reverse.Perm table ∧
      ∃ ts us, forRun? m table = .ok ts ∧ forRun? m table.reverse = .ok us ∧
        (us.map (judge state)).Perm (ts.map (judge state)) ∧
        (us.map (judge state)).all (·.passed) = false := by
  intro table m state
  have names : (table.map Prod.fst).Nodup := ThresholdTable.nodup_ofEntries _
  have perm : table.reverse.Perm table := List.reverse_perm table
  have read : forRun? m table = .ok (defaults "scenario_errors") := by
    refine forRun_defaults (s := ScenarioSettings.defaults) ?_
    decide
  obtain ⟨alike, -, judged⟩ := judged_of_order names perm m state
  obtain ⟨us, again⟩ := alike.mp ⟨_, read⟩
  obtain ⟨same, -, passed⟩ := judged _ us read again
  refine ⟨names, perm, _, us, read, again, same, passed.trans ?_⟩
  decide +kernel

end Threshold

namespace LoadTest

variable {p : Profile} {rows : ThresholdTable}

/-- What a profile needs to make a load test. -/
theorem exists_ofProfile :
    (∃ t, ofProfile p = .ok t) ↔
      p.fault? = none ∧
        ∃ ts, Threshold.forRun? (.fresh p.scenario.errorSeries) p.thresholds = .ok ts := by
  constructor
  · rintro ⟨t, made⟩
    obtain ⟨fine, -, -, -, read⟩ := ofProfile_eq made
    exact ⟨fine, t.thresholds, read⟩
  · rintro ⟨fine, ts, read⟩
    simp only [ofProfile, fine, read]
    exact ⟨_, rfl⟩

/-- Profiles that differ in the order of their thresholds make load tests alike, and the reports on
one run have the same verdicts up to their order and say alike whether it passed. -/
theorem report_of_order (names : (p.thresholds.map Prod.fst).Nodup)
    (perm : rows.Perm p.thresholds) :
    ((∃ t, ofProfile p = .ok t) ↔ ∃ t, ofProfile { p with thresholds := rows } = .ok t) ∧
      ∀ t t', ofProfile p = .ok t → ofProfile { p with thresholds := rows } = .ok t' →
        ∀ (σ : Type) (document : String) (period : Period) (r : ExecutorRun (RunState σ) Pending),
          (t'.reportOf document period r).verdicts.Perm (t.reportOf document period r).verdicts ∧
            (t'.reportOf document period r).passed = (t.reportOf document period r).passed := by
  refine ⟨?_, fun t t' made again σ document period r => ?_⟩
  · rw [exists_ofProfile, exists_ofProfile, Profile.fault_withRows perm]
    refine and_congr_right fun _ => ⟨?_, ?_⟩
    · rintro ⟨ts, read⟩
      exact ⟨_, Threshold.ofTable_perm perm read⟩
    · rintro ⟨ts, read⟩
      exact ⟨_, Threshold.ofTable_perm perm.symm read⟩
  · obtain ⟨-, -, -, -, read⟩ := ofProfile_eq made
    obtain ⟨-, -, -, -, read'⟩ := ofProfile_eq again
    have same := (Threshold.perm_of_order names perm read read').1
    have judged := same.map (Threshold.judge r.crew.world.metrics)
    exact ⟨judged, judged.all_eq⟩

end LoadTest

end LoadHarness
