import Mathlib
import LoadHarness.Proofs.LoadTest.Counts
import LoadHarness.Proofs.LoadTest.Phases
import LoadHarness.Proofs.Profile.Document
import LoadHarness.Proofs.Threshold.Table

/-!
# Profiles and the order of their thresholds

A table of settings hands over its entries in any order, and in another one the next time.
Sections are asked for their settings by name, so this makes no difference to them. But the
thresholds of a profile stand in the order in which they were handed over, and so they do in its
text: the same settings can have several texts, and reports on them several digests.
-/

namespace LoadHarness

namespace Setting

/-! ## Orders -/

/-- An order in which a table hands over its entries. -/
structure Order where
  arrange : List (String × Setting) → List (String × Setting)
  perm : ∀ entries, (arrange entries).Perm entries

namespace Order

/-- Entries as they stand, by their keys. -/
def ascending : Order := ⟨id, .refl⟩

def descending : Order := ⟨List.reverse, List.reverse_perm⟩

end Order

/-- A setting that hands over its entries in an order, if it is a table. -/
def arranged (order : Order) : Setting → Setting
  | .table entries origin => .table (order.arrange entries) origin
  | s => s

/-- Settings of which those at a key hand over their entries in an order. -/
def arrangedAt (key : String) (order : Order) : Setting → Setting
  | .table entries origin =>
    .table (entries.map fun entry =>
      (entry.1, if entry.1 = key then entry.2.arranged order else entry.2)) origin
  | s => s

theorem arranged_ascending (s : Setting) : s.arranged .ascending = s := by
  cases s <;> rfl

theorem arrangedAt_ascending (key : String) (s : Setting) :
    s.arrangedAt key .ascending = s := by
  cases s with
  | table entries origin =>
      simp only [arrangedAt, arranged_ascending, ite_self]
      exact congrArg (table · origin) (List.map_id entries)
  | absent | bool | integer | real | text | list => rfl

/-- A section of which the setting at a key hands over its entries in an order. -/
def Section.arrangedAt (key : String) (order : Order) (settings : Section) : Section :=
  settings.map fun entry =>
    (entry.1, entry.2.1, if entry.1 = key then entry.2.2.arranged order else entry.2.2)

section Arranged

variable {α : Type} {key name : String} {order : Order} {read : Decoder α}

/-- A table whose entries are handed over in another order is read as the same rows in another
order. -/
theorem readTable_arranged {s : Setting} {rows : List (String × α)}
    (ok : readTable read (s.arranged order) = .ok rows) (other : Order) :
    ∃ others, others.Perm rows ∧ readTable read (s.arranged other) = .ok others := by
  cases s with
  | table entries origin =>
      have perm := (other.perm entries).trans (order.perm entries).symm
      obtain ⟨others, each, others_perm⟩ := List.perm_comp_forall₂ perm (mapM_eq_ok_iff.mp ok)
      exact ⟨others, others_perm, mapM_eq_ok_iff.mpr each⟩
  | absent | bool | integer | real | text | list => cases ok

theorem readSection_arrangedAt (key title : String) (keys : List String)
    (table : List (String × Setting)) (origin : Option String) :
    ∃ settings, ∀ order,
      readSection title keys ((Setting.table table origin).arrangedAt key order) =
        .ok (Section.arrangedAt key order settings) := by
  refine ⟨table.map fun entry => (entry.1, .name entry.1, entry.2), fun order => ?_⟩
  rw [arrangedAt, readSection, Section.arrangedAt, List.map_map, List.map_map]
  rfl

namespace Section

variable {settings : Section}

theorem find_arrangedAt (settings : Section) (key : String) (order : Order) (name : String) :
    (settings.arrangedAt key order).find? (·.1 == name) =
      (settings.find? (·.1 == name)).map fun entry =>
        (entry.1, entry.2.1, if entry.1 = key then entry.2.2.arranged order else entry.2.2) := by
  rw [arrangedAt, List.find?_map]
  rfl

/-- All other settings are read as they are. -/
theorem read_arrangedAt_of_ne (apart : name ≠ key) (default : α) :
    (settings.arrangedAt key order).read name read default = settings.read name read default := by
  rw [Section.read, Section.read, find_arrangedAt]
  cases found : settings.find? (·.1 == name) with
  | none => rfl
  | some entry =>
      have here := List.find?_some found
      rw [beq_iff_eq] at here
      rw [Option.map_some, if_neg (here ▸ apart)]

/-- The table at the key is read in another order. -/
theorem read_arrangedAt {rows default : List (String × α)}
    (ok : (settings.arrangedAt key order).read key (readTable read) default = .ok rows)
    (other : Order) :
    ∃ others, others.Perm rows ∧
      (settings.arrangedAt key other).read key (readTable read) default = .ok others := by
  rw [Section.read, find_arrangedAt] at ok
  rw [Section.read, find_arrangedAt]
  cases found : settings.find? (·.1 == key) with
  | none =>
      rw [found] at ok
      exact ⟨rows, .refl rows, ok⟩
  | some entry =>
      have here := List.find?_some found
      rw [beq_iff_eq] at here
      rw [found, Option.map_some, if_pos here] at ok
      obtain ⟨others, perm, read_eq⟩ := readTable_arranged (mapError_eq_ok.mp ok) other
      refine ⟨others, perm, ?_⟩
      rw [Option.map_some, if_pos here]
      exact mapError_eq_ok.mpr read_eq

end Section

end Arranged

end Setting

namespace Profile

variable {p : Profile} {order : Setting.Order}

/-- Settings that hand over their thresholds in another order are read as the same profile, with
its thresholds in another order. -/
theorem ofSettings_arrangedAt {table : List (String × Setting)} {origin : Option String}
    (ok : ofSettings ((Setting.table table origin).arrangedAt "thresholds" order) = .ok p)
    (other : Setting.Order) :
    ∃ rows, rows.Perm p.thresholds ∧
      ofSettings ((Setting.table table origin).arrangedAt "thresholds" other) =
        .ok { p with thresholds := rows } := by
  obtain ⟨settings, settings_eq⟩ := Setting.readSection_arrangedAt "thresholds" "LoadTestConfig"
    ["target", "scenario", "executor", "thresholds", "logging", "metrics", "report"] table origin
  simp only [ofSettings, settings_eq, ok_bind] at ok ⊢
  simp only [bind_eq_ok] at ok
  obtain ⟨target, target_read, scenario, scenario_read, executor, executor_read, thresholds,
    thresholds_read, logging, logging_read, exporter, exporter_read, summaryPath, summaryPath_read,
    same⟩ := ok
  obtain rfl := Except.ok.inj same
  obtain ⟨rows, perm, rows_read⟩ := Setting.Section.read_arrangedAt thresholds_read other
  have again {α : Type} {read : Setting.Decoder α} {name : String} {default a : α}
      (apart : name ≠ "thresholds")
      (ok : (settings.arrangedAt "thresholds" order).read name read default = .ok a) :
      (settings.arrangedAt "thresholds" other).read name read default = .ok a := by
    rw [Setting.Section.read_arrangedAt_of_ne apart] at ok ⊢
    exact ok
  refine ⟨rows, perm, ?_⟩
  simp only [again (by decide) target_read, again (by decide) scenario_read,
    again (by decide) executor_read, rows_read, again (by decide) logging_read,
    again (by decide) exporter_read, again (by decide) summaryPath_read, ok_bind]
  rfl

/-! ## Texts -/

/-- Numbers of 64 binary digits leave a profile without a text. -/
theorem toDocument_of_large (bounded : p.Bounded) {n : Nat} (mem : n ∈ p.executor.numbers)
    (large : Word.signedBound64 ≤ n) : p.toDocument = .error .numberTooLarge := by
  cases written : p.toDocument with
  | error e =>
      cases e
      rfl
  | ok document =>
      have small := ((toDocument_eq_ok bounded).mp written).1 n mem
      exact absurd small (Nat.not_lt.mpr large)

/-- Thresholds are written one after the other. -/
theorem thresholds_of_sections {rows : ThresholdTable}
    (same : { p with thresholds := rows }.sections = p.sections) : rows = p.thresholds := by
  have entries : { p with thresholds := rows }.entriesOf "thresholds" = p.entriesOf "thresholds" :=
    congrArg (fun sections => ((sections.find? (·.1 == "thresholds")).map Prod.snd).getD []) same
  have injective : Function.Injective fun row : String × List String =>
      (row.1, TomlValue.array (row.2.map .text)) := by
    rintro ⟨name, sources⟩ ⟨other, others⟩ equal
    simp only [Prod.mk.injEq, TomlValue.array.injEq] at equal
    have texts : Function.Injective TomlValue.text := fun _ _ => TomlValue.text.inj
    exact Prod.ext equal.1 (List.map_injective_iff.mpr texts equal.2)
  rw [entriesOf_thresholds, entriesOf_thresholds] at entries
  exact List.map_injective_iff.mpr injective entries

/-- The text of a profile tells the order of its thresholds. -/
theorem toDocument_withRows (bounded : p.Bounded) (names : (p.thresholds.map Prod.fst).Nodup)
    {rows : ThresholdTable} (perm : rows.Perm p.thresholds) :
    { p with thresholds := rows }.toDocument = p.toDocument ↔
      rows = p.thresholds ∨ ∃ n ∈ p.executor.numbers, Word.signedBound64 ≤ n := by
  have bounded' : { p with thresholds := rows }.Bounded := { bounded with }
  have names' : (rows.map Prod.fst).Nodup := (perm.map Prod.fst).nodup_iff.mpr names
  constructor
  · intro same
    by_cases small : ∀ n ∈ p.executor.numbers, n < Word.signedBound64
    · left
      have written : p.toDocument = .ok _ := (toDocument_eq_ok bounded).mpr ⟨small, rfl⟩
      rw [written, toDocument_eq_ok bounded'] at same
      apply thresholds_of_sections
      exact Toml.sections_eq_of_sectionsText (nodup_sections _) (nodup_section names')
        (plain_sections bounded' small) (nodup_sections p) (nodup_section names)
        (plain_sections bounded small) same.2
    · right
      push Not at small
      exact small
  · rintro (rfl | ⟨n, mem, large⟩)
    · rfl
    · rw [toDocument_of_large bounded mem large, toDocument_of_large bounded' mem large]

/-- A digest that a report on a run of a profile can have. -/
def Reports (p : Profile) (hash : String) : Prop :=
  ∃ (σ : Type) (target : Target σ) (state : σ) (shutdown : Shutdown) (period : LoadTest.Period)
    (files : FileTree) (t : LoadTest) (outcome : LoadTest.Outcome σ),
    LoadTest.ofProfile p = .ok t ∧ t.run target state shutdown period files = .ok outcome ∧
      outcome.report.configHash = hash

/-- A report has the digest of the text. -/
theorem Reports.digest {hash : String} (reports : p.Reports hash) :
    ∃ document, p.toDocument = .ok document ∧ hash = Digest.ofText document := by
  obtain ⟨σ, target, state, shutdown, period, files, t, outcome, made, ran, rfl⟩ := reports
  obtain ⟨-, profile_eq, -⟩ := LoadTest.ofProfile_eq made
  obtain ⟨document, prepared, concluded⟩ := bind_eq_ok.mp ran
  obtain ⟨written, -⟩ := LoadTest.prepare_eq_ok.mp prepared
  obtain ⟨-, report_eq, -⟩ := LoadTest.conclude_eq_ok.mp concluded
  refine ⟨document, profile_eq ▸ written, ?_⟩
  rw [report_eq]
  rfl

/-! ## Sources -/

/-- What a profile is read from. -/
inductive Loading where
  | ofText (text : String)
  | ofFiles (files : FileTree) (environment : List (String × String)) (path : Option String)

namespace Loading

/-- The settings, with what an error tells of their source. -/
def settings? : Loading → Except LoadError (Source × Setting)
  | ofText text => do
    let some document := Toml.ofText? text | .error (.malformed .text)
    .ok (.text, Setting.layer (.table [] none) (Setting.ofEntries none document))
  | ofFiles files environment path => assemble files environment (sourcePath environment path)

/-- The profile that is read when the thresholds are handed over in an order. -/
def profile? (l : Loading) (order : Setting.Order) : Except LoadError Profile := do
  let (source, settings) ← l.settings?
  ofLayers source (settings.arrangedAt "thresholds" order)

theorem profile_ofText (text : String) : (ofText text).profile? .ascending = ofDocument text := by
  rw [profile?, settings?, ofDocument]
  cases Toml.ofText? text with
  | none => rfl
  | some document => simp only [ok_bind, Setting.arrangedAt_ascending]

theorem profile_ofFiles (files : FileTree) (environment : List (String × String))
    (path : Option String) :
    (ofFiles files environment path).profile? .ascending =
      (load files environment path).map Prod.fst := by
  rw [profile?, settings?, load]
  cases assemble files environment (sourcePath environment path) with
  | error e => rfl
  | ok settings =>
      simp only [ok_bind, Setting.arrangedAt_ascending]
      cases ofLayers settings.1 settings.2 with
      | error e => rfl
      | ok p => rfl

/-- Settings are tables whose keys are in order. -/
theorem deep_of_settings {l : Loading} {source : Source} {s : Setting}
    (ok : l.settings? = .ok (source, s)) :
    ∃ table origin, s = .table table origin ∧ Setting.Deep (.table table origin) := by
  have empty : Setting.Deep (.table [] none) :=
    ⟨.nil, fun entry mem => absurd mem List.not_mem_nil⟩
  cases l with
  | ofText text =>
      simp only [settings?] at ok
      split at ok
      · next document =>
        obtain ⟨-, rfl⟩ := Prod.mk.inj (Except.ok.inj ok)
        exact Setting.deep_layer _ _ _ empty
      · cases ok
  | ofFiles files environment path =>
      simp only [settings?, assemble, bind_eq_ok] at ok
      obtain ⟨base, base_eq, same⟩ := ok
      obtain ⟨-, rfl⟩ := Prod.mk.inj (Except.ok.inj same)
      have start : ∃ table origin, base = .table table origin ∧
          Setting.Deep (.table table origin) := by
        cases named : sourcePath environment path with
        | none =>
            rw [named] at base_eq
            exact ⟨[], none, (Except.ok.inj base_eq).symm, empty⟩
        | some path =>
            simp only [named, fileSettings, bind_eq_ok] at base_eq
            obtain ⟨text, -, document_eq⟩ := base_eq
            split at document_eq
            · obtain rfl := Except.ok.inj document_eq
              exact Setting.deep_layer _ _ _ empty
            · cases document_eq
      obtain ⟨table, origin, rfl, deep⟩ := start
      exact Setting.deep_layer _ _ _ deep

theorem profile_eq_ok {l : Loading} {order : Setting.Order} {p : Profile} :
    l.profile? order = .ok p ↔
      ∃ source s q, l.settings? = .ok (source, s) ∧
        ofSettings (s.arrangedAt "thresholds" order) = .ok q ∧ q.withThresholds = p ∧
        p.fault? = none := by
  simp only [profile?, bind_eq_ok, ofLayers_eq_ok, Prod.exists, exists_and_left]

section Reading

variable {l : Loading} {order : Setting.Order} {p : Profile}

/-- In whatever order it was read, a profile is like every other one that was read. -/
theorem read_of_profile (ok : l.profile? order = .ok p) : p.Read := by
  obtain ⟨source, s, q, settings_eq, read, rfl, faultless⟩ := profile_eq_ok.mp ok
  obtain ⟨table, origin, rfl, deep⟩ := deep_of_settings settings_eq
  have bounded := bounded_of_ofSettings read
  -- the keys of the table are in order only as long as it has not been handed over
  obtain ⟨rows, perm, ascending⟩ := ofSettings_arrangedAt read .ascending
  rw [Setting.arrangedAt_ascending] at ascending
  have names := (orderedNames_of_ofSettings deep ascending).1
  rcases eq_or_ne q.thresholds [] with none_named | named
  · rw [withThresholds, if_pos (by simpa using none_named)] at faultless ⊢
    exact { bounded with
      nodup := ThresholdTable.nodup_ofEntries _
      named := ThresholdTable.defaults_ne_nil
      faultless }
  · rw [withThresholds_of_ne named] at faultless ⊢
    exact { bounded with nodup := (perm.map Prod.fst).nodup_iff.mp names, named, faultless }

/-- Read in another order, a profile has its thresholds in another order. -/
theorem profile_of_order (ok : l.profile? order = .ok p) (other : Setting.Order) :
    ∃ rows, rows.Perm p.thresholds ∧ l.profile? other = .ok { p with thresholds := rows } := by
  obtain ⟨source, s, q, settings_eq, read, rfl, faultless⟩ := profile_eq_ok.mp ok
  obtain ⟨table, origin, rfl, -⟩ := deep_of_settings settings_eq
  obtain ⟨rows, perm, again⟩ := ofSettings_arrangedAt read other
  rcases eq_or_ne q.thresholds [] with none_named | named
  · rw [none_named, List.perm_nil] at perm
    have same : { q with thresholds := rows } = q := by
      rw [perm, ← none_named]
    rw [same] at again
    exact ⟨_, .refl _, profile_eq_ok.mpr ⟨source, _, q, settings_eq, again, rfl, faultless⟩⟩
  · rw [withThresholds_of_ne named] at faultless ⊢
    have filled : rows ≠ [] := by
      rintro rfl
      exact named perm.nil_eq.symm
    refine ⟨rows, perm, profile_eq_ok.mpr ⟨source, _, _, settings_eq, again, ?_, ?_⟩⟩
    · exact withThresholds_of_ne filled
    · exact (fault_withRows perm).mpr faultless

/-- A source has one profile but for the order of its thresholds. In another order it has the same
text exactly if that is no other order, or if it has no text at all; and the digests of reports are
those of the texts. -/
theorem document_of_order (ok : l.profile? order = .ok p) (other : Setting.Order) :
    ∃ rows, rows.Perm p.thresholds ∧ l.profile? other = .ok { p with thresholds := rows } ∧
      ({ p with thresholds := rows }.toDocument = p.toDocument ↔
        rows = p.thresholds ∨ ∃ n ∈ p.executor.numbers, Word.signedBound64 ≤ n) ∧
      ∀ hash again, p.Reports hash → { p with thresholds := rows }.Reports again →
        ∃ document text, hash = Digest.ofText document ∧ again = Digest.ofText text ∧
          (text = document ↔ rows = p.thresholds) := by
  have read := read_of_profile ok
  obtain ⟨rows, perm, again_ok⟩ := profile_of_order ok other
  have texts := toDocument_withRows read.toBounded read.nodup perm
  refine ⟨rows, perm, again_ok, texts, ?_⟩
  intro hash again reports reports_again
  obtain ⟨document, written, hash_eq⟩ := reports.digest
  obtain ⟨text, written_again, again_eq⟩ := reports_again.digest
  have small := ((toDocument_eq_ok read.toBounded).mp written).1
  refine ⟨document, text, hash_eq, again_eq, ?_⟩
  rw [written, written_again, Except.ok.injEq] at texts
  rw [texts]
  constructor
  · rintro (same | ⟨n, mem, large⟩)
    · exact same
    · exact absurd (small n mem) (Nat.not_lt.mpr large)
  · exact .inl

end Reading

/-! ## Two orders -/

/-- The text of what is read in an order. -/
def text? (l : Loading) (order : Setting.Order) : Option String :=
  (l.profile? order).toOption.bind fun p => p.toDocument.toOption

theorem text_eq_some {l : Loading} {order : Setting.Order} {text : String} :
    l.text? order = some text ↔ ∃ p, l.profile? order = .ok p ∧ p.toDocument = .ok text := by
  simp only [text?, Option.bind_eq_some_iff, toOption_eq_some]

/-- The digest in the report on what is read in an order, when its run is stopped at once. -/
def digest? (l : Loading) (order : Setting.Order) : Option String :=
  (l.profile? order).toOption.bind fun p => (LoadTest.ofProfile p).toOption.bind fun t =>
    (t.run LoadTest.refusing () .atOnce ⟨default, default⟩ .empty).toOption.map
      fun outcome => outcome.report.configHash

theorem reports_of_digest {l : Loading} {order : Setting.Order} {p : Profile} {hash : String}
    (ok : l.profile? order = .ok p) (found : l.digest? order = some hash) : p.Reports hash := by
  simp only [digest?, Option.bind_eq_some_iff, Option.map_eq_some_iff, toOption_eq_some] at found
  obtain ⟨q, again, t, made, outcome, ran, reported⟩ := found
  obtain rfl := Except.ok.inj (ok.symm.trans again)
  exact ⟨Unit, LoadTest.refusing, (), .atOnce, _, _, t, outcome, made, ran, reported⟩

/-- Two series with a threshold each. -/
def twoSeries : Loading :=
  ofText "[thresholds]\nhttp_reqs = [\"count>0\"]\nchecks = [\"rate>0.9\"]\n"

theorem text_twoSeries :
    (twoSeries.text? .ascending).isSome = true ∧ (twoSeries.text? .descending).isSome = true ∧
      twoSeries.text? .ascending ≠ twoSeries.text? .descending := by
  decide +kernel

theorem digest_twoSeries :
    (twoSeries.digest? .ascending).isSome = true ∧
      (twoSeries.digest? .descending).isSome = true := by
  decide +kernel

theorem document_of_order_twoSeries :
    ∃ p rows hash again document text, twoSeries.profile? .ascending = .ok p ∧
      rows.Perm p.thresholds ∧ twoSeries.profile? .descending = .ok { p with thresholds := rows } ∧
      p.Reports hash ∧ { p with thresholds := rows }.Reports again ∧
      hash = Digest.ofText document ∧ again = Digest.ofText text ∧ text ≠ document := by
  obtain ⟨text, written⟩ := Option.isSome_iff_exists.mp text_twoSeries.1
  obtain ⟨p, ok, written⟩ := text_eq_some.mp written
  obtain ⟨rows, perm, again_ok, -, digests⟩ := document_of_order ok .descending
  obtain ⟨hash, found⟩ := Option.isSome_iff_exists.mp digest_twoSeries.1
  obtain ⟨again, found_again⟩ := Option.isSome_iff_exists.mp digest_twoSeries.2
  have reports := reports_of_digest ok found
  have reports_again := reports_of_digest again_ok found_again
  obtain ⟨document, text, hash_eq, again_eq, same⟩ := digests hash again reports reports_again
  refine ⟨p, rows, hash, again, document, text, ok, perm, again_ok, reports, reports_again,
    hash_eq, again_eq, ?_⟩
  intro same_text
  obtain rfl := same.mp same_text
  apply text_twoSeries.2.2
  rw [text?, text?, ok, again_ok]

/-- One source has two texts. -/
theorem document_depends_on_order :
    ∃ p p', twoSeries.profile? .ascending = .ok p ∧ twoSeries.profile? .descending = .ok p' ∧
      p.toDocument ≠ p'.toDocument := by
  obtain ⟨first, second, apart⟩ := text_twoSeries
  obtain ⟨text, found⟩ := Option.isSome_iff_exists.mp first
  obtain ⟨other, found_other⟩ := Option.isSome_iff_exists.mp second
  obtain ⟨p, ok, written⟩ := text_eq_some.mp found
  obtain ⟨p', ok', written'⟩ := text_eq_some.mp found_other
  refine ⟨p, p', ok, ok', ?_⟩
  intro same
  rw [written, written', Except.ok.injEq] at same
  apply apart
  rw [found, found_other, same]

end Loading

end Profile

end LoadHarness
