import Mathlib
import LoadHarness.Duration.Text
import LoadHarness.Proofs.Text.Digits

/-!
# Durations are read back

A duration is written as counts with units, and reading adds them up again: every count is below
its bound, and so is the sum, as long as the whole seconds of the duration fit into 64 binary
digits. Those of a duration that is read always do.
-/

namespace LoadHarness

namespace Duration

/-- The whole seconds fit into a word. -/
def FitsWord (d : Duration) : Prop := d.seconds < Word.bound64

theorem fitsWord_ofSeconds {n : Nat} (small : n < Word.bound64) : (ofSeconds n).FitsWord := by
  rw [FitsWord, seconds, ofSeconds, Nat.mul_div_cancel _ (by decide)]
  exact small

/-! ## Adding counts -/

section Adding

variable {d d' : Duration} {n count : Nat} {unit : Unit}

theorem bounded_of_lt (small : n < Word.bound64) : bounded? n = some n := if_pos small

theorem lt_of_bounded {m : Nat} (read : bounded? n = some m) : m < Word.bound64 := by
  rw [bounded?] at read
  split at read
  · next small => exact Option.some.inj read ▸ small
  · cases read

/-- The length of a unit in nanoseconds. -/
def Unit.length (unit : Unit) : Nat := unit.seconds * nanosPerSecond + unit.nanos

/-- Parts are added as numbers of nanoseconds as long as the sum fits. -/
theorem addParts_of_fits {seconds nanos : Nat} (below : nanos < nanosPerSecond)
    (fits : FitsWord ⟨d.nanos + (seconds * nanosPerSecond + nanos)⟩) :
    addParts? d seconds nanos = some ⟨d.nanos + (seconds * nanosPerSecond + nanos)⟩ := by
  have rest_small : d.subsecond + nanos < Word.bound64 := by
    have := Nat.mod_lt d.nanos (show 0 < nanosPerSecond by decide)
    simp only [subsecond, nanosPerSecond, Word.bound64] at *
    omega
  have carried : d.seconds + seconds + (d.subsecond + nanos) / nanosPerSecond =
      Duration.seconds ⟨d.nanos + (seconds * nanosPerSecond + nanos)⟩ := by
    simp only [Duration.seconds, subsecond, nanosPerSecond]
    omega
  have total : Duration.seconds ⟨d.nanos + (seconds * nanosPerSecond + nanos)⟩ * nanosPerSecond +
      (d.subsecond + nanos) % nanosPerSecond = d.nanos + (seconds * nanosPerSecond + nanos) := by
    simp only [Duration.seconds, subsecond, nanosPerSecond]
    omega
  rw [addParts?, bounded_of_lt rest_small]
  simp only [Option.bind_eq_bind, Option.bind_some, carried, bounded_of_lt fits, ofParts, total]
  rfl

/-- A count of units is added as long as the sum fits. -/
theorem addCount_of_fits (below : count * unit.nanos < nanosPerSecond)
    (fits : FitsWord ⟨d.nanos + count * unit.length⟩) :
    addCount? d count unit = some ⟨d.nanos + count * unit.length⟩ := by
  have expanded :
      count * unit.length = count * unit.seconds * nanosPerSecond + count * unit.nanos := by
    rw [Unit.length, Nat.mul_add, Nat.mul_assoc]
  rw [expanded] at fits ⊢
  have seconds_small : count * unit.seconds < Word.bound64 := by
    simp only [FitsWord, Duration.seconds, nanosPerSecond] at fits
    omega
  have nanos_small : count * unit.nanos < Word.bound64 :=
    Nat.lt_trans below (by decide)
  rw [addCount?, bounded_of_lt seconds_small, bounded_of_lt nanos_small]
  exact addParts_of_fits below fits

/-- What adds parts stays within a word. -/
theorem fitsWord_of_addParts {seconds nanos : Nat} (added : addParts? d seconds nanos = some d') :
    FitsWord d' := by
  simp only [addParts?, Option.bind_eq_bind, Option.bind_eq_some_iff] at added
  obtain ⟨nanos, -, seconds, fits, same⟩ := added
  obtain rfl := Option.some.inj same
  have below := Nat.mod_lt nanos (show 0 < nanosPerSecond by decide)
  have kept : Duration.seconds (ofParts seconds (nanos % nanosPerSecond)) = seconds := by
    simp only [Duration.seconds, ofParts, nanosPerSecond] at below ⊢
    omega
  rw [FitsWord, kept]
  exact lt_of_bounded fits

theorem fitsWord_of_addPlaces {places : Places} (added : addPlaces? d places unit = some d') :
    FitsWord d' := by
  simp only [addPlaces?, Option.bind_eq_bind, Option.bind_eq_some_iff] at added
  obtain ⟨⟨scale, whole⟩, -, scaled, -, added⟩ := added
  split at added
  · cases added
  split at added
  · exact fitsWord_of_addParts added
  · exact fitsWord_of_addParts added

theorem fitsWord_of_addItem {places : Option Places} {name : List Char}
    (added : addItem? d count places name = some d') : FitsWord d' := by
  simp only [addItem?, Option.bind_eq_bind, Option.bind_eq_some_iff] at added
  obtain ⟨unit, -, counted, count_added, added⟩ := added
  cases places with
  | some places => exact fitsWord_of_addPlaces added
  | none =>
      obtain rfl := Option.some.inj added
      simp only [addCount?, Option.bind_eq_bind, Option.bind_eq_some_iff] at count_added
      obtain ⟨seconds, -, nanos, -, parts_added⟩ := count_added
      exact fitsWord_of_addParts parts_added

end Adding

/-! ## Durations that are read -/

section Bounds

variable {d d' : Duration} {state : Reading} {cs : List Char}

/-- One more character leaves the duration as it is or adds an item to it. -/
theorem read_cases {c : Char} {next : Reading} (read : read? d state c = some (d', next)) :
    d' = d ∨ ∃ n places name, addItem? d n places name = some d' := by
  have unchanged {r : Reading} (same : some (d, r) = some (d', next)) : d' = d :=
    (Prod.mk.inj (Option.some.inj same)).1.symm
  cases state with
  | start empty =>
      simp only [read?] at read
      split at read
      · exact .inl (unchanged read)
      split at read
      · exact .inl (unchanged read)
      · cases read
  | count n =>
      simp only [read?] at read
      split at read
      · obtain ⟨m, -, same⟩ := Option.map_eq_some_iff.mp read
        exact .inl (Prod.mk.inj same).1.symm
      split at read
      · exact .inl (unchanged read)
      split at read
      · exact .inl (unchanged read)
      split at read
      · exact .inl (unchanged read)
      · cases read
  | places n p =>
      simp only [read?, Option.bind_eq_bind] at read
      split at read
      · obtain ⟨numerator, -, read⟩ := Option.bind_eq_some_iff.mp read
        obtain ⟨denominator, -, read⟩ := Option.bind_eq_some_iff.mp read
        exact .inl (unchanged read)
      split at read
      · exact .inl (unchanged read)
      split at read
      · exact .inl (unchanged read)
      · cases read
  | unit n p name =>
      simp only [read?] at read
      split at read
      · obtain ⟨sum, added, same⟩ := Option.map_eq_some_iff.mp read
        exact .inr ⟨n, p, name, (Prod.mk.inj same).1 ▸ added⟩
      split at read
      · obtain ⟨sum, added, same⟩ := Option.map_eq_some_iff.mp read
        exact .inr ⟨n, p, name, (Prod.mk.inj same).1 ▸ added⟩
      split at read
      · exact .inl (unchanged read)
      · cases read

theorem fitsWord_of_readAll (fits : FitsWord d) (read : readAll? d state cs = some d') :
    FitsWord d' := by
  induction cs generalizing d state with
  | nil =>
      cases state with
      | start empty =>
          rw [readAll?] at read
          split at read
          · cases read
          · exact Option.some.inj read ▸ fits
      | count n => cases read
      | places n p => cases read
      | unit n p name => exact fitsWord_of_addItem read
  | cons c cs ih =>
      rw [readAll?] at read
      split at read
      · next sum state taken =>
        rcases read_cases taken with rfl | ⟨n, p, name, added⟩
        · exact ih fits read
        · exact ih (fitsWord_of_addItem added) read
      · cases read

/-- The whole seconds of a duration that is read fit into a word. -/
theorem fitsWord_of_ofText {text : String} (read : ofText? text = some d) : FitsWord d := by
  have zero_fits : FitsWord .zero := by
    rw [FitsWord]
    decide
  rw [ofText?] at read
  split at read
  · exact Option.some.inj read ▸ zero_fits
  · exact fitsWord_of_readAll zero_fits read

end Bounds

/-! ## Items -/

/-- A count of units with the name that is written for the unit. -/
structure Item where
  count : Nat
  unit : Unit
  name : List Char

namespace Item

/-- The digits of the count and the name. -/
def chars (i : Item) : List Char := Nat.toDigits 10 i.count ++ i.name

/-- The length of time in nanoseconds. -/
def length (i : Item) : Nat := i.count * i.unit.length

/-- The name is one of the unit and can be told from counts and blanks. -/
structure Named (i : Item) : Prop where
  known : Unit.ofName? (String.ofList i.name) = some i.unit
  filled : i.name ≠ []
  letters : ∀ c ∈ i.name, c.isDigit = false ∧ isBlank c = false ∧ isUnitChar c = true

end Item

/-- A measure of items, added up. -/
def total (measure : Item → Nat) (is : List Item) : Nat := is.foldr (fun i n => measure i + n) 0

theorem total_nil {measure : Item → Nat} : total measure [] = 0 := rfl

theorem total_cons {measure : Item → Nat} {i : Item} {is : List Item} :
    total measure (i :: is) = measure i + total measure is := by
  rw [total, List.foldr_cons, total]

section Reading

variable {d : Duration} {n : Nat} {name rest : List Char}

/-- The digits of a number are read as a count. -/
theorem readAll_digits (empty : Bool) (small : n < Word.bound64) :
    readAll? d (.start empty) (Nat.toDigits 10 n ++ rest) = readAll? d (.count n) rest := by
  have digit : ∀ k < 10, k.digitChar.isDigit = true ∧ digitOf k.digitChar = k := by decide
  induction n using Nat.strongRecOn generalizing rest with
  | ind n ih =>
      rcases Nat.lt_or_ge n 10 with short | long
      · obtain ⟨is_digit, value⟩ := digit n short
        rw [Nat.toDigits_of_lt_base short, List.singleton_append, readAll?, read?, if_pos is_digit,
          value]
      · obtain ⟨is_digit, value⟩ := digit (n % 10) (Nat.mod_lt n (by decide))
        rw [Nat.toDigits_of_base_le (by decide) long, List.append_assoc, List.singleton_append,
          ih (n / 10) (by omega) (by omega), readAll?, read?, if_pos is_digit, value,
          Nat.div_add_mod', bounded_of_lt small]
        rfl

/-- Letters after a count are read as a name. -/
theorem readAll_letters (filled : name ≠ [])
    (letters : ∀ c ∈ name, c.isDigit = false ∧ isBlank c = false ∧ isUnitChar c = true) :
    readAll? d (.count n) (name ++ rest) = readAll? d (.unit n none name) rest := by
  have more {front back : List Char}
      (letters : ∀ c ∈ back, c.isDigit = false ∧ isBlank c = false ∧ isUnitChar c = true) :
      readAll? d (.unit n none front) (back ++ rest) =
        readAll? d (.unit n none (front ++ back)) rest := by
    induction back generalizing front with
    | nil => rw [List.nil_append, List.append_nil]
    | cons c back ih =>
        obtain ⟨⟨digit, blank, letter⟩, others⟩ := List.forall_mem_cons.mp letters
        rw [List.cons_append, readAll?, read?, digit, blank, letter]
        simp only [Bool.false_eq_true, if_false, if_true]
        rw [ih others, List.append_assoc]
        rfl
  obtain ⟨c, cs, rfl⟩ := List.exists_cons_of_ne_nil filled
  obtain ⟨⟨digit, blank, letter⟩, others⟩ := List.forall_mem_cons.mp letters
  rw [List.cons_append, readAll?, read?, digit, blank, letter]
  simp only [Bool.false_eq_true, if_false, if_true]
  rw [more others]
  rfl

/-- An item ends with the text or before a blank, and its count of units is added. -/
theorem readAll_item {i : Item} (named : i.Named) (small : i.count < Word.bound64) (empty : Bool) :
    readAll? d (.start empty) i.chars = addCount? d i.count i.unit ∧
      ∀ rest, readAll? d (.start empty) (i.chars ++ ' ' :: rest) =
        (addCount? d i.count i.unit).bind fun d => readAll? d (.start false) rest := by
  have added : addItem? d i.count none i.name = addCount? d i.count i.unit := by
    simp only [addItem?, named.known, Option.bind_eq_bind, Option.bind_some]
    exact Option.bind_fun_some _
  constructor
  · have read : readAll? d (.count i.count) (i.name ++ []) = _ :=
      readAll_letters named.filled named.letters
    rw [List.append_nil] at read
    rw [Item.chars, readAll_digits empty small, read, readAll?, added]
  · intro rest
    rw [Item.chars, List.append_assoc, readAll_digits empty small,
      readAll_letters named.filled named.letters, readAll?, read?, added]
    cases addCount? d i.count i.unit with
    | none => rfl
    | some d => rfl

/-- Items with blanks between them are added one after the other. -/
theorem readAll_items {items : List Item} (filled : items ≠ [])
    (named : ∀ i ∈ items, i.Named ∧ i.count < Word.bound64) (empty : Bool) :
    readAll? d (.start empty) ([' '].intercalate (items.map Item.chars)) =
      items.foldlM (fun d i => addCount? d i.count i.unit) d := by
  -- the last item is added where the text ends, the others at the blank that follows them
  induction items generalizing d empty with
  | nil => exact absurd rfl filled
  | cons i items ih =>
      obtain ⟨⟨first, small⟩, others⟩ := List.forall_mem_cons.mp named
      obtain ⟨last, before⟩ := readAll_item (d := d) first small empty
      rw [List.foldlM_cons]
      cases items with
      | nil =>
          rw [List.map_singleton, List.intercalate_singleton, last]
          exact (Option.bind_fun_some _).symm
      | cons j items =>
          rw [List.map_cons, List.map_cons, List.intercalate_cons_cons, List.append_assoc,
            List.singleton_append, before]
          exact congrArg (Option.bind _) (funext fun d => ih (List.cons_ne_nil _ _) others false)

/-- Items add up to their length as long as the sum fits. -/
theorem foldlM_items {items : List Item}
    (below : ∀ i ∈ items, i.count * i.unit.nanos < nanosPerSecond)
    (fits : FitsWord ⟨d.nanos + total Item.length items⟩) :
    items.foldlM (fun d i => addCount? d i.count i.unit) d =
      some ⟨d.nanos + total Item.length items⟩ := by
  induction items generalizing d with
  | nil => rfl
  | cons i items ih =>
      obtain ⟨first, others⟩ := List.forall_mem_cons.mp below
      rw [total_cons, ← Nat.add_assoc] at fits ⊢
      have first_fits : FitsWord ⟨d.nanos + i.length⟩ := by
        refine Nat.lt_of_le_of_lt (Nat.div_le_div_right ?_) fits
        exact Nat.le_add_right _ _
      rw [List.foldlM_cons, addCount_of_fits first first_fits]
      exact @ih ⟨d.nanos + i.length⟩ others fits

end Reading

/-! ## Durations that are written -/

/-- The items of a duration, those of zero counts among them. -/
def items (d : Duration) : List Item :=
  let s := d.seconds
  let inYear := s % 31557600
  let inMonth := inYear % 2630016
  let inDay := inMonth % 86400
  let n := d.subsecond
  let word (count : Nat) (unit : Unit) (name : String) : Item :=
    ⟨count, unit, (name ++ (if 1 < count then "s" else "")).toList⟩
  [word (s / 31557600) .year "year", word (inYear / 2630016) .month "month",
    word (inMonth / 86400) .day "day", ⟨inDay / 3600, .hour, ['h']⟩,
    ⟨inDay % 3600 / 60, .minute, ['m']⟩, ⟨inDay % 60, .second, ['s']⟩,
    ⟨n / 1000000, .milli, ['m', 's']⟩, ⟨n / 1000 % 1000, .micro, ['u', 's']⟩,
    ⟨n % 1000, .nano, ['n', 's']⟩]

/-- The items that are written. -/
def shownItems (d : Duration) : List Item := d.items.filter (·.count ≠ 0)

/-- An item is written unless its count is zero. -/
theorem chars_of_item (count : Nat) (unit : Unit) (name : String) :
    (item count name).map String.toList =
      ([⟨count, unit, name.toList⟩].filter fun i : Item => i.count ≠ 0).map Item.chars := by
  rw [item]
  split
  · next zero => simp [zero]
  · next positive => simp [positive, Item.chars]

theorem chars_of_wordItem (count : Nat) (unit : Unit) (word : String) :
    (wordItem count word).map String.toList =
      ([⟨count, unit, (word ++ (if 1 < count then "s" else "")).toList⟩].filter
        fun i : Item => i.count ≠ 0).map Item.chars := by
  rw [wordItem]
  split
  · next zero => simp [zero]
  · next positive => simp [positive, Item.chars]

theorem toText_of_ne_zero {d : Duration} (positive : d.nanos ≠ 0) :
    d.toText.toList = [' '].intercalate (d.shownItems.map Item.chars) := by
  rw [toText, if_neg positive]
  simp only [String.toList_intercalate, List.map_append]
  rw [chars_of_wordItem _ .year "year", chars_of_wordItem _ .month "month",
    chars_of_wordItem _ .day "day", chars_of_item _ .hour "h", chars_of_item _ .minute "m",
    chars_of_item _ .second "s", chars_of_item _ .milli "ms", chars_of_item _ .micro "us",
    chars_of_item _ .nano "ns"]
  simp only [← List.map_append, ← List.filter_append]
  rfl

/-- Whole seconds and nanoseconds of items add up apart. -/
theorem total_length (is : List Item) :
    total Item.length is = total (fun i => i.count * i.unit.seconds) is * nanosPerSecond +
      total (fun i => i.count * i.unit.nanos) is := by
  induction is with
  | nil => rfl
  | cons i is ih =>
      simp only [total_cons, ih, Item.length, Unit.length]
      ring

/-- Counts of ever smaller units and a rest add up. -/
theorem mixed_radix {s a b c rest : Nat} (last : rest = s % a % b % c) :
    s / a * a + (s % a / b * b + (s % a % b / c * c + rest)) = s := by
  rw [last, Nat.div_add_mod', Nat.div_add_mod', Nat.div_add_mod']

/-- The items add up to the duration. -/
theorem total_items (d : Duration) : total Item.length d.items = d.nanos := by
  have within_day (t x y z : Nat) : t / 3600 * 3600 + (t % 3600 / 60 * 60 +
      (t % 60 * 1 + (x * 0 + (y * 0 + (z * 0 + 0))))) = t := by
    omega
  have within_second (n : Nat) :
      n / 1000000 * 1000000 + (n / 1000 % 1000 * 1000 + (n % 1000 * 1 + 0)) = n := by
    omega
  have whole : total (fun i => i.count * i.unit.seconds) d.items = d.seconds := by
    simp only [items, total_cons, total_nil, Unit.seconds]
    exact mixed_radix (within_day _ _ _ _)
  have below : total (fun i => i.count * i.unit.nanos) d.items = d.subsecond := by
    simp only [items, total_cons, total_nil, Unit.nanos, Nat.mul_zero, Nat.zero_add]
    exact within_second _
  rw [total_length, whole, below]
  exact congrArg Duration.nanos (ofParts_seconds_subsecond d)

/-- The items that are written add up to the duration. -/
theorem total_shownItems (d : Duration) : total Item.length d.shownItems = d.nanos := by
  have skipped (is : List Item) :
      total Item.length (is.filter (·.count ≠ 0)) = total Item.length is := by
    induction is with
    | nil => rfl
    | cons i is ih =>
        by_cases zero : i.count = 0
        · rw [List.filter_cons_of_neg (by simpa using zero), ih, total_cons, Item.length, zero,
            Nat.zero_mul, Nat.zero_add]
        · rw [List.filter_cons_of_pos (by simpa using zero), total_cons, total_cons, ih]
  rw [shownItems, skipped, total_items]

/-- The names that are written are those of their units. -/
theorem named_of_name {count : Nat} {unit : Unit} {name : List Char}
    (known : Unit.ofName? (String.ofList name) = some unit) (filled : name ≠ [])
    (letters : (name.all fun c => !c.isDigit && !isBlank c && isUnitChar c) = true) :
    (⟨count, unit, name⟩ : Item).Named := by
  refine ⟨known, filled, fun c mem => ?_⟩
  have letter := List.all_eq_true.mp letters c mem
  simpa [and_assoc] using letter

theorem named_of_word {count : Nat} {unit : Unit} {word : String}
    (one : (⟨count, unit, word.toList⟩ : Item).Named)
    (many : (⟨count, unit, (word ++ "s").toList⟩ : Item).Named) :
    (⟨count, unit, (word ++ (if 1 < count then "s" else "")).toList⟩ : Item).Named := by
  split
  · exact many
  · rwa [String.append_empty]

theorem items_named (d : Duration) : ∀ i ∈ d.items, i.Named := by
  simp only [items, List.forall_mem_cons]
  refine ⟨named_of_word (named_of_name rfl (by decide) rfl) (named_of_name rfl (by decide) rfl),
    named_of_word (named_of_name rfl (by decide) rfl) (named_of_name rfl (by decide) rfl),
    named_of_word (named_of_name rfl (by decide) rfl) (named_of_name rfl (by decide) rfl),
    named_of_name rfl (by decide) rfl, named_of_name rfl (by decide) rfl,
    named_of_name rfl (by decide) rfl, named_of_name rfl (by decide) rfl,
    named_of_name rfl (by decide) rfl, named_of_name rfl (by decide) rfl, ?_⟩
  exact fun i mem => absurd mem List.not_mem_nil

/-- Counts are within their bounds: those of whole seconds are at most all of these, and those below
a second at most its nanoseconds. -/
theorem items_bounded {d : Duration} (fits : FitsWord d) :
    ∀ i ∈ d.items, i.count < Word.bound64 ∧ i.count * i.unit.nanos < nanosPerSecond := by
  have whole {count : Nat} {unit : Unit} (most : count ≤ d.seconds) (none : unit.nanos = 0) :
      count < Word.bound64 ∧ count * unit.nanos < nanosPerSecond := by
    refine ⟨Nat.lt_of_le_of_lt most fits, ?_⟩
    rw [none, Nat.mul_zero]
    decide
  have below_second : d.subsecond < nanosPerSecond := Nat.mod_lt _ (by decide)
  have part {count : Nat} {unit : Unit} (some : 1 ≤ unit.nanos)
      (most : count * unit.nanos ≤ d.subsecond) :
      count < Word.bound64 ∧ count * unit.nanos < nanosPerSecond := by
    have small := Nat.lt_of_le_of_lt most below_second
    refine ⟨?_, small⟩
    exact Nat.lt_of_le_of_lt (Nat.le_mul_of_pos_right count some) (Nat.lt_trans small (by decide))
  have year := Nat.mod_le d.seconds 31557600
  have month := Nat.le_trans (Nat.mod_le (d.seconds % 31557600) 2630016) year
  have day := Nat.le_trans (Nat.mod_le (d.seconds % 31557600 % 2630016) 86400) month
  have hour := Nat.le_trans (Nat.mod_le (d.seconds % 31557600 % 2630016 % 86400) 3600) day
  simp only [items, List.forall_mem_cons]
  refine ⟨whole (Nat.div_le_self _ _) rfl, whole (Nat.le_trans (Nat.div_le_self _ _) year) rfl,
    whole (Nat.le_trans (Nat.div_le_self _ _) month) rfl,
    whole (Nat.le_trans (Nat.div_le_self _ _) day) rfl,
    whole (Nat.le_trans (Nat.div_le_self _ _) hour) rfl,
    whole (Nat.le_trans (Nat.mod_le _ _) day) rfl, part (by decide) (Nat.div_mul_le_self _ _),
    part (by decide) ?_, part (by decide) ?_, fun i mem => absurd mem List.not_mem_nil⟩
  · exact Nat.le_trans (Nat.mul_le_mul_right _ (Nat.mod_le _ _)) (Nat.div_mul_le_self _ _)
  · rw [Unit.nanos, Nat.mul_one]
    exact Nat.mod_le _ _

/-- A duration whose whole seconds fit into a word is read back. -/
theorem ofText_toText {d : Duration} (fits : FitsWord d) : ofText? d.toText = some d := by
  by_cases zero : d.nanos = 0
  · obtain rfl : d = Duration.zero := by
      cases d
      exact congrArg Duration.mk zero
    rfl
  · have shown {i : Item} (mem : i ∈ d.shownItems) : i ∈ d.items := List.mem_of_mem_filter mem
    have length_eq : (⟨Duration.zero.nanos + total Item.length d.shownItems⟩ : Duration) = d := by
      rw [total_shownItems, Duration.zero, Nat.zero_add]
    have filled : d.shownItems ≠ [] := by
      intro none
      have length_zero := total_shownItems d
      rw [none, total_nil] at length_zero
      exact zero length_zero.symm
    have read : readAll? Duration.zero (.start true) d.toText.toList = some d := by
      rw [toText_of_ne_zero zero, readAll_items filled (fun i mem =>
        ⟨items_named d i (shown mem), (items_bounded fits i (shown mem)).1⟩),
        foldlM_items (fun i mem => (items_bounded fits i (shown mem)).2) (by rwa [length_eq]),
        length_eq]
    have more : d.toText ≠ "0" := by
      intro same
      rw [same] at read
      cases read
    rw [ofText?, if_neg more, read]

end Duration

end LoadHarness
