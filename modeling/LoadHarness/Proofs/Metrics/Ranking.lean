import Mathlib
import LoadHarness.Proofs.Metrics.Accumulation
import LoadHarness.Proofs.Metrics.Bucket

/-!
# Ranks among latencies

The buckets of a trend, each repeated as often as it was counted, are the recorded latencies in
ascending order, each as the lowest value of its bucket. To go through the running counts up to a
rank is to look up the place of that rank in this order. So two trends compare rank by rank if
their latencies can be paired so that each is at most its partner.
-/

namespace LoadHarness

/-! ## Ascending lists -/

section

variable {l l' : List Nat}

/-- In ascending order the first places are taken by the numbers up to a bound. -/
theorem lt_countP_iff (sorted : l.Pairwise (· ≤ ·)) {i : Nat} (h : i < l.length) (v : Nat) :
    i < l.countP (· ≤ v) ↔ l[i] ≤ v := by
  induction l generalizing i with
  | nil => simp at h
  | cons a rest ih =>
      obtain ⟨least, sorted⟩ := List.pairwise_cons.mp sorted
      by_cases small : a ≤ v
      · cases i with
        | zero => simp [small]
        | succ i => simpa [small] using ih sorted (Nat.lt_of_succ_lt_succ h)
      · have none : (a :: rest).countP (· ≤ v) = 0 := by
          rw [List.countP_eq_zero]
          intro b mem
          rcases List.mem_cons.mp mem with rfl | later
          · simpa using small
          · have above := least b later
            simp only [decide_eq_true_eq]
            omega
        have above : a ≤ (a :: rest)[i] := by
          cases i with
          | zero => exact Nat.le_refl a
          | succ i => exact least _ (List.getElem_mem _)
        rw [none]
        omega

/-- Of two lists that can be paired in order, the lesser has as many numbers up to any bound. -/
theorem countP_le_of_forall₂ (paired : List.Forall₂ (· ≤ ·) l l') (v : Nat) :
    l'.countP (· ≤ v) ≤ l.countP (· ≤ v) := by
  induction paired with
  | nil => exact Nat.le_refl 0
  | cons le _ ih =>
      simp only [List.countP_cons, decide_eq_true_eq]
      split <;> split <;> omega

/-- Of two lists that can be paired in order, each is at most the other at every place once both
are ascending. -/
theorem getElem_le_of_forall₂ {m m' : List Nat} (paired : List.Forall₂ (· ≤ ·) m m')
    (perm : l.Perm m) (perm' : l'.Perm m') (sorted : l.Pairwise (· ≤ ·))
    (sorted' : l'.Pairwise (· ≤ ·)) {i : Nat} (h : i < l.length) (h' : i < l'.length) :
    l[i] ≤ l'[i] := by
  rw [← lt_countP_iff sorted h, perm.countP_eq]
  refine Nat.lt_of_lt_of_le ?_ (countP_le_of_forall₂ paired l'[i])
  rw [← perm'.countP_eq]
  exact (lt_countP_iff sorted' h' _).mpr (Nat.le_refl _)

end

namespace Trend

/-- The trend of a list of latencies. -/
def ofLatencies (ls : List Duration) : Trend := ls.foldl record empty

theorem ofLatencies_perm {ls ls' : List Duration} (perm : ls.Perm ls') :
    ofLatencies ls = ofLatencies ls' :=
  perm.foldl_eq empty

theorem ofLatencies_cons (l : Duration) (ls : List Duration) :
    ofLatencies (l :: ls) = (ofLatencies ls).record l := by
  rw [ofLatencies_perm (List.perm_append_singleton l ls).symm]
  exact List.foldl_concat ..

/-! ## The order of buckets -/

section

variable {low rank : Nat} {buckets : List (Nat × Nat)} {t : Trend}

/-- Buckets are ascending, start where buckets start, and none is empty. -/
structure Ordered (buckets : List (Nat × Nat)) : Prop where
  ascending : buckets.Pairwise fun b b' => b.1 < b'.1
  starts : ∀ b ∈ buckets, Starts b.1
  filled : ∀ b ∈ buckets, 0 < b.2

theorem Ordered.tail {b : Nat × Nat} (ordered : Ordered (b :: buckets)) : Ordered buckets where
  ascending := ordered.ascending.of_cons
  starts b' mem := ordered.starts b' (List.mem_cons_of_mem b mem)
  filled b' mem := ordered.filled b' (List.mem_cons_of_mem b mem)

theorem Ordered.of_append {later : List (Nat × Nat)} (ordered : Ordered (buckets ++ later)) :
    Ordered buckets ∧ Ordered later := by
  obtain ⟨front, back, -⟩ := List.pairwise_append.mp ordered.ascending
  constructor
  · exact ⟨front, fun b mem => ordered.starts b (List.mem_append_left later mem),
      fun b mem => ordered.filled b (List.mem_append_left later mem)⟩
  · exact ⟨back, fun b mem => ordered.starts b (List.mem_append_right buckets mem),
      fun b mem => ordered.filled b (List.mem_append_right buckets mem)⟩

theorem Ordered.count_pos (ordered : Ordered buckets) (some_ : buckets ≠ []) :
    0 < count ⟨buckets⟩ := by
  obtain ⟨first, rest, rfl⟩ := List.exists_cons_of_ne_nil some_
  exact Nat.add_pos_left (ordered.filled first List.mem_cons_self) _

/-- A new value opens its bucket or is added to one. -/
theorem mem_insert {b : Nat × Nat} (mem : b ∈ insert low buckets) :
    0 < b.2 ∧ b.1 = low ∨ b ∈ buckets := by
  induction buckets with
  | nil =>
      obtain rfl := List.mem_singleton.mp mem
      exact .inl ⟨Nat.one_pos, rfl⟩
  | cons first rest ih =>
      obtain ⟨key, count⟩ := first
      rw [insert] at mem
      split at mem
      · rcases List.mem_cons.mp mem with rfl | old
        · exact .inl ⟨Nat.one_pos, rfl⟩
        · exact .inr old
      split at mem
      · next same =>
        rcases List.mem_cons.mp mem with rfl | old
        · exact .inl ⟨Nat.succ_pos count, same.symm⟩
        · exact .inr (List.mem_cons_of_mem _ old)
      · rcases List.mem_cons.mp mem with rfl | later
        · exact .inr List.mem_cons_self
        · exact (ih later).imp_right (List.mem_cons_of_mem _)

theorem Ordered.insert (ordered : Ordered buckets) (starts : Starts low) :
    Ordered (insert low buckets) where
  starts b mem := by
    rcases mem_insert mem with ⟨-, same⟩ | old
    · exact same ▸ starts
    · exact ordered.starts b old
  filled b mem := by
    rcases mem_insert mem with ⟨some, -⟩ | old
    · exact some
    · exact ordered.filled b old
  ascending := by
    induction buckets with
    | nil => exact List.pairwise_singleton _ _
    | cons first rest ih =>
        obtain ⟨key, count⟩ := first
        obtain ⟨least, ascending⟩ := List.pairwise_cons.mp ordered.ascending
        rw [Trend.insert]
        split
        · next before =>
          refine List.pairwise_cons.mpr ⟨fun b mem => ?_, ordered.ascending⟩
          rcases List.mem_cons.mp mem with rfl | later
          · exact before
          · exact Nat.lt_trans before (least b later)
        split
        · exact List.pairwise_cons.mpr ⟨least, ascending⟩
        · next notBefore other =>
          refine List.pairwise_cons.mpr ⟨fun b mem => ?_, ih ordered.tail⟩
          rcases mem_insert mem with ⟨-, same⟩ | old
          · change key < b.1
            omega
          · exact least b old

/-- What buckets hold, each value as the lowest of its bucket. -/
def spread (buckets : List (Nat × Nat)) : List Nat :=
  buckets.flatMap fun b => List.replicate b.2 b.1

theorem spread_cons (key count : Nat) (rest : List (Nat × Nat)) :
    spread ((key, count) :: rest) = List.replicate count key ++ spread rest := rfl

theorem length_spread (buckets : List (Nat × Nat)) : (spread buckets).length = count ⟨buckets⟩ := by
  induction buckets with
  | nil => rfl
  | cons first rest ih =>
      rw [spread_cons, List.length_append, List.length_replicate, ih]
      rfl

theorem spread_insert (low : Nat) (buckets : List (Nat × Nat)) :
    (spread (insert low buckets)).Perm (low :: spread buckets) := by
  induction buckets with
  | nil => exact .refl _
  | cons first rest ih =>
      obtain ⟨key, count⟩ := first
      rw [insert]
      split
      · exact .refl _
      split
      · next same =>
        subst same
        exact .refl _
      · rw [spread_cons, spread_cons]
        exact (ih.append_left _).trans List.perm_middle

theorem Ordered.spread (ordered : Ordered buckets) : (spread buckets).Pairwise (· ≤ ·) := by
  induction buckets with
  | nil => exact .nil
  | cons first rest ih =>
      obtain ⟨least, -⟩ := List.pairwise_cons.mp ordered.ascending
      refine List.pairwise_append.mpr ⟨?_, ih ordered.tail, ?_⟩
      · exact List.pairwise_replicate.mpr (.inr (Nat.le_refl _))
      · intro a mem b mem'
        obtain ⟨bucket, later, held⟩ := List.mem_flatMap.mp mem'
        rw [List.eq_of_mem_replicate mem, List.eq_of_mem_replicate held]
        exact Nat.le_of_lt (least bucket later)

/-! ## Looking up a rank -/

theorem getElem?_spread_cons (key count : Nat) (rest : List (Nat × Nat)) (i : Nat) :
    (spread ((key, count) :: rest))[i]? =
      if i < count then some key else (spread rest)[i - count]? := by
  rw [spread_cons, List.getElem?_append, List.length_replicate]
  split
  · next here => exact List.getElem?_replicate_of_lt here
  · rfl

/-- The bucket at a rank is at the place of that rank; beyond the last place it is zero. -/
theorem bucketAt_eq_getD (positive : 1 ≤ rank) :
    bucketAt rank buckets = (Trend.spread buckets)[rank - 1]?.getD 0 := by
  induction buckets generalizing rank with
  | nil => rfl
  | cons first rest ih =>
      obtain ⟨key, count⟩ := first
      rw [bucketAt, getElem?_spread_cons]
      by_cases within : rank ≤ count
      · rw [if_pos within, if_pos (by omega)]
        rfl
      · have place : rank - count - 1 = rank - 1 - count := by omega
        rw [if_neg within, if_neg (by omega), ih (by omega), place]

/-- There is a place for every rank up to the last one. -/
theorem getElem?_spread (positive : 1 ≤ rank) (inside : rank ≤ t.count) :
    (Trend.spread t.buckets)[rank - 1]? = some (bucketAt rank t.buckets) := by
  have range : rank - 1 < (Trend.spread t.buckets).length := by
    rw [length_spread]
    exact Nat.sub_one_lt_of_le positive inside
  rw [bucketAt_eq_getD positive, List.getElem?_eq_getElem range]
  rfl

/-- Beyond the last rank there is nothing to find. -/
theorem bucketAt_of_beyond (beyond : t.count < rank) : bucketAt rank t.buckets = 0 := by
  have outside : (Trend.spread t.buckets).length ≤ rank - 1 := by
    rw [length_spread]
    exact Nat.le_sub_one_of_lt beyond
  rw [bucketAt_eq_getD (Nat.zero_lt_of_lt beyond), List.getElem?_eq_none outside]
  rfl

/-- The bucket at a rank is one of the buckets. -/
theorem exists_bucketAt (positive : 1 ≤ rank) (inside : rank ≤ t.count) :
    ∃ b ∈ t.buckets, b.1 = bucketAt rank t.buckets := by
  obtain ⟨b, mem, held⟩ :=
    List.mem_flatMap.mp (List.mem_of_getElem? (getElem?_spread positive inside))
  exact ⟨b, mem, (List.eq_of_mem_replicate held).symm⟩

/-- The first rank has the first bucket. -/
theorem bucketAt_one {key count : Nat} {rest : List (Nat × Nat)}
    (ordered : Ordered ((key, count) :: rest)) : bucketAt 1 ((key, count) :: rest) = key := by
  have filled : 1 ≤ count := ordered.filled _ List.mem_cons_self
  rw [bucketAt, if_pos filled]

/-- The last rank has the last bucket. -/
theorem bucketAt_count (ordered : Ordered buckets) {last : Nat × Nat}
    (found : buckets.getLast? = some last) : bucketAt (count ⟨buckets⟩) buckets = last.1 := by
  induction buckets with
  | nil => cases found
  | cons first rest ih =>
      obtain ⟨key, here⟩ := first
      have total : count ⟨(key, here) :: rest⟩ = here + count ⟨rest⟩ := rfl
      rw [bucketAt, total]
      cases rest with
      | nil =>
          obtain rfl := Option.some.inj found
          exact if_pos (Nat.le_refl here)
      | cons second later =>
          have more := ordered.tail.count_pos (List.cons_ne_nil second later)
          rw [List.getLast?_cons_cons] at found
          rw [if_neg (by omega), Nat.add_sub_cancel_left]
          exact ih ordered.tail found

end

/-! ## Recorded latencies -/

section

variable {ls ls' : List Duration}

theorem ordered_ofLatencies (ls : List Duration) : Ordered (ofLatencies ls).buckets := by
  induction ls with
  | nil => exact ⟨.nil, nofun, nofun⟩
  | cons l ls ih =>
      rw [ofLatencies_cons]
      exact ih.insert (starts_lowest _)

/-- One latency over and over fills one bucket. -/
theorem buckets_replicate (l : Duration) (n : Nat) :
    (ofLatencies (List.replicate (n + 1) l)).buckets = [(lowest (counted l), n + 1)] := by
  induction n with
  | zero => rfl
  | succ n ih =>
      rw [List.replicate_succ, ofLatencies_cons, record, ih, insert, if_neg (Nat.lt_irrefl _),
        if_pos rfl]

/-- The buckets hold the latencies, each as the lowest value of its bucket. -/
theorem spread_ofLatencies (ls : List Duration) :
    (spread (ofLatencies ls).buckets).Perm (ls.map fun l => lowest (counted l)) := by
  induction ls with
  | nil => exact .nil
  | cons l ls ih =>
      rw [ofLatencies_cons]
      exact (spread_insert _ _).trans (ih.cons _)

theorem count_ofLatencies (ls : List Duration) : (ofLatencies ls).count = ls.length := by
  rw [← List.length_map fun l => lowest (counted l), ← (spread_ofLatencies ls).length_eq]
  exact (length_spread _).symm

/-- Only latencies fill buckets. -/
theorem exists_of_mem {b : Nat × Nat} (mem : b ∈ (ofLatencies ls).buckets) :
    ∃ l ∈ ls, lowest (counted l) = b.1 := by
  have held : b.1 ∈ spread (ofLatencies ls).buckets := by
    have filled := (ordered_ofLatencies ls).filled b mem
    exact List.mem_flatMap.mpr ⟨b, mem, List.mem_replicate.mpr ⟨Nat.ne_of_gt filled, rfl⟩⟩
  exact List.mem_map.mp ((spread_ofLatencies ls).mem_iff.mp held)

theorem buckets_ne_nil (some_ : ls ≠ []) : (ofLatencies ls).buckets ≠ [] := by
  intro none
  have total := count_ofLatencies ls
  rw [count, none] at total
  exact some_ (List.length_eq_zero_iff.mp total.symm)

/-- Latencies as they are counted, in ascending order. -/
def ascending (ls : List Duration) : List Nat := (ls.map counted).insertionSort (· ≤ ·)

/-- The order of the buckets is the order of the latencies. -/
theorem spread_eq_ascending (ls : List Duration) :
    spread (ofLatencies ls).buckets = (ascending ls).map lowest := by
  have sorted : ((ascending ls).map lowest).Pairwise (· ≤ ·) :=
    List.pairwise_map.mpr ((List.pairwise_insertionSort _ _).imp lowest_mono)
  have same : (spread (ofLatencies ls).buckets).Perm ((ascending ls).map lowest) := by
    refine (spread_ofLatencies ls).trans ?_
    have apart : (ls.map fun l => lowest (counted l)) = (ls.map counted).map lowest := by
      rw [List.map_map, Function.comp_def]
    rw [apart]
    exact ((List.perm_insertionSort _ _).map lowest).symm
  exact List.Perm.eq_of_pairwise (fun _ _ _ _ => Nat.le_antisymm) (ordered_ofLatencies ls).spread
    sorted same

/-- A latency is counted in no later bucket than another. -/
def NotLater (l l' : Duration) : Prop := lowest (counted l) ≤ lowest (counted l')

theorem ne_nil_of_paired (paired : List.Forall₂ NotLater ls ls') (some_ : ls ≠ []) : ls' ≠ [] := by
  rintro rfl
  cases paired
  exact some_ rfl

/-- If every latency is in no later bucket than its partner, so is that of every rank. -/
theorem bucketAt_le_of_forall₂ (paired : List.Forall₂ NotLater ls ls') {rank : Nat}
    (positive : 1 ≤ rank) :
    bucketAt rank (ofLatencies ls).buckets ≤ bucketAt rank (ofLatencies ls').buckets := by
  have total : (ofLatencies ls).count = ls.length := count_ofLatencies ls
  have total' : (ofLatencies ls').count = ls.length :=
    (count_ofLatencies ls').trans paired.length_eq.symm
  have lowests : List.Forall₂ (· ≤ ·) (ls.map fun l => lowest (counted l))
      (ls'.map fun l => lowest (counted l)) :=
    List.forall₂_map_left_iff.mpr (List.forall₂_map_right_iff.mpr paired)
  rcases Nat.lt_or_ge ls.length rank with beyond | inside
  · rw [bucketAt_of_beyond (total ▸ beyond)]
    exact Nat.zero_le _
  · have place := getElem?_spread positive (total ▸ inside)
    have place' := getElem?_spread positive (total' ▸ inside)
    obtain ⟨range, same⟩ := List.getElem?_eq_some_iff.mp place
    obtain ⟨range', same'⟩ := List.getElem?_eq_some_iff.mp place'
    rw [← same, ← same']
    exact getElem_le_of_forall₂ lowests (spread_ofLatencies ls) (spread_ofLatencies ls')
      (ordered_ofLatencies ls).spread (ordered_ofLatencies ls').spread range range'

end

end Trend

end LoadHarness
