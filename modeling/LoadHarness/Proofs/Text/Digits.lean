import Mathlib
import LoadHarness.Binary64.Text
import LoadHarness.Net.Address

/-!
# Runs of characters and digits of numbers

A run of characters ends where another kind of character begins. The digits of a number are read
back as the number, in base ten and in base sixteen, and a number but zero does not begin with
the digit zero.
-/

namespace LoadHarness

/-! ## Runs of characters -/

section Runs

variable {p : Char → Bool} {cs rest : List Char}

/-- A run ends before a character of another kind. -/
theorem span_append (all : ∀ c ∈ cs, p c = true) (stop : ∀ c ∈ rest.head?, p c = false) :
    (cs ++ rest).span p = (cs, rest) := by
  rw [List.span_eq_takeWhile_dropWhile, List.takeWhile_append_of_pos all,
    List.dropWhile_append_of_pos all]
  cases rest with
  | nil => simp
  | cons c rest => simp [stop c rfl]

/-- A run that nothing ends is the whole. -/
theorem span_all (all : ∀ c ∈ cs, p c = true) : cs.span p = (cs, []) := by
  have whole : (cs ++ []).span p = (cs, []) := span_append all (by simp)
  rwa [List.append_nil] at whole

/-- Of a run without a separator, the separator is the end. -/
theorem span_until {separator : Char} (apart : separator ∉ cs) (rest : List Char) :
    (cs ++ separator :: rest).span (· ≠ separator) = (cs, separator :: rest) := by
  refine span_append (fun c mem => decide_eq_true fun same => apart (same ▸ mem)) ?_
  intro c head
  cases head
  exact decide_eq_false fun unlike => unlike rfl

/-- A run without a separator is whole. -/
theorem span_apart {separator : Char} (apart : separator ∉ cs) :
    cs.span (· ≠ separator) = (cs, []) :=
  span_all fun _ mem => decide_eq_true fun same => apart (same ▸ mem)

end Runs

/-! ## Base ten -/

@[simp] theorem toList_toString (n : Nat) : (toString n).toList = Nat.toDigits 10 n := by
  rw [Nat.toString_eq_ofList_toDigits, String.toList_ofList]

@[simp] theorem decimalValue_toDigits (n : Nat) : decimalValue (Nat.toDigits 10 n) = n := by
  have fold (cs : List Char) (start : Nat) :
      cs.foldl (fun n c => n * 10 + (c.toNat - '0'.toNat)) start =
        Nat.ofDigitChars 10 cs start := by
    simp only [Nat.ofDigitChars, Nat.mul_comm]
  rw [decimalValue, fold, Nat.ofDigitChars_ten_toDigits]

theorem Decimal.valueOf_eq (cs : List Char) : valueOf cs = decimalValue cs := rfl

@[simp] theorem isEmpty_toDigits (b n : Nat) : (Nat.toDigits b n).isEmpty = false :=
  List.isEmpty_eq_false_iff.mpr Nat.toDigits_ne_nil

theorem isDigit_of_mem_digits {n : Nat} {c : Char} (mem : c ∈ Nat.toDigits 10 n) :
    c.isDigit = true :=
  Nat.isDigit_of_mem_toDigits (by decide) (Nat.le_refl 10) mem

@[simp] theorem all_isDigit_toDigits (n : Nat) :
    (Nat.toDigits 10 n).all Char.isDigit = true :=
  List.all_eq_true.mpr fun _ => isDigit_of_mem_digits

/-- Only zero begins with the digit zero. -/
theorem eq_zero_of_head_toDigits {n : Nat} (head : (Nat.toDigits 10 n).head? = some '0') :
    n = 0 := by
  induction n using Nat.strongRecOn with
  | ind n ih =>
      rcases Nat.lt_or_ge n 10 with small | large
      · rw [Nat.toDigits_of_lt_base small] at head
        have digit := Option.some.inj head
        have none : ∀ k < 10, k.digitChar = '0' → k = 0 := by decide
        exact none n small digit
      · rw [Nat.toDigits_of_base_le (by decide) large,
          List.head?_append_of_ne_nil _ Nat.toDigits_ne_nil] at head
        have smaller : n / 10 < n := by omega
        have := ih (n / 10) smaller head
        omega

theorem SocketAddress.below_toDigits {bound n : Nat} (small : n < bound) :
    below? bound (Nat.toDigits 10 n) = some n := by
  simp [below?, small]

/-! ## Base sixteen -/

/-- The digits of base sixteen are read back one by one. -/
theorem hexDigits_read (n : Nat) :
    ∃ ds, (hexDigits n).mapM Ipv6.hexDigit? = some ds ∧
      ds.foldl (fun n d => n * 16 + d) 0 = n := by
  have digit : ∀ d < 16, Ipv6.hexDigit? d.digitChar = some d := by decide
  induction n using Nat.strongRecOn with
  | ind n ih =>
      rcases Nat.lt_or_ge n 16 with small | large
      · refine ⟨[n], ?_, by simp⟩
        rw [hexDigits, Nat.toDigits_of_lt_base small, List.mapM_cons, digit n small]
        rfl
      · obtain ⟨ds, read, value⟩ := ih (n / 16) (by omega)
        have last := digit (n % 16) (Nat.mod_lt n (by decide))
        refine ⟨ds ++ [n % 16], ?_, ?_⟩
        · rw [hexDigits] at read ⊢
          rw [Nat.toDigits_of_base_le (by decide) large, List.mapM_append, read, List.mapM_cons,
            last]
          rfl
        · rw [List.foldl_append, value]
          exact Nat.div_add_mod' n 16

theorem Ipv6.group_hexDigits {n : Nat} (small : n < 65536) : group? (hexDigits n) = some n := by
  obtain ⟨ds, read, value⟩ := hexDigits_read n
  have short : (hexDigits n).length ≤ 4 :=
    (Nat.length_toDigits_le_iff (by decide) (by decide)).mpr small
  have some : (hexDigits n).isEmpty = false := isEmpty_toDigits 16 n
  rw [group?, if_neg (by simp [some, Nat.not_lt.mpr short]), read, Option.map_some, value]

/-- Digits of base sixteen separate nothing. -/
theorem isAlphanum_of_mem_hexDigits {n : Nat} {c : Char} (mem : c ∈ hexDigits n) :
    c.isAlphanum = true := by
  have digit : ∀ d < 16, d.digitChar.isAlphanum = true := by decide
  induction n using Nat.strongRecOn with
  | ind n ih =>
      rcases Nat.lt_or_ge n 16 with small | large
      · rw [hexDigits, Nat.toDigits_of_lt_base small, List.mem_singleton] at mem
        rw [mem]
        exact digit n small
      · rw [hexDigits, Nat.toDigits_of_base_le (by decide) large, List.mem_append,
          List.mem_singleton] at mem
        rcases mem with before | rfl
        · exact ih (n / 16) (by omega) before
        · exact digit _ (Nat.mod_lt n (by decide))

end LoadHarness
