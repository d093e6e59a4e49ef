import Mathlib
import LoadHarness.Net.Address
import LoadHarness.Proofs.Text.Digits

/-!
# Addresses are read back

An address is read back from its text: four decimal bytes, or eight groups in base sixteen with the
longest run of zero groups left out, or six groups and four bytes. What is read from a text is
within the bounds that this takes.
-/

namespace LoadHarness

/-! ## Parts between separators -/

section Parts

variable {separator : Char} {part rest : List Char} {parts : List (List Char)}

theorem splitChars_apart (apart : separator ∉ part) : splitChars separator part = [part] := by
  induction part with
  | nil => rfl
  | cons c part ih =>
      obtain ⟨unlike, apart⟩ := List.ne_and_not_mem_of_not_mem_cons apart
      rw [splitChars, if_neg (Ne.symm unlike), ih apart]

/-- The first part ends before the first separator. -/
theorem splitChars_append (apart : separator ∉ part) :
    splitChars separator (part ++ separator :: rest) = part :: splitChars separator rest := by
  induction part with
  | nil => rw [List.nil_append, splitChars, if_pos rfl]
  | cons c part ih =>
      obtain ⟨unlike, apart⟩ := List.ne_and_not_mem_of_not_mem_cons apart
      rw [List.cons_append, splitChars, if_neg (Ne.symm unlike), ih apart]

/-- Parts without the separator are split again. -/
theorem splitChars_intercalate (filled : parts ≠ []) (apart : ∀ part ∈ parts, separator ∉ part) :
    splitChars separator ([separator].intercalate parts) = parts := by
  induction parts with
  | nil => exact absurd rfl filled
  | cons part parts ih =>
      obtain ⟨first, others⟩ := List.forall_mem_cons.mp apart
      cases parts with
      | nil => rw [List.intercalate_singleton, splitChars_apart first]
      | cons second parts =>
          rw [List.intercalate_cons_cons, List.append_assoc, List.singleton_append,
            splitChars_append first, ih (List.cons_ne_nil _ _) others]

/-- Joined parts begin with the first one. -/
theorem intercalate_opened (separator : Char) (part : List Char) (parts : List (List Char)) :
    ∃ more, [separator].intercalate (part :: parts) = part ++ more := by
  cases parts with
  | nil => exact ⟨[], by rw [List.intercalate_singleton, List.append_nil]⟩
  | cons second parts => exact ⟨_, by rw [List.intercalate_cons_cons, List.append_assoc]⟩

/-- Joined parts hold what the parts hold, and the separator. -/
theorem not_mem_intercalate {c : Char} (other : c ≠ separator) (apart : ∀ part ∈ parts, c ∉ part) :
    c ∉ [separator].intercalate parts := by
  induction parts with
  | nil => exact List.not_mem_nil
  | cons part parts ih =>
      obtain ⟨first, others⟩ := List.forall_mem_cons.mp apart
      cases parts with
      | nil => rwa [List.intercalate_singleton]
      | cons second parts =>
          rw [List.intercalate_cons_cons, List.mem_append, List.mem_append, List.mem_singleton]
          rintro ((here | mark) | later)
          · exact first here
          · exact other mark
          · exact ih others later

/-- What is written member by member is read back member by member. -/
theorem mapM_map_eq_some {α β : Type} {write : α → β} {read : β → Option α} {xs : List α}
    (back : ∀ x ∈ xs, read (write x) = some x) : (xs.map write).mapM read = some xs := by
  induction xs with
  | nil => rfl
  | cons x xs ih =>
      obtain ⟨first, others⟩ := List.forall_mem_cons.mp back
      rw [List.map_cons, List.mapM_cons, first, ih others]
      rfl

/-- Each member that is read is read from some member. -/
theorem exists_of_mem_mapM {α β : Type} {read : α → Option β} {xs : List α} {ys : List β} {y : β}
    (all : xs.mapM read = some ys) (mem : y ∈ ys) : ∃ x ∈ xs, read x = some y := by
  induction xs generalizing ys with
  | nil =>
      obtain rfl := Option.some.inj all
      cases mem
  | cons x xs ih =>
      simp only [List.mapM_cons, Option.bind_eq_bind, Option.bind_eq_some_iff] at all
      obtain ⟨z, first, zs, others, same⟩ := all
      obtain rfl := Option.some.inj same
      rcases List.mem_cons.mp mem with rfl | later
      · exact ⟨x, List.mem_cons_self, first⟩
      · obtain ⟨w, listed, read⟩ := ih others later
        exact ⟨w, List.mem_cons_of_mem x listed, read⟩

theorem length_of_mapM {α β : Type} {read : α → Option β} {xs : List α} {ys : List β}
    (all : xs.mapM read = some ys) : ys.length = xs.length := by
  induction xs generalizing ys with
  | nil =>
      obtain rfl := Option.some.inj all
      rfl
  | cons x xs ih =>
      simp only [List.mapM_cons, Option.bind_eq_bind, Option.bind_eq_some_iff] at all
      obtain ⟨y, -, zs, others, same⟩ := all
      obtain rfl := Option.some.inj same
      rw [List.length_cons, List.length_cons, ih others]

end Parts

/-! ## Four bytes -/

namespace Ipv4

/-- The number of four bytes. -/
def IsValid (a : Ipv4) : Prop := a.value < Word.bound32

instance (a : Ipv4) : Decidable a.IsValid := inferInstanceAs (Decidable (a.value < Word.bound32))

/-- The bytes of an address, the first one first. -/
def bytes (a : Ipv4) : List Nat :=
  [a.value / 16777216, a.value / 65536 % 256, a.value / 256 % 256, a.value % 256]

theorem bytes_small {a : Ipv4} (valid : a.IsValid) : ∀ b ∈ a.bytes, b < 256 := by
  simp only [IsValid, Word.bound32] at valid
  simp only [bytes, List.forall_mem_cons]
  refine ⟨by omega, by omega, by omega, by omega, fun b mem => absurd mem List.not_mem_nil⟩

theorem ofBytes_bytes (a : Ipv4) :
    ofBytes (a.value / 16777216) (a.value / 65536 % 256) (a.value / 256 % 256) (a.value % 256) =
      a := by
  cases a
  simp only [ofBytes, mk.injEq]
  omega

theorem byte_toDigits {n : Nat} (small : n < 256) : byte? (Nat.toDigits 10 n) = some n := by
  have short : (Nat.toDigits 10 n).length ≤ 3 :=
    (Nat.length_toDigits_le_iff (by decide) (by decide)).mpr (by omega)
  have canonical : ¬ ((Nat.toDigits 10 n).head? = some '0' ∧ (Nat.toDigits 10 n).length ≠ 1) := by
    rintro ⟨head, long⟩
    rw [eq_zero_of_head_toDigits head] at long
    exact long rfl
  rw [byte?, if_neg, decimalValue_toDigits, if_pos small]
  simp [isEmpty_toDigits, Nat.not_lt.mpr short, canonical]

theorem toList_toText (a : Ipv4) :
    a.toText.toList = ['.'].intercalate (a.bytes.map (Nat.toDigits 10)) := by
  simp [toText, bytes]

/-- Digits hold no other marks. -/
theorem mark_not_mem_digits {n : Nat} {mark : Char} (other : mark.isDigit = false) :
    mark ∉ Nat.toDigits 10 n := by
  intro mem
  rw [isDigit_of_mem_digits mem] at other
  cases other

theorem mark_not_mem_toText {a : Ipv4} {mark : Char} (other : mark.isDigit = false)
    (unlike : mark ≠ '.') : mark ∉ a.toText.toList := by
  rw [toList_toText]
  refine not_mem_intercalate unlike fun part mem => ?_
  obtain ⟨n, -, rfl⟩ := List.mem_map.mp mem
  exact mark_not_mem_digits other

theorem ofChars_toText {a : Ipv4} (valid : a.IsValid) : ofChars? a.toText.toList = some a := by
  have small := bytes_small valid
  have parts : splitChars '.' a.toText.toList = a.bytes.map (Nat.toDigits 10) := by
    rw [toList_toText]
    refine splitChars_intercalate (List.cons_ne_nil _ _) fun part mem => ?_
    obtain ⟨n, -, rfl⟩ := List.mem_map.mp mem
    exact mark_not_mem_digits rfl
  have read : (a.bytes.map (Nat.toDigits 10)).mapM byte? = some a.bytes :=
    mapM_map_eq_some fun b mem => byte_toDigits (small b mem)
  rw [ofChars?, parts, read]
  exact congrArg some (ofBytes_bytes a)

theorem lt_of_byte {cs : List Char} {n : Nat} (read : byte? cs = some n) : n < 256 := by
  rw [byte?] at read
  split at read
  · cases read
  split at read
  · next small => exact Option.some.inj read ▸ small
  · cases read

/-- What is read fits into four bytes. -/
theorem isValid_of_ofChars {cs : List Char} {a : Ipv4} (read : ofChars? cs = some a) :
    a.IsValid := by
  rw [ofChars?] at read
  split at read
  · next w x y z parts =>
    obtain rfl := Option.some.inj read
    have small (n : Nat) (mem : n ∈ [w, x, y, z]) : n < 256 := by
      obtain ⟨part, -, one⟩ := exists_of_mem_mapM parts mem
      exact lt_of_byte one
    simp only [List.forall_mem_cons] at small
    obtain ⟨first, second, third, fourth, -⟩ := small
    simp only [IsValid, ofBytes, Word.bound32]
    omega
  · cases read

end Ipv4

/-! ## Eight groups -/

namespace Ipv6

/-- Eight groups of two bytes. -/
structure IsValid (a : Ipv6) : Prop where
  eight : a.groups.length = 8
  small : ∀ g ∈ a.groups, g < 65536

/-- Digits of base sixteen hold no colon and no point. -/
theorem mark_not_mem {n : Nat} {mark : Char} (other : mark.isAlphanum = false) :
    mark ∉ hexDigits n := by
  intro mem
  rw [isAlphanum_of_mem_hexDigits mem] at other
  cases other

theorem toList_groupTexts (gs : List Nat) :
    (groupTexts gs).toList = [':'].intercalate (gs.map hexDigits) := by
  simp [groupTexts, Function.comp_def]

theorem groups_hexDigits {gs : List Nat} (small : ∀ g ∈ gs, g < 65536) :
    groups? (gs.map hexDigits) = some gs := by
  induction gs with
  | nil => rfl
  | cons g gs ih =>
      obtain ⟨first, others⟩ := List.forall_mem_cons.mp small
      cases gs with
      | nil => rw [List.map_singleton, groups?, group_hexDigits first]
      | cons second gs =>
          rw [List.map_cons, List.map_cons, groups?, ← List.map_cons, ih others,
            group_hexDigits first]
          · rfl
          · simp

/-- Groups are read back. -/
theorem groupsOf_groupTexts {gs : List Nat} (small : ∀ g ∈ gs, g < 65536) :
    groupsOf? (groupTexts gs).toList = some gs := by
  rw [toList_groupTexts]
  cases gs with
  | nil => rfl
  | cons g gs =>
      have filled : ([':'].intercalate ((g :: gs).map hexDigits)).isEmpty = false := by
        obtain ⟨c, cs, opened⟩ := List.exists_cons_of_ne_nil (@Nat.toDigits_ne_nil g 16)
        obtain ⟨more, joined⟩ := intercalate_opened ':' (hexDigits g) (gs.map hexDigits)
        rw [List.map_cons, joined, hexDigits, opened]
        rfl
      have parts : splitChars ':' ([':'].intercalate ((g :: gs).map hexDigits)) =
          (g :: gs).map hexDigits := by
        refine splitChars_intercalate (List.cons_ne_nil _ _) fun part mem => ?_
        obtain ⟨n, -, rfl⟩ := List.mem_map.mp mem
        exact mark_not_mem rfl
      rw [groupsOf?, filled, parts]
      exact groups_hexDigits small

/-! ### The gap -/

theorem splitGap_cons {c : Char} {rest : List Char} (other : c ≠ ':') :
    splitGap (c :: rest) = (splitGap rest).map fun (before, after) => (c :: before, after) := by
  rw [splitGap]
  rintro more rfl
  exact absurd rfl other

/-- A single colon is no gap. -/
theorem splitGap_colon {c : Char} {rest : List Char} (other : c ≠ ':') :
    splitGap (':' :: c :: rest) =
      (splitGap (c :: rest)).map fun (before, after) => (':' :: before, after) := by
  rw [splitGap]
  rintro more - same
  exact other (List.cons.inj same).1

/-- Text without colons before the gap. -/
theorem splitGap_part {part rest : List Char} (apart : ':' ∉ part) :
    splitGap (part ++ rest) =
      (splitGap rest).map fun (before, after) => (part ++ before, after) := by
  induction part with
  | nil => exact Option.map_id'.symm
  | cons c part ih =>
      obtain ⟨unlike, apart⟩ := List.ne_and_not_mem_of_not_mem_cons apart
      rw [List.cons_append, splitGap_cons (Ne.symm unlike), ih apart, Option.map_map]
      rfl

/-- Parts with single colons between them hold no gap. -/
theorem splitGap_intercalate {parts : List (List Char)} {rest : List Char}
    (each : ∀ part ∈ parts, part ≠ [] ∧ ':' ∉ part) :
    splitGap ([':'].intercalate parts ++ rest) =
      (splitGap rest).map fun (before, after) => ([':'].intercalate parts ++ before, after) := by
  induction parts with
  | nil => exact Option.map_id'.symm
  | cons part parts ih =>
      obtain ⟨⟨filled, apart⟩, others⟩ := List.forall_mem_cons.mp each
      cases parts with
      | nil =>
          rw [List.intercalate_singleton]
          exact splitGap_part apart
      | cons second parts =>
          obtain ⟨⟨second_filled, second_apart⟩, -⟩ := List.forall_mem_cons.mp others
          obtain ⟨c, cs, rfl⟩ := List.exists_cons_of_ne_nil second_filled
          have unlike := (List.ne_and_not_mem_of_not_mem_cons second_apart).1
          obtain ⟨more, joined⟩ := intercalate_opened ':' (c :: cs) parts
          have later := ih others
          rw [joined, List.append_assoc, List.cons_append] at later
          rw [List.intercalate_cons_cons, joined, List.append_assoc, List.append_assoc,
            splitGap_part apart, List.singleton_append, List.append_assoc, List.cons_append,
            splitGap_colon (Ne.symm unlike), later, Option.map_map, Option.map_map]
          refine congrArg (Option.map · _) (funext fun pair => ?_)
          simp

/-! ### Runs of zeros -/

/-- A run of zeros at the front may be taken off. -/
theorem eq_replicate_append {gs : List Nat} {n : Nat} (run : n ≤ zeroRun gs) :
    gs = List.replicate n 0 ++ gs.drop n := by
  induction n generalizing gs with
  | zero => rfl
  | succ n ih =>
      cases gs with
      | nil => cases run
      | cons g gs =>
          rw [zeroRun, List.takeWhile_cons] at run
          split at run
          · next zero =>
            rw [List.length_cons] at run
            rw [beq_iff_eq] at zero
            rw [List.replicate_succ, List.cons_append, List.drop_succ_cons, zero,
              ← ih (Nat.le_of_succ_le_succ run)]
          · cases run

/-- The longest run is one, whichever that is. -/
theorem longestRun_le (gs : List Nat) :
    (longestRun gs).2 ≤ zeroRun (gs.drop (longestRun gs).1) := by
  -- the search keeps a run that is there and takes another one only from its own place
  have kept (places : List Nat) (best : Nat × Nat) (run : best.2 ≤ zeroRun (gs.drop best.1)) :
      (places.foldl
        (fun best i => let n := zeroRun (gs.drop i); if best.2 < n then (i, n) else best)
        best).2 ≤ zeroRun (gs.drop (places.foldl
          (fun best i => let n := zeroRun (gs.drop i); if best.2 < n then (i, n) else best)
          best).1) := by
    induction places generalizing best with
    | nil => exact run
    | cons i places ih =>
        refine ih _ ?_
        simp only []
        split
        · exact Nat.le_refl _
        · exact run
  exact kept _ _ (Nat.zero_le _)

/-- The groups around the longest run. -/
theorem groups_eq (a : Ipv6) :
    a.groups = a.groups.take (longestRun a.groups).1 ++
      (List.replicate (longestRun a.groups).2 0 ++
        a.groups.drop ((longestRun a.groups).1 + (longestRun a.groups).2)) := by
  have run := eq_replicate_append (longestRun_le a.groups)
  rw [List.drop_drop] at run
  rw [← run, List.take_append_drop]

/-! ### Addresses -/

theorem mark_not_mem_groupTexts {gs : List Nat} {mark : Char} (other : mark.isAlphanum = false)
    (unlike : mark ≠ ':') : mark ∉ (groupTexts gs).toList := by
  rw [toList_groupTexts]
  refine not_mem_intercalate unlike fun part mem => ?_
  obtain ⟨n, -, rfl⟩ := List.mem_map.mp mem
  exact mark_not_mem other

theorem splitGap_groupTexts (gs : List Nat) (rest : List Char) :
    splitGap ((groupTexts gs).toList ++ rest) =
      (splitGap rest).map fun (before, after) => ((groupTexts gs).toList ++ before, after) := by
  rw [toList_groupTexts]
  refine splitGap_intercalate fun part mem => ?_
  obtain ⟨n, -, rfl⟩ := List.mem_map.mp mem
  exact ⟨Nat.toDigits_ne_nil, mark_not_mem rfl⟩

/-- An address is read back, with or without a run of zeros that is left out. -/
theorem ofChars_toText {a : Ipv6} (valid : a.IsValid) : ofChars? a.toText.toList = some a := by
  have small_take (n : Nat) : ∀ g ∈ a.groups.take n, g < 65536 := fun g mem =>
    valid.small g (List.mem_of_mem_take mem)
  have small_drop (n : Nat) : ∀ g ∈ a.groups.drop n, g < 65536 := fun g mem =>
    valid.small g (List.mem_of_mem_drop mem)
  have groups := groups_eq a
  rw [toText]
  generalize longestRun a.groups = run at groups ⊢
  obtain ⟨start, length⟩ := run
  simp only [] at groups ⊢
  split
  · have ungapped := splitGap_groupTexts a.groups []
    rw [List.append_nil] at ungapped
    rw [ofChars?, ungapped]
    simp only [splitGap, Option.map_none, groupsOf_groupTexts valid.small, valid.eight, if_true]
  · next long =>
    have gapped : splitGap (groupTexts (a.groups.take start) ++ "::" ++
        groupTexts (a.groups.drop (start + length))).toList =
          some ((groupTexts (a.groups.take start)).toList,
            (groupTexts (a.groups.drop (start + length))).toList) := by
      rw [String.toList_append, String.toList_append, List.append_assoc, splitGap_groupTexts]
      simp [splitGap]
    have pointless : (groupTexts (a.groups.take start)).toList.contains '.' = false := by
      rw [List.contains_eq_mem]
      exact decide_eq_false (mark_not_mem_groupTexts rfl (by decide))
    have lengths := congrArg List.length groups
    rw [List.length_append, List.length_append, List.length_replicate, valid.eight] at lengths
    have left : (a.groups.take start).length + (a.groups.drop (start + length)).length ≤ 7 := by
      omega
    have zeros : 8 - (a.groups.take start).length - (a.groups.drop (start + length)).length =
        length := by
      omega
    rw [ofChars?, gapped]
    simp only [pointless, Bool.false_eq_true, if_false, groupsOf_groupTexts (small_take _),
      groupsOf_groupTexts (small_drop _), if_pos left, zeros, List.append_assoc, ← groups]

theorem percent_not_mem_toText (a : Ipv6) : '%' ∉ a.toText.toList := by
  have apart (gs : List Nat) : '%' ∉ (groupTexts gs).toList :=
    mark_not_mem_groupTexts rfl (by decide)
  rw [toText]
  split
  split
  · exact apart _
  · rw [String.toList_append, String.toList_append, List.mem_append, List.mem_append]
    rintro ((before | gap) | after)
    · exact apart _ before
    · revert gap
      decide
    · exact apart _ after

/-- Four bytes with points between them are too long for a group. -/
theorem group_toText (b : Ipv4) : group? b.toText.toList = none := by
  have filled (n : Nat) : 0 < (Nat.toDigits 10 n).length :=
    List.length_pos_iff.mpr Nat.toDigits_ne_nil
  have long : 4 < b.toText.toList.length := by
    rw [Ipv4.toList_toText]
    simp only [Ipv4.bytes, List.map_cons, List.map_nil, List.intercalate_cons_cons,
      List.intercalate_singleton, List.length_append, List.length_singleton]
    have first := filled (b.value / 16777216)
    have second := filled (b.value / 65536 % 256)
    have third := filled (b.value / 256 % 256)
    have fourth := filled (b.value % 256)
    omega
  rw [group?, if_pos (.inr long)]

/-- Four bytes at the end are read as two groups. -/
theorem groupsOf_mapped {b : Ipv4} (valid : b.IsValid) :
    groupsOf? ('f' :: 'f' :: 'f' :: 'f' :: ':' :: b.toText.toList) =
      some [65535, b.value / 65536, b.value % 65536] := by
  have parts : splitChars ':' ('f' :: 'f' :: 'f' :: 'f' :: ':' :: b.toText.toList) =
      [['f', 'f', 'f', 'f'], b.toText.toList] := by
    have apart : ':' ∉ ['f', 'f', 'f', 'f'] := by decide
    refine (splitChars_append apart).trans (congrArg _ ?_)
    exact splitChars_apart (Ipv4.mark_not_mem_toText rfl (by decide))
  have front : group? ['f', 'f', 'f', 'f'] = some 65535 := by decide
  have back : groups? [b.toText.toList] = some [b.value / 65536, b.value % 65536] := by
    rw [groups?, group_toText, Ipv4.ofChars_toText valid]
    rfl
  rw [groupsOf?, List.isEmpty_cons, parts, groups?, front, back]
  · rfl
  · simp

/-- Six groups and four bytes are read back as eight groups. -/
theorem ofChars_mapped {a : Ipv6} {b : Ipv4} (valid : a.IsValid) (mapped : a.mapped? = some b) :
    ofChars? ("::ffff:" ++ b.toText).toList = some a := by
  obtain ⟨groups⟩ := a
  obtain ⟨eight, small⟩ := valid
  simp only [mapped?] at mapped eight small
  split at mapped
  · next high low =>
    have high_small : high < 65536 := small high (by simp)
    have low_small : low < 65536 := small low (by simp)
    have value_eq : b.value = high * 65536 + low :=
      (congrArg Ipv4.value (Option.some.inj mapped)).symm
    have bytes_valid : b.IsValid := by
      rw [Ipv4.IsValid, Word.bound32]
      omega
    have high_eq : b.value / 65536 = high := by omega
    have low_eq : b.value % 65536 = low := by omega
    have opened : ("::ffff:" ++ b.toText).toList =
        ':' :: ':' :: 'f' :: 'f' :: 'f' :: 'f' :: ':' :: b.toText.toList := by
      simp
    have read := groupsOf_mapped bytes_valid
    rw [high_eq, low_eq] at read
    rw [ofChars?, opened, splitGap]
    simp only [read]
    rfl
  · cases mapped

/-! ### Bounds -/

theorem lt_of_hexDigit {c : Char} {d : Nat} (read : hexDigit? c = some d) : d < 16 := by
  have below {last : Char} (most : c ≤ last) : c.toNat ≤ last.toNat :=
    UInt32.le_iff_toNat_le.mp (Char.le_def.mp most)
  rw [hexDigit?] at read
  split at read
  · next digit =>
    obtain rfl := Option.some.inj read
    have most : c.toNat ≤ '9'.toNat := by
      simp only [Char.isDigit, Bool.and_eq_true, decide_eq_true_eq] at digit
      exact UInt32.le_iff_toNat_le.mp digit.2
    have value : '9'.toNat - '0'.toNat = 9 := rfl
    omega
  split at read
  · next letter =>
    obtain rfl := Option.some.inj read
    have most := below letter.2
    have value : 'f'.toNat - 'a'.toNat = 5 := rfl
    omega
  split at read
  · next letter =>
    obtain rfl := Option.some.inj read
    have most := below letter.2
    have value : 'F'.toNat - 'A'.toNat = 5 := rfl
    omega
  · cases read

/-- Four digits of base sixteen make a number of two bytes. -/
theorem lt_of_group {cs : List Char} {g : Nat} (read : group? cs = some g) : g < 65536 := by
  have bounded (ds : List Nat) (small : ∀ d ∈ ds, d < 16) (n : Nat) :
      ds.foldl (fun n d => n * 16 + d) n < (n + 1) * 16 ^ ds.length := by
    induction ds generalizing n with
    | nil => simp
    | cons d ds ih =>
        obtain ⟨first, others⟩ := List.forall_mem_cons.mp small
        refine Nat.lt_of_lt_of_le (ih others (n * 16 + d)) ?_
        rw [List.length_cons, Nat.pow_succ', ← Nat.mul_assoc]
        exact Nat.mul_le_mul_right _ (by omega)
  rw [group?] at read
  split at read
  · cases read
  · next short =>
    obtain ⟨ds, digits, rfl⟩ := Option.map_eq_some_iff.mp read
    have few : ds.length ≤ 4 := by
      have length_eq := length_of_mapM digits
      omega
    have small : ∀ d ∈ ds, d < 16 := fun d mem => by
      obtain ⟨c, -, one⟩ := exists_of_mem_mapM digits mem
      exact lt_of_hexDigit one
    have value := bounded ds small 0
    have most : 16 ^ ds.length ≤ 16 ^ 4 := Nat.pow_le_pow_right (by decide) few
    omega

theorem lt_of_groups {parts : List (List Char)} {gs : List Nat} (read : groups? parts = some gs) :
    ∀ g ∈ gs, g < 65536 := by
  induction parts using groups?.induct generalizing gs with
  | case1 =>
      obtain rfl := Option.some.inj read
      exact fun g mem => absurd mem List.not_mem_nil
  | case2 last g one =>
      rw [groups?, one] at read
      obtain rfl := Option.some.inj read
      rintro g mem
      rw [List.mem_singleton.mp mem]
      exact lt_of_group one
  | case3 last none =>
      rw [groups?, none] at read
      obtain ⟨a, bytes, rfl⟩ := Option.map_eq_some_iff.mp read
      have valid := Ipv4.isValid_of_ofChars bytes
      simp only [Ipv4.IsValid, Word.bound32] at valid
      simp only [List.forall_mem_cons]
      refine ⟨by omega, by omega, fun g mem => absurd mem List.not_mem_nil⟩
  | case4 part rest more ih =>
      rw [groups?] at read
      · simp only [Option.bind_eq_bind, Option.bind_eq_some_iff] at read
        obtain ⟨g, one, gs, others, same⟩ := read
        obtain rfl := Option.some.inj same
        exact List.forall_mem_cons.mpr ⟨lt_of_group one, ih others⟩
      · exact more

theorem lt_of_groupsOf {cs : List Char} {gs : List Nat} (read : groupsOf? cs = some gs) :
    ∀ g ∈ gs, g < 65536 := by
  rw [groupsOf?] at read
  split at read
  · obtain rfl := Option.some.inj read
    exact fun g mem => absurd mem List.not_mem_nil
  · exact lt_of_groups read

/-- What is read are eight groups of two bytes. -/
theorem isValid_of_ofChars {cs : List Char} {a : Ipv6} (read : ofChars? cs = some a) :
    a.IsValid := by
  rw [ofChars?] at read
  split at read
  · split at read
    · next gs groups =>
      split at read
      · next eight =>
        obtain rfl := Option.some.inj read
        exact ⟨eight, lt_of_groupsOf groups⟩
      · cases read
    · cases read
  · split at read
    · cases read
    split at read
    · next left right left_groups right_groups =>
      split at read
      · next few =>
        obtain rfl := Option.some.inj read
        refine ⟨?_, ?_⟩
        · simp only [List.length_append, List.length_replicate]
          omega
        · intro g mem
          rw [List.mem_append, List.mem_append, List.mem_replicate] at mem
          rcases mem with (before | ⟨-, rfl⟩) | after
          · exact lt_of_groupsOf left_groups g before
          · decide
          · exact lt_of_groupsOf right_groups g after
      · cases read
    · cases read

end Ipv6

/-! ## Socket addresses -/

namespace SocketAddress

/-- Addresses, scopes and ports within their bounds. -/
inductive IsValid : SocketAddress → Prop
  | v4 {address : Ipv4} {port : Nat} (valid : address.IsValid) (port_small : port < 65536) :
      IsValid (.v4 address port)
  | v6 {address : Ipv6} {scope port : Nat} (valid : address.IsValid)
      (scope_small : scope < Word.bound32) (port_small : port < 65536) :
      IsValid (.v6 address scope port)

theorem lt_of_below {bound n : Nat} {cs : List Char} (read : below? bound cs = some n) :
    n < bound := by
  rw [below?] at read
  split at read
  · cases read
  split at read
  · next small => exact Option.some.inj read ▸ small
  · cases read

/-- The port stands after the last colon. -/
theorem splitPort_append {front port : List Char} (apart : ':' ∉ port) :
    splitPort (front ++ ':' :: port) = some (front, port) := by
  have turned : (front ++ ':' :: port).reverse = port.reverse ++ ':' :: front.reverse := by simp
  have cut : (port.reverse ++ ':' :: front.reverse).span (· ≠ ':') =
      (port.reverse, ':' :: front.reverse) :=
    span_until (by simpa using apart) _
  rw [splitPort, turned, cut]
  simp

/-- What is read is within its bounds. -/
theorem isValid_of_ofText {text : String} {a : SocketAddress} (read : ofText? text = some a) :
    a.IsValid := by
  simp only [ofText?, Option.bind_eq_bind, Option.bind_eq_some_iff] at read
  obtain ⟨⟨address, port⟩, -, port, port_read, read⟩ := read
  have port_small := lt_of_below port_read
  split at read
  · next bytes address_read =>
    obtain rfl := Option.some.inj read
    exact .v4 (Ipv4.isValid_of_ofChars address_read) port_small
  · obtain ⟨⟨groups, scope⟩, address_read, same⟩ := Option.bind_eq_some_iff.mp read
    obtain rfl := Option.some.inj same
    rw [bracketed?.eq_def] at address_read
    split at address_read
    · split at address_read
      · cases address_read
      split at address_read
      · obtain ⟨groups, groups_read, same⟩ := Option.map_eq_some_iff.mp address_read
        obtain ⟨rfl, rfl⟩ := Prod.mk.inj same
        exact .v6 (Ipv6.isValid_of_ofChars groups_read) (show 0 < Word.bound32 by decide) port_small
      · simp only [Option.bind_eq_bind, Option.bind_eq_some_iff] at address_read
        obtain ⟨groups, groups_read, scope, scope_read, same⟩ := address_read
        obtain ⟨rfl, rfl⟩ := Prod.mk.inj (Option.some.inj same)
        exact .v6 (Ipv6.isValid_of_ofChars groups_read) (lt_of_below scope_read) port_small
    · cases address_read

/-- The port is read behind the address. -/
theorem splitPort_toString (front : List Char) {port : Nat} (small : port < 65536) :
    splitPort (front ++ ':' :: Nat.toDigits 10 port) = some (front, Nat.toDigits 10 port) ∧
      below? 65536 (Nat.toDigits 10 port) = some port :=
  ⟨splitPort_append (Ipv4.mark_not_mem_digits rfl), below_toDigits small⟩

/-- An address in brackets holds no percent sign, which its scope begins with. -/
theorem bracketed_append {inner : List Char} {address : Ipv6} {scope : Nat}
    (apart : '%' ∉ inner) (read : Ipv6.ofChars? inner = some address)
    (small : scope < Word.bound32) :
    bracketed? ('[' :: (inner ++
        (if scope = 0 then [] else '%' :: Nat.toDigits 10 scope) ++ [']'])) =
      some (address, scope) := by
  rw [bracketed?, if_neg (by simp), List.dropLast_concat]
  by_cases zero : scope = 0
  · rw [if_pos zero, List.append_nil, span_apart apart]
    simp only [read, Option.map_some, zero]
  · rw [if_neg zero, span_until apart]
    simp only [read, Option.bind_eq_bind, Option.bind_some, below_toDigits small]
    rfl

/-- Four bytes do not begin with a bracket. -/
theorem ofChars_bracket (rest : List Char) : Ipv4.ofChars? ('[' :: rest) = none := by
  have first : ∃ part parts, splitChars '.' ('[' :: rest) = ('[' :: part) :: parts := by
    rw [splitChars, if_neg (by decide)]
    split
    · exact ⟨[], [], rfl⟩
    · next part parts _ => exact ⟨part, parts, rfl⟩
  obtain ⟨part, parts, split_eq⟩ := first
  have unread : Ipv4.byte? ('[' :: part) = none := by
    rw [Ipv4.byte?, if_pos]
    simp
  rw [Ipv4.ofChars?, split_eq, List.mapM_cons, unread]
  rfl

/-- What stands in the brackets: eight groups, or six groups and four bytes. -/
theorem toText_v6 {address : Ipv6} (valid : address.IsValid) (scope port : Nat) :
    ∃ inner : String, (SocketAddress.v6 address scope port).toText.toList =
        '[' :: (inner.toList ++ (if scope = 0 then [] else '%' :: Nat.toDigits 10 scope) ++ [']'])
          ++ ':' :: Nat.toDigits 10 port ∧
      '%' ∉ inner.toList ∧ Ipv6.ofChars? inner.toList = some address := by
  have opened (inner : String) :
      ("[" ++ inner ++ (if scope = 0 then "" else "%" ++ toString scope) ++ "]:" ++
        toString port).toList =
        '[' :: (inner.toList ++ (if scope = 0 then [] else '%' :: Nat.toDigits 10 scope) ++ [']'])
          ++ ':' :: Nat.toDigits 10 port := by
    split
    · simp
    · simp
  rw [toText]
  cases mapped : address.mapped? with
  | some b =>
      refine ⟨"::ffff:" ++ b.toText, opened _, ?_, Ipv6.ofChars_mapped valid mapped⟩
      rw [String.toList_append, List.mem_append]
      rintro (front | back)
      · revert front
        decide
      · exact Ipv4.mark_not_mem_toText rfl (by decide) back
  | none =>
      exact ⟨address.toText, opened _, Ipv6.percent_not_mem_toText address,
        Ipv6.ofChars_toText valid⟩

/-- A socket address within its bounds is read back. -/
theorem ofText_toText {a : SocketAddress} (valid : a.IsValid) : ofText? a.toText = some a := by
  cases valid with
  | @v4 address port valid port_small =>
      obtain ⟨cut, port_read⟩ := splitPort_toString address.toText.toList port_small
      have opened : (SocketAddress.v4 address port).toText.toList =
          address.toText.toList ++ ':' :: Nat.toDigits 10 port := by
        simp [toText]
      rw [ofText?, opened, cut]
      simp only [Option.bind_eq_bind, Option.bind_some, port_read, Ipv4.ofChars_toText valid]
      rfl
  | @v6 address scope port valid scope_small port_small =>
      obtain ⟨inner, opened, apart, read⟩ := toText_v6 valid scope port
      obtain ⟨cut, port_read⟩ := splitPort_toString ('[' :: (inner.toList ++
        (if scope = 0 then [] else '%' :: Nat.toDigits 10 scope) ++ [']'])) port_small
      rw [ofText?, opened, cut]
      simp only [Option.bind_eq_bind, Option.bind_some, port_read, ofChars_bracket]
      rw [bracketed_append apart read scope_small]
      rfl

end SocketAddress

end LoadHarness
