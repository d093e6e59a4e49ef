import Mathlib
import LoadHarness.Proofs.Text.Digits
import LoadHarness.Proofs.Toml.Text
import LoadHarness.Toml.Reader

/-!
# Values in TOML are read back

Texts, truth values, natural numbers of 63 binary digits and lists of texts are read back from
the form in which they are written, up to the end of the line.
-/

namespace LoadHarness

namespace Toml

/-! ## Natural numbers -/

section Digits

variable {cs : List Char}

theorem mark_digits {c : Char} (digits : ∀ d ∈ cs, d.isDigit = true) (other : c.isDigit = false) :
    mark? c cs = none := by
  cases cs with
  | nil => rfl
  | cons d cs =>
      have unlike : d ≠ c := by
        rintro rfl
        rw [digits d List.mem_cons_self] at other
        cases other
      rw [mark?, if_neg unlike]

/-- A number is no date. -/
theorem date_digits (digits : ∀ d ∈ cs, d.isDigit = true) : date? cs = none := by
  have dash : mark? '-' (cs.drop 4) = none :=
    mark_digits (fun d mem => digits d (List.mem_of_mem_drop mem)) rfl
  rw [date?, dash]
  simp only [Option.bind_eq_bind, Option.bind_none]
  split <;> rfl

/-- A number is no time of day. -/
theorem time_digits (bounds : MomentBounds) (digits : ∀ d ∈ cs, d.isDigit = true) :
    time? bounds cs = none := by
  rw [time?]
  cases hour : twoDigits? 0 bounds.lastHour cs with
  | none => rfl
  | some pair =>
      obtain ⟨front, rest⟩ := pair
      have rest_mem : ∀ d ∈ rest, d ∈ cs := by
        intro d mem
        match cs, hour with
        | a :: b :: tail, hour =>
          simp only [twoDigits?] at hour
          split at hour
          · obtain ⟨-, rfl⟩ := Prod.mk.inj (Option.some.inj hour)
            exact List.mem_cons_of_mem _ (List.mem_cons_of_mem _ mem)
          · cases hour
      have colon : mark? ':' rest = none :=
        mark_digits (fun d mem => digits d (rest_mem d mem)) rfl
      simp only [Option.bind_eq_bind, Option.bind_some, colon, Option.bind_none]

theorem splitSign_digits (digits : ∀ d ∈ cs, d.isDigit = true) :
    Decimal.splitSign cs = (false, cs) := by
  rw [Decimal.splitSign.eq_def]
  split
  · exact absurd (digits '-' List.mem_cons_self) (by decide)
  · exact absurd (digits '+' List.mem_cons_self) (by decide)
  · rfl

theorem plainDigits_digits (filled : cs.isEmpty = false) (digits : ∀ d ∈ cs, d.isDigit = true) :
    plainDigits? Char.isDigit cs = some cs := by
  have split_eq : plainDigits?.splitOnUnderscore cs = [cs] := by
    clear filled
    induction cs with
    | nil => rfl
    | cons d cs ih =>
        obtain ⟨digit, rest⟩ := List.forall_mem_cons.mp digits
        have unlike : d ≠ '_' := by
          rintro rfl
          cases digit
        rw [plainDigits?.splitOnUnderscore, if_neg unlike, ih rest]
  rw [plainDigits?, split_eq]
  simp [filled, List.all_eq_true.mpr digits]

/-- A number without a point and an exponent is a whole one. -/
theorem realText_digits (digits : ∀ d ∈ cs, d.isDigit = true) : realText? cs = none := by
  have unmarked : ∀ d ∈ cs, (!(d == 'e' || d == 'E')) = true := by
    intro d mem
    have digit := digits d mem
    simp only [Bool.not_eq_true', Bool.or_eq_false_iff, beq_eq_false_iff_ne]
    constructor
    · rintro rfl
      cases digit
    · rintro rfl
      cases digit
  have unpointed : ∀ d ∈ cs, decide (d ≠ '.') = true := by
    intro d mem
    refine decide_eq_true ?_
    rintro rfl
    cases digits '.' mem
  have mantissa : cs.span (fun d => !(d == 'e' || d == 'E')) = (cs, []) := span_all unmarked
  have whole : cs.span (fun d => decide (d ≠ '.')) = (cs, []) := span_all unpointed
  rw [realText?]
  simp only [mantissa, whole, List.isEmpty_nil, and_self, if_true]
  rfl

/-- Digits in base ten have the same value everywhere. -/
theorem valueIn_digits (digits : ∀ d ∈ cs, d.isDigit = true) : valueIn 10 cs = decimalValue cs := by
  rw [valueIn, decimalValue]
  refine List.foldl_ext _ _ 0 fun n d mem => ?_
  rw [hexValue?, if_pos (digits d mem)]
  rfl

/-- Digits have no sign and no mark of another base. -/
theorem integer_digits (digits : ∀ d ∈ cs, d.isDigit = true) :
    integer? cs = (decimalDigits? cs).bind fun ds => bounded? (valueIn 10 ds) := by
  have unmarked {mark : Char} {rest : List Char} (other : mark.isDigit = false)
      (same : cs = '0' :: mark :: rest) : False := by
    have digit := digits mark (same ▸ List.mem_cons_of_mem _ List.mem_cons_self)
    rw [other] at digit
    cases digit
  rw [integer?.eq_def]
  split
  · exact (unmarked rfl rfl).elim
  · exact (unmarked rfl rfl).elim
  · exact (unmarked rfl rfl).elim
  · rw [splitSign_digits digits]
    rfl

end Digits

theorem bounded_of_lt {n : Nat} (small : n < Word.signedBound64) :
    bounded? (n : Int) = some (n : Int) := by
  rw [bounded?]
  generalize Word.signedBound64 = bound at small ⊢
  rw [if_pos]
  omega

/-- The digits of a number are read as the number. -/
theorem integer_toDigits {n : Nat} (small : n < Word.signedBound64) :
    integer? (Nat.toDigits 10 n) = some (n : Int) := by
  have digits : ∀ d ∈ Nat.toDigits 10 n, d.isDigit = true := fun d mem => isDigit_of_mem_digits mem
  have plain := plainDigits_digits (isEmpty_toDigits 10 n) digits
  have canonical : ¬ ((Nat.toDigits 10 n).head? = some '0' ∧ (Nat.toDigits 10 n).length ≠ 1) := by
    rintro ⟨head, long⟩
    rw [eq_zero_of_head_toDigits head] at long
    exact long rfl
  have decimal : decimalDigits? (Nat.toDigits 10 n) = some (Nat.toDigits 10 n) := by
    rw [decimalDigits?, plain]
    simp only [if_neg canonical]
  rw [integer_digits digits, decimal, Option.bind_some, valueIn_digits digits,
    decimalValue_toDigits, bounded_of_lt small]

/-! ## Words -/

/-- The digits of a number are the word of the number. -/
theorem word_toDigits {n : Nat} (small : n < Word.signedBound64) :
    word? (Nat.toDigits 10 n) = some (.integer n) := by
  have digits : ∀ d ∈ Nat.toDigits 10 n, d.isDigit = true := fun d mem => isDigit_of_mem_digits mem
  have unlike {word : List Char} {c : Char} (mem : c ∈ word) (other : c.isDigit = false) :
      Nat.toDigits 10 n ≠ word := by
    intro same
    have digit := digits c (same ▸ mem)
    rw [other] at digit
    cases digit
  have letter : ('n' ∈ ['i', 'n', 'f'] ∧ 'n' ∈ ['n', 'a', 'n']) ∧
      'e' ∈ ['t', 'r', 'u', 'e'] ∧ 'e' ∈ ['f', 'a', 'l', 's', 'e'] := by
    decide
  have moment : moment? .word (Nat.toDigits 10 n) = none := by
    rw [moment?, date_digits digits]
    simp only [time_digits .word digits]
  have real : real? (Nat.toDigits 10 n) = none := by
    rw [real?, splitSign_digits digits]
    simp only [if_neg (unlike letter.1.1 rfl), if_neg (unlike letter.1.2 rfl),
      realText_digits digits]
    rfl
  rw [word?, if_neg (unlike letter.2.1 rfl), if_neg (unlike letter.2.2 rfl),
    moment, real, integer_toDigits small]
  rfl

/-- A word that is no date ends where another kind of character begins. -/
theorem scalar_of_word {word : List Char} {c : Char} (rest : List Char)
    (all : ∀ d ∈ word, isWordChar d = true) (stop : isWordChar c = false)
    (undated : date? word = none) :
    scalar? (word ++ c :: rest) = (word? word).map (·, c :: rest) := by
  have cut : (word ++ c :: rest).span isWordChar = (word, c :: rest) :=
    span_append all (by simpa using stop)
  simp only [scalar?, cut, undated]

/-! ## Blank lines -/

section SkipLines

variable {fuel : Nat} {c : Char} {rest : List Char}

/-- Characters that a line may begin with: no blank, no break and no mark of a comment. -/
def StartsLine (c : Char) : Prop := isSpace c = false ∧ c ≠ '#' ∧ c ≠ '\n' ∧ c ≠ '\r'

instance (c : Char) : Decidable (StartsLine c) :=
  inferInstanceAs (Decidable (isSpace c = false ∧ c ≠ '#' ∧ c ≠ '\n' ∧ c ≠ '\r'))

theorem skipSpace_cons (unspaced : isSpace c = false) : skipSpace (c :: rest) = c :: rest := by
  rw [skipSpace, List.dropWhile_cons, unspaced]
  rfl

/-- Nothing is skipped before a character that begins a line. -/
theorem skipLines_stop (starts : StartsLine c) :
    skipLines? (fuel + 1) (c :: rest) = some (c :: rest) := by
  obtain ⟨unspaced, uncommented, line, back⟩ := starts
  rw [skipLines?, skipSpace_cons unspaced]
  split
  · next same => cases same
  · next same => exact absurd (List.cons.inj same).1 uncommented
  · rw [lineBreak_none line back]

theorem skipLines_break :
    skipLines? (fuel + 1) ('\n' :: rest) = skipLines? fuel rest := by
  rw [skipLines?, skipSpace_cons rfl]
  rfl

/-- An item of a list stands behind four blanks. -/
theorem skipLines_indent :
    skipLines? (fuel + 1) (' ' :: ' ' :: ' ' :: ' ' :: rest) = skipLines? (fuel + 1) rest := by
  rw [skipLines?, skipLines?]
  rfl

end SkipLines

/-! ## Values -/

/-- Values that settings are written with. -/
inductive Plain : TomlValue → Prop
  | text (s : String) : Plain (.text s)
  | bool (b : Bool) : Plain (.bool b)
  | natural {n : Nat} (small : n < Word.signedBound64) : Plain (.integer n)
  | texts (ss : List String) : Plain (.array (ss.map .text))

section Values

variable {fuel depth : Nat} {c : Char} {cs rest : List Char}

/-- A value but a text, an array or a table is a word. -/
theorem value_scalar (bracket : c ≠ '[') (brace : c ≠ '{') (double : c ≠ '"')
    (single : c ≠ '\'') : value? (fuel + 1) depth (c :: rest) = scalar? (c :: rest) := by
  have unquoted : ¬ (c = '"' ∨ c = '\'') := by
    rintro (same | same)
    · exact double same
    · exact single same
  rw [value?, if_neg unquoted]
  · exact bracket
  · exact brace

/-- A quoted form begins with a quote. -/
theorem quotedChars_cons (cs : List Char) :
    ∃ quote tail, quotedChars cs = quote :: tail ∧ (quote = '"' ∨ quote = '\'') := by
  simp only [quotedChars]
  split
  · exact ⟨_, _, rfl, .inl rfl⟩
  split
  · exact ⟨_, _, rfl, .inr rfl⟩
  split
  · exact ⟨_, _, rfl, .inl rfl⟩
  split
  · exact ⟨_, _, rfl, .inr rfl⟩
  split
  · exact ⟨_, _, rfl, .inl rfl⟩
  · exact ⟨_, _, rfl, .inl rfl⟩

/-- A text is read back unless a quote follows. -/
theorem value_text (s : String) (double : rest.head? ≠ some '"') (single : rest.head? ≠ some '\'') :
    value? (fuel + 1) depth ((textText s).toList ++ rest) = some (.text s, rest) := by
  have read := text_quotedChars s.toList double single
  rw [textText, String.toList_ofList]
  obtain ⟨quote, tail, opened, marked⟩ := quotedChars_cons s.toList
  rw [opened, List.cons_append] at read ⊢
  rw [value?, if_pos marked, read, String.ofList_toList]
  · rfl
  · rcases marked with rfl | rfl
    · decide
    · decide
  · rcases marked with rfl | rfl
    · decide
    · decide

/-- A line begins with the quote of a text. -/
theorem skipLines_text (s : String) (rest : List Char) :
    skipLines? (fuel + 1) ((textText s).toList ++ rest) = some ((textText s).toList ++ rest) := by
  obtain ⟨quote, tail, opened, marked⟩ := quotedChars_cons s.toList
  rw [textText, String.toList_ofList, opened, List.cons_append]
  rcases marked with rfl | rfl
  · exact skipLines_stop (by decide)
  · exact skipLines_stop (by decide)

/-- A text in a list: what follows it decides whether the list goes on. -/
theorem array_text {done : List TomlValue} (s : String)
    (skip : skipLines? (cs.length + 1) cs = some ((textText s).toList ++ rest))
    (double : rest.head? ≠ some '"') (single : rest.head? ≠ some '\'') :
    array? (fuel + 2) depth done cs =
      match skipLines? (rest.length + 1) rest with
      | some (',' :: rest) => array? (fuel + 1) depth (.text s :: done) rest
      | some (']' :: rest) => some (.array (.text s :: done).reverse, rest)
      | _ => none := by
  have read : value? (fuel + 1) depth _ = _ := value_text s double single
  obtain ⟨quote, tail, opened, marked⟩ := quotedChars_cons s.toList
  rw [textText, String.toList_ofList, opened, List.cons_append] at skip read
  rw [array?, skip]
  split
  · next same => cases same
  · next same =>
    have closing := (List.cons.inj (Option.some.inj same)).1
    rcases marked with rfl | rfl
    · cases closing
    · cases closing
  · next same =>
    rewrite [← Option.some.inj same, read]
    rfl

/-- Texts with a line for each are read up to the bracket that closes their list. -/
theorem array_items (ss : List String) {done : List TomlValue} (enough : ss.length < fuel) :
    array? (fuel + 1) depth done ((itemTexts (ss.map .text)).toList ++ '\n' :: ']' :: rest) =
      some (.array (done.reverse ++ ss.map .text), rest) := by
  induction ss generalizing fuel done with
  | nil =>
      have stop : skipLines? ((']' :: rest).length + 1) (']' :: rest) = some (']' :: rest) :=
        skipLines_stop (by decide)
      rw [List.map_nil, itemTexts, String.toList_empty, List.nil_append, array?, List.length_cons,
        skipLines_break, stop]
      simp
  | cons s ss ih =>
      rw [List.length_cons] at enough
      obtain ⟨fuel, rfl⟩ := Nat.exists_eq_add_one_of_ne_zero (Nat.ne_zero_of_lt enough)
      have later := @ih fuel (.text s :: done) (Nat.lt_of_succ_lt_succ enough)
      have opened : (itemTexts ((s :: ss).map .text)).toList ++ '\n' :: ']' :: rest =
          '\n' :: ' ' :: ' ' :: ' ' :: ' ' :: ((textText s).toList ++
            ',' :: ((itemTexts (ss.map .text)).toList ++ '\n' :: ']' :: rest)) := by
        simp [itemTexts, valueText]
      generalize (itemTexts (ss.map .text)).toList ++ '\n' :: ']' :: rest = next at later opened
      have skip : skipLines? (('\n' :: ' ' :: ' ' :: ' ' :: ' ' ::
          ((textText s).toList ++ ',' :: next)).length + 1) ('\n' :: ' ' :: ' ' :: ' ' :: ' ' ::
          ((textText s).toList ++ ',' :: next)) = some ((textText s).toList ++ ',' :: next) := by
        rw [List.length_cons, skipLines_break, List.length_cons, skipLines_indent, skipLines_text]
      have stop : skipLines? ((',' :: next).length + 1) (',' :: next) = some (',' :: next) :=
        skipLines_stop (by decide)
      rw [opened, array_text s skip (by simp) (by simp), stop]
      simp only [later]
      simp

/-- A list in brackets is read as such. -/
theorem value_bracket :
    value? (fuel + 1) (depth + 1) ('[' :: rest) = array? fuel depth [] rest := by
  rw [value?, if_neg (Nat.succ_ne_zero depth)]
  rfl

/-- Every item takes a line. -/
theorem length_le_itemTexts (ss : List String) :
    ss.length ≤ (itemTexts (ss.map .text)).toList.length := by
  induction ss with
  | nil => exact Nat.zero_le _
  | cons s ss ih =>
      simp only [List.map_cons, itemTexts, String.toList_append, List.length_append,
        List.length_cons]
      have comma : 0 < ",".toList.length := by decide
      omega

/-- A list of texts is read back. -/
theorem value_texts (ss : List String)
    (enough : (valueText (.array (ss.map .text))).toList.length < fuel) :
    value? (fuel + 1) (depth + 1) ((valueText (.array (ss.map .text))).toList ++ rest) =
      some (.array (ss.map .text), rest) := by
  have stop : skipLines? ((']' :: rest).length + 1) (']' :: rest) = some (']' :: rest) :=
    skipLines_stop (by decide)
  rcases ss with _ | ⟨first, _ | ⟨second, more⟩⟩
  · have opened : (valueText (.array [])).toList ++ rest = '[' :: ']' :: rest := by
      simp [valueText]
    obtain ⟨fuel, rfl⟩ := Nat.exists_eq_add_one_of_ne_zero (Nat.ne_zero_of_lt enough)
    rw [List.map_nil, opened, value_bracket, array?, stop]
    rfl
  · have opened : (valueText (.array [.text first])).toList ++ rest =
        '[' :: ((textText first).toList ++ ']' :: rest) := by
      simp [valueText]
    have long : 2 ≤ (valueText (.array [.text first])).toList.length := by
      simp [valueText]
    obtain ⟨fuel, rfl⟩ := Nat.exists_eq_add_of_le' (Nat.le_trans long (Nat.le_of_lt enough))
    rw [List.map_singleton, opened, value_bracket,
      array_text first (skipLines_text first _) (by simp) (by simp), stop]
    rfl
  · have opened : (valueText (.array ((first :: second :: more).map .text))).toList ++ rest =
        '[' :: ((itemTexts ((first :: second :: more).map .text)).toList ++
          '\n' :: ']' :: rest) := by
      simp [valueText]
    have lines := length_le_itemTexts (first :: second :: more)
    have long : (itemTexts ((first :: second :: more).map .text)).toList.length + 1 ≤
        (valueText (.array ((first :: second :: more).map .text))).toList.length := by
      simp [valueText]
    obtain ⟨fuel, rfl⟩ := Nat.exists_eq_add_one_of_ne_zero (Nat.ne_zero_of_lt enough)
    rw [opened, value_bracket, array_items _ (by omega)]
    rfl

/-- Values that settings are written with are read back up to the end of their line. -/
theorem value_valueText {v : TomlValue} (plain : Plain v)
    (enough : (valueText v).toList.length < fuel) :
    value? (fuel + 1) (depth + 1) ((valueText v).toList ++ '\n' :: rest) =
      some (v, '\n' :: rest) := by
  have word (cs : List Char) (c : Char) (all : ∀ d ∈ c :: cs, isWordChar d = true)
      (undated : date? (c :: cs) = none) (read : word? (c :: cs) = some v) :
      value? (fuel + 1) (depth + 1) (c :: cs ++ '\n' :: rest) = some (v, '\n' :: rest) := by
    have apart (d : Char) (other : isWordChar d = false) : c ≠ d := by
      rintro rfl
      rw [all c List.mem_cons_self] at other
      cases other
    rw [List.cons_append, value_scalar (apart '[' rfl) (apart '\x7b' rfl) (apart '"' rfl)
      (apart '\'' rfl), ← List.cons_append, scalar_of_word rest all rfl undated, read]
    rfl
  cases plain with
  | text s =>
      rw [valueText]
      exact value_text s (by simp) (by simp)
  | bool b =>
      cases b with
      | false => exact word ['a', 'l', 's', 'e'] 'f' (List.all_eq_true.mp rfl) rfl rfl
      | true => exact word ['r', 'u', 'e'] 't' (List.all_eq_true.mp rfl) rfl rfl
  | @natural n small =>
      have digits : ∀ d ∈ Nat.toDigits 10 n, d.isDigit = true := fun d mem =>
        isDigit_of_mem_digits mem
      have text_eq : (valueText (.integer n)).toList = Nat.toDigits 10 n := by
        rw [valueText]
        exact toList_toString n
      have read := word_toDigits small
      have undated := date_digits digits
      rw [text_eq]
      obtain ⟨d, ds, opened⟩ := List.exists_cons_of_ne_nil (@Nat.toDigits_ne_nil n 10)
      rw [opened] at digits read undated ⊢
      refine word ds d (fun d mem => ?_) undated read
      simp only [isWordChar, Char.isAlphanum, digits d mem, Bool.or_true, Bool.true_or]
  | texts ss => exact value_texts ss enough

end Values

end Toml

end LoadHarness
