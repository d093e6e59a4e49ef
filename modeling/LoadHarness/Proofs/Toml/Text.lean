import Mathlib
import LoadHarness.Proofs.Text.Digits
import LoadHarness.Toml.Writer

/-!
# Texts and keys in TOML are read back

Whatever characters a text holds, it is read back from the form in which it is written, up to
the quotes that close it; so is a key. Nothing is asked of what comes after a key, and after a
text only that it does not go on with a quote.
-/

namespace LoadHarness

namespace Toml

/-! ## Single characters -/

theorem isPrintable_of_not_isControl {c : Char} (plain : isControl c = false)
    (unbroken : c ≠ '\n') : isPrintable c = true := by
  simp only [isControl, isPrintable, Bool.and_eq_false_iff, bne_eq_false_iff_eq,
    Bool.or_eq_false_iff, decide_eq_false_iff_not, beq_eq_false_iff_ne] at plain ⊢
  simp only [Bool.or_eq_true, beq_iff_eq, Bool.and_eq_true, decide_eq_true_eq, bne_iff_ne]
  rcases plain with (tab | line) | ⟨low, delete⟩
  · exact .inl tab
  · exact absurd line unbroken
  · exact .inr ⟨by omega, delete⟩

theorem ne_return_of_not_isControl {c : Char} (plain : isControl c = false) : c ≠ '\r' := by
  rintro rfl
  cases plain

/-- No line ends at a character that is no part of a break. -/
theorem lineBreak_none {c : Char} {rest : List Char} (line : c ≠ '\n') (back : c ≠ '\r') :
    lineBreak? (c :: rest) = none := by
  rw [lineBreak?.eq_def]
  split
  · next same => exact absurd (List.cons.inj same).1 line
  · next same => exact absurd (List.cons.inj same).1 back
  · rfl

/-- How a character stands between double quotes, unless it is one. -/
def escapeOf (breaks : Bool) (c : Char) : List Char :=
  if c = '\n' then (if breaks then ['\n'] else ['\\', 'n'])
  else if c = '\t' then ['\\', 't']
  else if c = '\x08' then ['\\', 'b']
  else if c = '\x0c' then ['\\', 'f']
  else if c = '\r' then ['\\', 'r']
  else if c = '\\' then ['\\', '\\']
  else if isControl c then '\\' :: 'u' :: fourDigits c.toNat
  else [c]

theorem escaped_of_ne {c : Char} (other : c ≠ '"') (bound : Nat) (breaks : Bool) (run : Nat)
    (cs : List Char) :
    escaped bound breaks run (c :: cs) = escapeOf breaks c ++ escaped bound breaks 0 cs := by
  rw [escaped, if_neg other]
  rfl

/-- The forms of a character between double quotes: itself, a break that is kept, or an escape. -/
inductive EscapeForm (breaks : Bool) (c : Char) : List Char → Prop
  | plain (quote : c ≠ '"') (slash : c ≠ '\\') (line : c ≠ '\n') (back : c ≠ '\r')
      (printable : isPrintable c = true) : EscapeForm breaks c [c]
  | kept (keeps : breaks = true) (line : c = '\n') : EscapeForm breaks c ['\n']
  | escape {e : List Char} (read : ∀ rest, escape? (e ++ rest) = some (c, rest))
      (joined : ∀ rest, afterLineEnd? (e ++ rest) = none) : EscapeForm breaks c ('\\' :: e)

theorem EscapeForm.length_pos {breaks : Bool} {c : Char} {written : List Char}
    (form : EscapeForm breaks c written) : 0 < written.length := by
  cases form <;> simp

/-- The four digits of a control are read back. -/
theorem codeChar_fourDigits {n : Nat} (ascii : n < 128) (rest : List Char) :
    codeChar? 4 (fourDigits n ++ rest) = some (Char.ofNat n, rest) := by
  have digits : ∀ n < 128, (fourDigits n).length = 4 ∧ ((fourDigits n).mapM hexValue?).map
      (fun values => values.foldl (fun n d => n * 16 + d) 0) = some n := by
    decide
  obtain ⟨four, value⟩ := digits n ascii
  obtain ⟨values, read, fold⟩ := Option.map_eq_some_iff.mp value
  have front : (fourDigits n ++ rest).take 4 = fourDigits n := List.take_left' four
  have back : (fourDigits n ++ rest).drop 4 = rest := List.drop_left' four
  have valid : n < 0xD800 := by omega
  simp [codeChar?, front, back, four, read, fold, valid]

/-- A double quote after a backslash. -/
theorem quoteForm (breaks : Bool) : EscapeForm breaks '"' ['\\', '"'] :=
  .escape (fun _ => rfl) (fun _ => rfl)

theorem escapeForm {c : Char} (other : c ≠ '"') (breaks : Bool) :
    EscapeForm breaks c (escapeOf breaks c) := by
  rw [escapeOf]
  split
  · next line =>
    split
    · next keeps => exact .kept keeps line
    · exact .escape (fun rest => by rw [line]; rfl) (fun rest => rfl)
  · next line =>
    split
    · next tab => exact .escape (fun rest => by rw [tab]; rfl) (fun rest => rfl)
    split
    · next bell => exact .escape (fun rest => by rw [bell]; rfl) (fun rest => rfl)
    split
    · next feed => exact .escape (fun rest => by rw [feed]; rfl) (fun rest => rfl)
    split
    · next back => exact .escape (fun rest => by rw [back]; rfl) (fun rest => rfl)
    next back =>
    split
    · next slash => exact .escape (fun rest => by rw [slash]; rfl) (fun rest => rfl)
    next slash =>
    split
    · next control =>
      have ascii : c.toNat < 128 := by
        simp only [isControl, Bool.and_eq_true, Bool.or_eq_true, decide_eq_true_eq,
          beq_iff_eq] at control
        omega
      refine .escape (fun rest => ?_) (fun rest => rfl)
      have read := codeChar_fourDigits ascii rest
      rwa [Char.ofNat_toNat] at read
    · next shown =>
      exact .plain other slash line back
        (isPrintable_of_not_isControl (Bool.eq_false_iff.mpr shown) line)

/-! ## Between double quotes -/

section Basic

variable {fuel run : Nat} {c : Char} {done cs rest written : List Char}

theorem basicLine_of_form (form : EscapeForm false c written) :
    basicLine? (fuel + 1) done (written ++ rest) = basicLine? fuel (c :: done) rest := by
  cases form with
  | plain quote slash line back printable =>
      rw [List.singleton_append, basicLine?, if_neg quote, if_neg slash, if_pos printable]
  | kept keeps => cases keeps
  | escape read joined =>
      rw [List.cons_append, basicLine?, if_neg (by decide), if_pos rfl, read]
      rfl

/-- Where every double quote is escaped, each character has a form of its own. -/
theorem escaped_cons (c : Char) (cs : List Char) :
    ∃ written, EscapeForm false c written ∧
      ∀ run, escaped 0 false run (c :: cs) = written ++ escaped 0 false 0 cs := by
  by_cases quote : c = '"'
  · refine ⟨['\\', '"'], quote ▸ quoteForm false, fun run => ?_⟩
    rw [escaped, if_pos quote, if_neg (Nat.not_lt_zero run)]
    rfl
  · exact ⟨escapeOf false c, escapeForm quote false, fun run => escaped_of_ne quote 0 false run cs⟩

/-- Escaped characters are read up to the double quote that follows them. -/
theorem basicLine_escaped
    (enough : (escaped 0 false run cs ++ '"' :: rest).length ≤ fuel) :
    basicLine? fuel done (escaped 0 false run cs ++ '"' :: rest) =
      some (String.ofList (done.reverse ++ cs), rest) := by
  induction cs generalizing fuel run done with
  | nil =>
      obtain ⟨fuel, rfl⟩ := Nat.exists_eq_add_one_of_ne_zero (Nat.ne_zero_of_lt enough)
      simp [escaped, basicLine?]
  | cons c cs ih =>
      obtain ⟨written, form, escaped_eq⟩ := escaped_cons c cs
      have used := form.length_pos
      rw [escaped_eq, List.append_assoc] at enough ⊢
      rw [List.length_append] at enough
      obtain ⟨fuel, rfl⟩ := Nat.exists_eq_add_one_of_ne_zero (n := fuel) (by omega)
      have tail : (escaped 0 false 0 cs ++ '"' :: rest).length ≤ fuel := by omega
      rw [basicLine_of_form form, ih tail, List.reverse_cons, List.append_assoc]
      rfl

end Basic

/-! ## Between three quotes -/

section Lines

variable {quote : Char} {escapes : Bool} {fuel run best : Nat} {c : Char}
  {done cs next rest written : List Char}

theorem takeWhile_quotes (run : Nat) (other : next.head? ≠ some quote) :
    (List.replicate run quote ++ next).takeWhile (· = quote) = List.replicate run quote := by
  have stop : next.takeWhile (· = quote) = [] := by
    cases next with
    | nil => rfl
    | cons c next =>
        have unlike : c ≠ quote := fun same => other (congrArg some same)
        simp [unlike]
  rw [List.takeWhile_append_of_pos (by simp), stop, List.append_nil]

/-- Up to two quotes that something else follows are part of the text. -/
theorem lines_pending (escapes : Bool) (done : List Char) (short : run ≤ 2)
    (other : next.head? ≠ some quote)
    (enough : (List.replicate run quote ++ next).length ≤ fuel) :
    ∃ left, next.length ≤ left ∧
      lines? quote escapes fuel done (List.replicate run quote ++ next) =
        lines? quote escapes left (List.replicate run quote ++ done) next := by
  rcases Nat.eq_zero_or_pos run with rfl | pending
  · refine ⟨fuel, ?_, rfl⟩
    simpa using enough
  · have run_length := takeWhile_quotes run other
    rw [List.length_append, List.length_replicate] at enough
    obtain ⟨run, rfl⟩ := Nat.exists_eq_add_one_of_ne_zero (Nat.ne_of_gt pending)
    obtain ⟨fuel, rfl⟩ := Nat.exists_eq_add_one_of_ne_zero (n := fuel) (by omega)
    refine ⟨fuel, by omega, ?_⟩
    rw [List.replicate_succ, List.cons_append] at run_length ⊢
    rw [lines?, if_pos rfl]
    simp only [run_length, List.length_cons, List.length_replicate, quoteRun?,
      if_pos (show run + 1 < 3 by omega), List.drop_succ_cons, List.drop_left',
      List.length_replicate]
    rfl

/-- Three quotes close a text; up to two more before them are part of it. -/
theorem lines_closing (short : run ≤ 2) (other : rest.head? ≠ some quote) (some_fuel : 0 < fuel) :
    lines? quote escapes fuel done
        (List.replicate run quote ++ (List.replicate 3 quote ++ rest)) =
      some (String.ofList (done.reverse ++ List.replicate run quote), rest) := by
  have run_length := takeWhile_quotes (run + 3) other
  obtain ⟨fuel, rfl⟩ := Nat.exists_eq_add_one_of_ne_zero (Nat.ne_of_gt some_fuel)
  rw [← List.append_assoc, ← List.replicate_add, List.replicate_succ, List.cons_append]
  rw [List.replicate_succ, List.cons_append] at run_length
  rw [lines?, if_pos rfl]
  simp only [run_length, List.length_cons, List.length_replicate, quoteRun?,
    if_neg (show ¬ run + 2 + 1 < 3 by omega), if_pos (show run + 2 + 1 ≤ 5 by omega),
    List.drop_succ_cons, List.drop_left', List.length_replicate]
  simp

theorem lines_of_form (form : EscapeForm true c written) :
    lines? '"' true (fuel + 1) done (written ++ rest) = lines? '"' true fuel (c :: done) rest := by
  cases form with
  | plain quote slash line back printable =>
      rw [List.singleton_append, lines?, if_neg quote, if_neg (fun both => slash both.1),
        lineBreak_none line back]
      simp only [if_pos printable]
  | kept keeps line =>
      subst line
      rfl
  | escape read joined =>
      rw [List.cons_append, lines?, if_neg (by decide), if_pos ⟨rfl, rfl⟩, joined]
      simp only [read, Option.bind_some]

/-- A character but a control is read as itself where there are no escapes. -/
theorem lines_of_plain (other : c ≠ quote) (shown : isControl c = false) :
    lines? quote false (fuel + 1) done (c :: rest) = lines? quote false fuel (c :: done) rest := by
  rw [lines?, if_neg other, if_neg (fun both => Bool.false_ne_true both.2)]
  by_cases line : c = '\n'
  · subst line
    rfl
  · rw [lineBreak_none line (ne_return_of_not_isControl shown)]
    simp only [if_pos (isPrintable_of_not_isControl shown line)]

/-- A form begins with a break only if it is one. -/
theorem EscapeForm.unbroken {breaks : Bool} (form : EscapeForm breaks c written) (line : c ≠ '\n')
    (next : List Char) : lineBreak? (written ++ next) = none := by
  cases form with
  | plain quote slash line back => exact lineBreak_none line back
  | kept keeps same => exact absurd same line
  | escape read joined => exact lineBreak_none (by decide) (by decide)

/-- The first character of a form but a lone double quote is none. -/
theorem EscapeForm.head_ne {breaks : Bool} (form : EscapeForm breaks c written) (next : List Char) :
    (written ++ next).head? ≠ some '"' := by
  cases form with
  | plain quote => simpa using quote
  | kept keeps line => simp
  | escape read joined => simp

/-- Escaped characters are read up to the three double quotes that follow them. The quotes of the
run before them are still to be counted. -/
theorem lines_escaped (short : run ≤ 2) (other : rest.head? ≠ some '"')
    (enough : (List.replicate run '"' ++
      (escaped 2 true run cs ++ (List.replicate 3 '"' ++ rest))).length ≤ fuel) :
    lines? '"' true fuel done (List.replicate run '"' ++
        (escaped 2 true run cs ++ (List.replicate 3 '"' ++ rest))) =
      some (String.ofList (done.reverse ++ (List.replicate run '"' ++ cs)), rest) := by
  induction cs generalizing fuel run done with
  | nil =>
      rw [escaped, List.nil_append, List.append_nil]
      refine lines_closing short other (Nat.lt_of_lt_of_le ?_ enough)
      simp
  | cons c cs ih =>
      have merged (xs : List Char) :
          List.replicate run '"' ++ '"' :: xs = List.replicate (run + 1) '"' ++ xs := by
        simp [List.replicate_succ']
      -- a plain quote only makes the run longer; whatever else comes ends it and starts at none
      by_cases grows : c = '"' ∧ run < 2
      · obtain ⟨rfl, short⟩ := grows
        rw [escaped, if_pos rfl, if_pos short, List.cons_append, merged] at enough ⊢
        rw [ih short enough, merged]
      · have read : ∃ written, EscapeForm true c written ∧
            escaped 2 true run (c :: cs) = written ++ escaped 2 true 0 cs := by
          by_cases quote : c = '"'
          · refine ⟨['\\', '"'], quote ▸ quoteForm true, ?_⟩
            rw [escaped, if_pos quote, if_neg (fun short => grows ⟨quote, short⟩)]
            rfl
          · exact ⟨escapeOf true c, escapeForm quote true, escaped_of_ne quote 2 true run cs⟩
        obtain ⟨written, form, escaped_eq⟩ := read
        have used := form.length_pos
        rw [escaped_eq, List.append_assoc] at enough ⊢
        obtain ⟨left, enough_left, pending⟩ := lines_pending true done short
          (form.head_ne (escaped 2 true 0 cs ++ (List.replicate 3 '"' ++ rest))) enough
        rw [List.length_append] at enough_left
        obtain ⟨left, rfl⟩ := Nat.exists_eq_add_one_of_ne_zero (n := left) (by omega)
        have tail : (escaped 2 true 0 cs ++ (List.replicate 3 '"' ++ rest)).length ≤ left := by
          omega
        have closed := @ih left 0 (c :: (List.replicate run '"' ++ done)) (Nat.zero_le 2)
          (by simpa using tail)
        rw [List.replicate_zero, List.nil_append, List.nil_append] at closed
        rw [pending, lines_of_form form, closed]
        simp

/-! ## Between three single quotes -/

/-- One more character in the count of the longest run of a quote. -/
def countRun (quote : Char) (run : Nat × Nat) (c : Char) : Nat × Nat :=
  if c = quote then (run.1 + 1, max run.2 (run.1 + 1)) else (0, run.2)

theorem longestRunOf_eq (quote : Char) (cs : List Char) :
    longestRunOf quote cs = (cs.foldl (countRun quote) (0, 0)).2 := rfl

/-- The longest run only grows. -/
theorem le_foldl_countRun (quote : Char) (cs : List Char) (state : Nat × Nat) :
    state.2 ≤ (cs.foldl (countRun quote) state).2 := by
  induction cs generalizing state with
  | nil => exact Nat.le_refl _
  | cons c cs ih =>
      refine Nat.le_trans ?_ (ih _)
      rw [countRun]
      split
      · exact Nat.le_max_left _ _
      · exact Nat.le_refl _

/-- Only a text without the quote has no run of it. -/
theorem not_mem_of_longestRunOf (none : longestRunOf quote cs = 0) : quote ∉ cs := by
  rw [longestRunOf_eq] at none
  generalize (0, 0) = state at none
  induction cs generalizing state with
  | nil => exact List.not_mem_nil
  | cons c cs ih =>
      rw [List.foldl_cons] at none
      have step := le_foldl_countRun quote cs (countRun quote state c)
      intro mem
      rcases List.mem_cons.mp mem with rfl | later
      · rw [none, countRun, if_pos rfl] at step
        omega
      · exact ih _ none later

/-- Plain characters are read up to the three single quotes that follow them. -/
theorem lines_plain {q : Char} (short : run ≤ 2) (other : rest.head? ≠ some q)
    (runs : (cs.foldl (countRun q) (run, best)).2 ≤ 2)
    (plain : ∀ c ∈ cs, isControl c = false)
    (enough : (List.replicate run q ++ (cs ++ (List.replicate 3 q ++ rest))).length ≤ fuel) :
    lines? q false fuel done (List.replicate run q ++ (cs ++ (List.replicate 3 q ++ rest))) =
      some (String.ofList (done.reverse ++ (List.replicate run q ++ cs)), rest) := by
  induction cs generalizing fuel run best done with
  | nil =>
      rw [List.nil_append, List.append_nil]
      refine lines_closing short other (Nat.lt_of_lt_of_le ?_ enough)
      simp
  | cons c cs ih =>
      obtain ⟨shown, rest_plain⟩ := List.forall_mem_cons.mp plain
      have merged (xs : List Char) :
          List.replicate run q ++ q :: xs = List.replicate (run + 1) q ++ xs := by
        simp [List.replicate_succ']
      rw [List.foldl_cons, countRun] at runs
      by_cases quote : c = q
      · subst quote
        rw [if_pos rfl] at runs
        have grown := Nat.le_trans (le_foldl_countRun _ cs _) runs
        rw [List.cons_append, merged] at enough ⊢
        rw [ih (by omega) runs rest_plain enough, merged]
      · rw [if_neg quote] at runs
        obtain ⟨left, enough_left, pending⟩ := lines_pending false done short
          (show (c :: cs ++ (List.replicate 3 q ++ rest)).head? ≠ some q by simpa using quote)
          enough
        rw [List.cons_append, List.length_cons] at enough_left
        obtain ⟨left, rfl⟩ := Nat.exists_eq_add_one_of_ne_zero (n := left) (by omega)
        have closed := @ih left 0 best (c :: (List.replicate run q ++ done)) (Nat.zero_le 2) runs
          rest_plain (by simpa using enough_left)
        rw [List.replicate_zero, List.nil_append, List.nil_append] at closed
        rw [pending, List.cons_append, lines_of_plain quote shown, closed]
        simp

end Lines

/-! ## Between single quotes -/

/-- Plain characters are read up to the single quote that follows them. -/
theorem literalLine_plain {cs : List Char} (rest : List Char) (unquoted : '\'' ∉ cs)
    (printable : ∀ c ∈ cs, isPrintable c = true) :
    literalLine? (cs ++ '\'' :: rest) = some (String.ofList cs, rest) := by
  rw [literalLine?, span_until unquoted]
  simp only [List.all_eq_true.mpr printable, if_true]

/-! ## Texts -/

section Quoted

variable {cs written rest : List Char} {quote : Char}

/-- Text between double quotes is read back. -/
theorem text_basic (other : rest.head? ≠ some '"') :
    text? (basic cs ++ rest) = some (String.ofList cs, rest) := by
  have read : basicLine? ((escaped 0 false 0 cs ++ '"' :: rest).length + 2) []
      (escaped 0 false 0 cs ++ '"' :: rest) = some (String.ofList cs, rest) :=
    basicLine_escaped (Nat.le_add_right _ 2)
  have opened : basic cs ++ rest = '"' :: (escaped 0 false 0 cs ++ '"' :: rest) := by
    simp [basic]
  have single : ∀ next, escaped 0 false 0 cs ++ '"' :: rest ≠ '"' :: '"' :: next := by
    intro next same
    cases cs with
    | nil =>
        have head := (List.cons.inj same).2
        exact other (congrArg List.head? head)
    | cons c cs =>
        obtain ⟨written, form, escaped_eq⟩ := escaped_cons c cs
        rw [escaped_eq, List.append_assoc] at same
        exact form.head_ne _ (congrArg List.head? same)
  rw [opened, text?.eq_def]
  split
  · next same => exact absurd (List.cons.inj same).2 (single _)
  · next same => cases (List.cons.inj same).1
  · next same =>
    obtain ⟨-, rfl⟩ := List.cons.inj same
    exact read
  · next same => cases (List.cons.inj same).1
  · next unread _ => exact absurd rfl (unread _)

/-- Text between single quotes is read back. -/
theorem text_literal (filled : cs ≠ []) (unquoted : '\'' ∉ cs)
    (printable : ∀ c ∈ cs, isPrintable c = true) :
    text? (literal cs ++ rest) = some (String.ofList cs, rest) := by
  have read := literalLine_plain rest unquoted printable
  have opened : literal cs ++ rest = '\'' :: (cs ++ '\'' :: rest) := by
    simp [literal]
  rw [opened, text?.eq_def]
  split
  · next same => cases (List.cons.inj same).1
  · next same =>
    obtain ⟨c, cs, rfl⟩ := List.exists_cons_of_ne_nil filled
    have head := (List.cons.inj (List.cons.inj same).2).1
    exact absurd (head ▸ List.mem_cons_self) unquoted
  · next same => cases (List.cons.inj same).1
  · next same =>
    obtain ⟨-, rfl⟩ := List.cons.inj same
    exact read
  · next unread => exact absurd rfl (unread _)

/-- Three quotes and the break after them open a text of several lines. -/
theorem skipFirstBreak_tripled {next : List Char}
    (opening : '\n' ∉ cs → lineBreak? (written ++ next) = none) :
    skipFirstBreak ((if cs.contains '\n' then ['\n'] else []) ++ (written ++ next)) =
      written ++ next := by
  split
  · rfl
  · next flat =>
    rw [List.contains_iff_mem] at flat
    rw [List.nil_append, skipFirstBreak, opening flat]
    rfl

/-- Three quotes open a text that may have several lines. -/
theorem text_tripled (marked : quote = '"' ∨ quote = '\'')
    (opening : '\n' ∉ cs → lineBreak? (written ++ (List.replicate 3 quote ++ rest)) = none) :
    ∃ fuel, (written ++ (List.replicate 3 quote ++ rest)).length ≤ fuel ∧
      text? (tripled quote cs written ++ rest) =
        lines? quote (quote == '"') fuel [] (written ++ (List.replicate 3 quote ++ rest)) := by
  have opened : tripled quote cs written ++ rest = quote :: quote :: quote ::
      ((if cs.contains '\n' then ['\n'] else []) ++
        (written ++ (List.replicate 3 quote ++ rest))) := by
    simp [tripled, List.replicate]
  refine ⟨(tripled quote cs written ++ rest).length + 1, ?_, ?_⟩
  · rw [opened]
    simp only [List.length_cons, List.length_append]
    omega
  · rw [opened]
    rcases marked with rfl | rfl
    · rw [text?, skipFirstBreak_tripled opening]
      rfl
    · rw [text?, skipFirstBreak_tripled opening]
      rfl

/-- Text between three double quotes is read back. -/
theorem text_tripledBasic (other : rest.head? ≠ some '"') :
    text? (tripled '"' cs (escaped 2 true 0 cs) ++ rest) = some (String.ofList cs, rest) := by
  have opening : '\n' ∉ cs →
      lineBreak? (escaped 2 true 0 cs ++ (List.replicate 3 '"' ++ rest)) = none := by
    intro flat
    cases cs with
    | nil => exact lineBreak_none (by decide) (by decide)
    | cons c cs =>
        by_cases quote : c = '"'
        · rw [escaped, if_pos quote, if_pos (by decide), quote]
          exact lineBreak_none (by decide) (by decide)
        · have line : c ≠ '\n' := fun same => flat (same ▸ List.mem_cons_self)
          rw [escaped_of_ne quote, List.append_assoc]
          exact (escapeForm quote true).unbroken line _
  obtain ⟨fuel, enough, read⟩ := text_tripled (.inl rfl) opening
  have all : lines? '"' true fuel [] _ = some (String.ofList cs, rest) :=
    @lines_escaped fuel 0 [] cs rest (Nat.zero_le 2) other enough
  exact read.trans all

/-- Text without controls between three single quotes is read back if it has no run of three. -/
theorem text_tripledPlain (other : rest.head? ≠ some '\'') (runs : longestRunOf '\'' cs ≤ 2)
    (plain : ∀ c ∈ cs, isControl c = false) :
    text? (tripled '\'' cs cs ++ rest) = some (String.ofList cs, rest) := by
  have opening : '\n' ∉ cs → lineBreak? (cs ++ (List.replicate 3 '\'' ++ rest)) = none := by
    intro flat
    cases cs with
    | nil => exact lineBreak_none (by decide) (by decide)
    | cons c cs =>
        have line : c ≠ '\n' := fun same => flat (same ▸ List.mem_cons_self)
        exact lineBreak_none line (ne_return_of_not_isControl (plain c List.mem_cons_self))
  obtain ⟨fuel, enough, read⟩ := text_tripled (.inr rfl) opening
  have all : lines? '\'' false fuel [] _ = some (String.ofList cs, rest) :=
    @lines_plain fuel 0 0 [] cs rest '\'' (Nat.zero_le 2) other runs plain enough
  exact read.trans all

end Quoted

/-- A text is read back from its quoted form, unless a quote follows. -/
theorem text_quotedChars (cs : List Char) {rest : List Char}
    (double : rest.head? ≠ some '"') (single : rest.head? ≠ some '\'') :
    text? (quotedChars cs ++ rest) = some (String.ofList cs, rest) := by
  simp only [quotedChars]
  split
  · exact text_basic double
  · next unplain =>
    split
    · next flat =>
      simp only [Bool.and_eq_true, Bool.not_eq_true', beq_iff_eq, List.contains_eq_mem,
        decide_eq_false_iff_not, List.any_eq_false, Bool.not_eq_true] at flat
      obtain ⟨⟨plain, unquoted⟩, unbroken⟩ := flat
      refine text_literal ?_ (not_mem_of_longestRunOf unquoted) ?_
      · rintro rfl
        exact unplain rfl
      · intro c mem
        exact isPrintable_of_not_isControl (plain c mem) fun line => unbroken (line ▸ mem)
    split
    · exact text_tripledBasic double
    split
    · next plain =>
      simp only [Bool.and_eq_true, Bool.not_eq_true', decide_eq_true_eq, List.any_eq_false,
        Bool.not_eq_true] at plain
      exact text_tripledPlain single plain.2 plain.1
    split
    · exact text_tripledBasic double
    · exact text_basic double

/-! ## Keys -/

theorem isBare_ne_quote {c : Char} (bare : isBare c = true) : c ≠ '"' ∧ c ≠ '\'' := by
  constructor
  · rintro rfl
    cases bare
  · rintro rfl
    cases bare

/-- A key is read back; bare ones end where something else begins. -/
theorem simpleKey_keyChars (cs : List Char) {c : Char} (rest : List Char)
    (other : isBare c = false) :
    simpleKey? (keyChars cs ++ c :: rest) = some (String.ofList cs, c :: rest) := by
  have basic_read (tail : List Char) :
      simpleKey? (basic cs ++ tail) = some (String.ofList cs, tail) := by
    have opened : basic cs ++ tail = '"' :: (escaped 0 false 0 cs ++ '"' :: tail) := by
      simp [basic]
    rw [opened, simpleKey?]
    exact basicLine_escaped (Nat.le_add_right _ 2)
  simp only [keyChars]
  split
  · next bare =>
    simp only [Bool.and_eq_true, Bool.not_eq_true', List.all_eq_true] at bare
    obtain ⟨filled, bare⟩ := bare
    have cut : (cs ++ c :: rest).span isBare = (cs, c :: rest) :=
      span_append bare (by simpa using other)
    obtain ⟨d, ds, rfl⟩ := List.exists_cons_of_ne_nil (List.isEmpty_eq_false_iff.mp filled)
    have unquoted := isBare_ne_quote (bare d List.mem_cons_self)
    rw [simpleKey?.eq_def]
    split
    · next same => exact absurd (List.cons.inj same).1 unquoted.1
    · next same => exact absurd (List.cons.inj same).1 unquoted.2
    · simp only [cut, filled]
      rfl
  split
  · exact basic_read _
  split
  · next flat =>
    have opened : literal cs ++ c :: rest = '\'' :: (cs ++ '\'' :: c :: rest) := by
      simp [literal]
    rw [opened, simpleKey?]
    simp only [Bool.and_eq_true, Bool.not_eq_true', List.contains_eq_mem,
      decide_eq_false_iff_not, List.any_eq_false, Bool.or_eq_true, beq_iff_eq, not_or,
      Bool.not_eq_true] at flat
    refine literalLine_plain _ flat.2 fun c mem => ?_
    exact isPrintable_of_not_isControl (flat.1 c mem).1 (flat.1 c mem).2
  · exact basic_read _

end Toml

end LoadHarness
