import LoadHarness.Toml.Moment

/-!
# Reading TOML

A document consists of lines: comments, headers and keys with their values. Every key is given
once. Arrays may run over several lines and end in a comma; tables in braces may not.
-/

namespace LoadHarness

namespace Toml

/-- The rest of a line after its blanks: a comment of printable characters or nothing. -/
def endOfLine? (cs : List Char) : Option (List Char) :=
  let rest := match skipSpace cs with
    | '#' :: rest => rest.dropWhile isPrintable
    | rest => rest
  if rest.isEmpty then some [] else lineBreak? rest

/-- Skips blanks, breaks and comments. -/
def skipLines? (fuel : Nat) (cs : List Char) : Option (List Char) :=
  match fuel with
  | 0 => none
  | fuel + 1 =>
    match skipSpace cs with
    | [] => some []
    | '#' :: rest =>
      (endOfLine? ('#' :: rest)).bind fun rest => skipLines? fuel rest
    | rest =>
      match lineBreak? rest with
      | some rest => skipLines? fuel rest
      | none => some rest

mutual

/-- Reads a value; `depth` more brackets or braces may open. -/
def value? (fuel depth : Nat) (cs : List Char) : Option (TomlValue × List Char) :=
  match fuel with
  | 0 => none
  | fuel + 1 =>
    match cs with
    | '[' :: rest => if depth = 0 then none else array? fuel (depth - 1) [] rest
    | '{' :: rest =>
      if depth = 0 then none
      else match skipSpace rest with
        | '}' :: rest => some (.table .braces [], rest)
        | rest => inline? fuel (depth - 1) [] rest
    | c :: rest =>
      if c = '"' ∨ c = '\'' then (text? (c :: rest)).map fun (s, rest) => (.text s, rest)
      else scalar? (c :: rest)
    | [] => none

/-- Reads the items of an array up to its end, the read ones last first. -/
def array? (fuel depth : Nat) (done : List TomlValue) (cs : List Char) :
    Option (TomlValue × List Char) :=
  match fuel with
  | 0 => none
  | fuel + 1 =>
    match skipLines? (cs.length + 1) cs with
    | none => none
    | some (']' :: rest) => some (.array done.reverse, rest)
    | some rest =>
      match value? fuel depth rest with
      | none => none
      | some (item, rest) =>
        match skipLines? (rest.length + 1) rest with
        | some (',' :: rest) => array? fuel depth (item :: done) rest
        | some (']' :: rest) => some (.array (item :: done).reverse, rest)
        | _ => none

/-- Reads the entries of a table in braces up to its end. -/
def inline? (fuel depth : Nat) (done : TomlEntries) (cs : List Char) :
    Option (TomlValue × List Char) :=
  match fuel with
  | 0 => none
  | fuel + 1 =>
    match dottedKey? nestingBound cs with
    | some (keys, '=' :: rest) =>
      match value? fuel depth (skipSpace rest) with
      | none => none
      | some (value, rest) =>
        match TomlEntries.addDotted? value keys.dropLast (keys.getLastD "") done with
        | none => none
        | some done =>
          match skipSpace rest with
          | ',' :: rest => inline? fuel depth done rest
          | '}' :: rest => some (.table .braces done, rest)
          | _ => none
    | _ => none

end

/-- A document as far as it is read: its root, and the header that the next keys stand under. -/
structure Draft where
  root : TomlEntries
  header : List String

/-- Reads a header in single or double brackets. -/
def header? (draft : Draft) (cs : List Char) : Option (Draft × List Char) := do
  let repeated := (cs.take 2 == ['[', '['])
  let (keys, rest) ← dottedKey? nestingBound (cs.drop (if repeated then 2 else 1))
  let rest ← mark? ']' rest
  let rest ← if repeated then mark? ']' rest else some rest
  let change := if repeated then TomlEntries.openItem? else TomlEntries.openTable?
  let root ← TomlEntries.within? (change (keys.getLastD "")) keys.dropLast draft.root
  return ({ root, header := keys }, rest)

/-- Reads a key with its value. -/
def keyValue? (draft : Draft) (cs : List Char) : Option (Draft × List Char) := do
  let (keys, rest) ← dottedKey? nestingBound cs
  let rest ← mark? '=' rest
  let rest := skipSpace rest
  let (value, rest) ← value? (2 * rest.length + 2) nestingBound rest
  let root ← TomlEntries.within?
    (TomlEntries.addDotted? value keys.dropLast (keys.getLastD "")) draft.header draft.root
  return ({ draft with root }, rest)

/-- Reads lines up to the end of the document. -/
def lineByLine? (fuel : Nat) (draft : Draft) (cs : List Char) : Option TomlEntries :=
  match fuel with
  | 0 => none
  | fuel + 1 =>
    match skipLines? (cs.length + 1) cs with
    | none => none
    | some [] => some draft.root
    | some (c :: rest) =>
      match (if c = '[' then header? draft (c :: rest) else keyValue? draft (c :: rest)) with
      | none => none
      | some (draft, rest) =>
        match endOfLine? rest with
        | none => none
        | some rest => lineByLine? fuel draft rest

/-- Reads a document; a mark of the byte order in front of it does not count. -/
def ofText? (text : String) : Option TomlEntries :=
  let cs := match text.toList with
    | '\uFEFF' :: rest => rest
    | cs => cs
  (lineByLine? (cs.length + 1) ⟨[], []⟩ cs).bind resolveDocument?

end Toml

end LoadHarness
