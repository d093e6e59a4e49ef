import LoadHarness.Text.Split

/-!
# File trees

The files and directories below a working directory, as far as the program reads and writes
them. A path is a text; its parts stand between slashes, a dot stays where it is and two dots
go up. The working directory is the top of the tree.
-/

namespace LoadHarness

/-- Directories and files with their contents, each by the names that lead to it. -/
structure FileTree where
  directories : List (List String)
  files : List (List String × String)

/-- Why a file or directory cannot be read or written. -/
inductive FileError where
  | notFound
  | notADirectory
  | isADirectory
  | alreadyThere
  | nameTooLong
  | badName
  deriving DecidableEq

def FileError.message : FileError → String
  | notFound => "No such file or directory (os error 2)"
  | notADirectory => "Not a directory (os error 20)"
  | isADirectory => "Is a directory (os error 21)"
  | alreadyThere => "File exists (os error 17)"
  | nameTooLong => "File name too long (os error 36)"
  | badName => "file name contained an unexpected NUL byte"

/-- What a path leads to. -/
inductive Place where
  | directory (names : List String)
  | file (names : List String)
  /-- Nothing yet, in an existing directory. -/
  | vacant (names : List String)
  /-- Nothing yet, but only a directory could be there. -/
  | vacantDirectory
  | unreachable (error : FileError)

namespace FileTree

def empty : FileTree := ⟨[], []⟩

/-- The parts of a path between slashes. -/
def partsOf (path : String) : List String :=
  (splitChars '/' path.toList).map String.ofList

/-- The most bytes that a name can have. -/
def longestName : Nat := 255

/-- The most bytes that a path can have. -/
def longestPath : Nat := 4095

def hasDirectory (t : FileTree) (names : List String) : Bool :=
  names.isEmpty || t.directories.contains names

def hasFile (t : FileTree) (names : List String) : Bool := t.files.any (·.1 == names)

/-- Follows parts from a directory. -/
def follow (t : FileTree) (current : List String) : List String → Place
  | [] => .directory current
  | part :: rest =>
    if part = "" ∨ part = "." then follow t current rest
    else if part = ".." then follow t current.dropLast rest
    else
      let names := current ++ [part]
      if longestName < part.utf8ByteSize then .unreachable .nameTooLong
      else if t.hasDirectory names then follow t names rest
      else if t.hasFile names then
        (if rest.isEmpty then .file names else .unreachable .notADirectory)
      else if rest.isEmpty then .vacant names
      else if rest.all (·.isEmpty) then .vacantDirectory
      else .unreachable .notFound

/-- What is wrong with a path whatever it leads to. -/
def pathError? (path : String) : Option FileError :=
  if path.toList.contains '\x00' then some .badName
  else if path.isEmpty then some .notFound
  else if longestPath < path.utf8ByteSize then some .nameTooLong
  else none

/-- What a path leads to. -/
def locate (t : FileTree) (path : String) : Place :=
  match pathError? path with
  | some error => .unreachable error
  | none => t.follow [] (partsOf path)

/-- Whether a path leads to a file or a directory. -/
def contains (t : FileTree) (path : String) : Bool :=
  match t.locate path with
  | .directory _ | .file _ => true
  | .vacant _ | .vacantDirectory | .unreachable _ => false

/-- The contents of the file that a path leads to. -/
def read? (t : FileTree) (path : String) : Option String :=
  match t.locate path with
  | .file names => (t.files.find? (·.1 == names)).map Prod.snd
  | _ => none

/-- Writes a file, new or in place of an old one. -/
def write (t : FileTree) (path contents : String) : Except FileError FileTree :=
  match t.locate path with
  | .vacant names => .ok { t with files := t.files ++ [(names, contents)] }
  | .file names =>
    .ok { t with
      files := t.files.map fun f => if f.1 == names then (names, contents) else f }
  | .directory _ | .vacantDirectory => .error .isADirectory
  | .unreachable error => .error error

/-- Creates the missing directories along parts. -/
def createAlong (t : FileTree) (current : List String) :
    List String → Except FileError FileTree
  | [] => .ok t
  | part :: rest =>
    if part = "" ∨ part = "." then createAlong t current rest
    else if part = ".." then createAlong t current.dropLast rest
    else
      let names := current ++ [part]
      if longestName < part.utf8ByteSize then .error .nameTooLong
      else if t.hasFile names then
        .error (if rest.all (·.isEmpty) then .alreadyThere else .notADirectory)
      else if t.hasDirectory names then createAlong t names rest
      else createAlong { t with directories := t.directories ++ [names] } names rest

/-- Creates the directories of a path; an empty path needs none. -/
def createDirectories (t : FileTree) (path : String) : Except FileError FileTree :=
  match pathError? path with
  | some error => if path.isEmpty then .ok t else .error error
  | none => createAlong t [] (partsOf path)

/-- Drops slashes, and dots that stand after a slash, from a reversed path. -/
def dropTrailing : List Char → List Char
  | '/' :: rest => dropTrailing rest
  | '.' :: '/' :: rest => dropTrailing rest
  | cs => cs

/-- The path of the directory that a path lies in; empty for a single name. -/
def parentOf (path : String) : String :=
  let reversed := dropTrailing path.toList.reverse
  let up := (reversed.dropWhile (· ≠ '/'))
  let parent := dropTrailing up
  if parent.isEmpty ∧ !up.isEmpty then "/" else String.ofList parent.reverse

end FileTree

end LoadHarness
