import HydroArchive.Text.Split

/-!
# Paths to files

A path is worked off from left to right: each part leads from one place to the next, and can be
followed only from a directory.  So a path that passes through a directory and back is good, and one
that passes through a file, or through a place where nothing is, is not.

## Main definitions

* `Place` — a place in the tree of directories, seen from the working directory.
* `Files`, `Files.holding` — what is found at every place.
* `Files.read` — the text at the end of a path, or why there is none.
* `eq_foldl_of_walk` — a path that can be followed ends where its parts say.
-/

namespace HydroArchive

/-! ## Places -/

/-- The directories from which places are named. -/
inductive Base where
  | root
  /-- The directory so many levels above the working directory. -/
  | above (levels : Nat)
  deriving DecidableEq, Repr

/-- The directory that holds a base; the root holds itself. -/
def Base.parent : Base → Base
  | root => root
  | above levels => above (levels + 1)

/-- A place in the tree of directories: the names that lead down to it from a base. -/
structure Place where
  base : Base
  names : List String
  deriving DecidableEq, Repr

namespace Place

def start (path : String) : Place :=
  if path.toList.head? = some '/' then ⟨.root, []⟩ else ⟨.above 0, []⟩

/-- The place to which a part of a path leads. -/
def enter (p : Place) (part : String) : Place :=
  if part = "" ∨ part = "." then p
  else if part = ".." then
    match p.names with
    | [] => { p with base := p.base.parent }
    | names => { p with names := names.dropLast }
  else { p with names := p.names ++ [part] }

/-- The place that a path names, whatever is found on the way. -/
def named (path : String) : Place := (Text.split "/" path).foldl enter (start path)

end Place

/-! ## Files -/

/-- What is found at a place. -/
inductive FileContents where
  | text (contents : String)
  | missing
  | directory
  deriving DecidableEq, Repr

def FileContents.exists? : FileContents → Bool
  | missing => false
  | text _ | directory => true

/-- Why a path does not lead to a text. -/
inductive PathFailure where
  | zeroCharacter
  | missing
  | notDirectory
  | isDirectory
  | nameTooLong
  deriving DecidableEq, Repr

/-- What is said of a path that does not lead to a text. -/
def PathFailure.message : PathFailure → String
  | zeroCharacter => "file name contained an unexpected NUL byte"
  | missing => "No such file or directory (os error 2)"
  | notDirectory => "Not a directory (os error 20)"
  | isDirectory => "Is a directory (os error 21)"
  | nameTooLong => "File name too long (os error 36)"

/-- What is found at every place. -/
abbrev Files := Place → FileContents

namespace Files

/-- The files of a working directory: some directories and some texts, each named by its path.  Of
two texts at one place the last one counts.  Around them there are only directories. -/
def holding (directories : List String) (texts : List (String × String)) : Files := fun p =>
  match (texts.reverse.map fun t => (Place.named t.1, t.2)).lookup p with
  | some text => .text text
  | none =>
    if p.names.isEmpty || directories.any fun d => Place.named d == p then .directory else .missing

def maxNameBytes : Nat := 255

def maxPathBytes : Nat := 4095

/-- Follows the parts of a path from a place. -/
def walk (files : Files) (p : Place) : List String → Except PathFailure Place
  | [] => .ok p
  | part :: parts =>
    match files p with
    | .missing => .error .missing
    | .text _ => .error .notDirectory
    | .directory =>
      if maxNameBytes < part.utf8ByteSize then .error .nameTooLong
      else walk files (p.enter part) parts

def resolve (files : Files) (path : String) : Except PathFailure Place :=
  if path.toList.contains '\x00' then .error .zeroCharacter
  else if path.isEmpty then .error .missing
  else if maxPathBytes < path.utf8ByteSize then .error .nameTooLong
  else files.walk (Place.start path) (Text.split "/" path)

/-- The text at the end of a path. -/
def read (files : Files) (path : String) : Except PathFailure String := do
  match files (← files.resolve path) with
  | .text contents => .ok contents
  | .missing => .error .missing
  | .directory => .error .isDirectory

def exists? (files : Files) (path : String) : Bool :=
  match files.resolve path with
  | .ok p => (files p).exists?
  | .error _ => false

/-- A path that can be followed ends where its parts say. -/
theorem eq_foldl_of_walk {files : Files} {parts : List String} {p q : Place}
    (h : files.walk p parts = .ok q) : q = parts.foldl Place.enter p := by
  induction parts generalizing p with
  | nil => simpa [walk] using h.symm
  | cons part parts ih =>
    rw [walk] at h
    split at h
    · cases h
    · cases h
    · split at h
      · cases h
      · exact ih h

end Files

end HydroArchive
