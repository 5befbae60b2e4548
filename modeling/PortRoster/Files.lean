import PortRoster.Text.Cut

/-! # Text files

What a program sees of the file system: for every path a text, or the reason why there is none. A
*directory tree* in memory gives such a view. -/

namespace PortRoster

/-- What is found at a path. -/
inductive FileContent where
  /-- Nothing is there. -/
  | missing
  /-- Something is there that cannot be read as a text. -/
  | unreadable (reason : String)
  | text (s : String)
  deriving DecidableEq, Repr

/-- A view of the file system. -/
abbrev Files := String → FileContent

/-- The path of a name below a directory. A slash is put between them unless the directory ends with
one. -/
def joinPath (directory name : String) : String :=
  if Text.endsWith ['/'] directory.toList then directory ++ name else directory ++ "/" ++ name

/-- A tree of directories that holds text files. -/
structure Tree where
  /-- The names on the way from the root to the working directory. -/
  working : List String
  /-- The files, each with the names on the way to it. -/
  files : List (List String × String)

namespace Tree

/-- The names in a path. Two slashes in a row, or one at an end, have an empty name between them. -/
def names (path : String) : List String := (Text.cutAt '/' path.toList).map String.ofList

/-- The place where a path leads from another place. -/
def placeOf : (place : List String) → List String → List String
  | place, [] => place
  | place, name :: rest =>
    if name = "" ∨ name = "." then placeOf place rest
    else if name = ".." then placeOf place.dropLast rest
    else placeOf (place ++ [name]) rest

/-- A tree of files that are given by paths, seen from the working directory. A later file takes the
place of an earlier one. -/
def ofPaths (working : List String) (files : List (String × String)) : Tree :=
  ⟨working, files.reverse.map fun f => (placeOf working (names f.1), f.2)⟩

/-- What is found where a directory is. -/
def directoryContent : FileContent := .unreadable "Is a directory (os error 21)"

/-- There is a directory at a place. -/
def hasDirectory (t : Tree) (place : List String) : Bool :=
  place.isPrefixOf t.working || t.files.any fun f => place.isPrefixOf f.1 && f.1 ≠ place

/-- Follows names from a directory. -/
def follow (t : Tree) : (place : List String) → List String → FileContent
  | _, [] => directoryContent
  | place, name :: rest =>
    if name = "" ∨ name = "." then follow t place rest
    else if name = ".." then follow t place.dropLast rest
    else
      match t.files.lookup (place ++ [name]) with
      | some s => if rest = [] then .text s else .missing
      | none =>
        if t.hasDirectory (place ++ [name]) then follow t (place ++ [name]) rest else .missing

/-- The most bytes that a path may have. -/
def longestPath : Nat := 4095

/-- What is found at a path: from the root if it begins with a slash, else from the working
directory. Nothing is at a path that is empty or too long. -/
def read (t : Tree) : Files := fun path =>
  if longestPath < path.utf8ByteSize then .missing
  else
    match path.toList with
    | [] => .missing
    | '/' :: _ => follow t [] (names path)
    | _ => follow t t.working (names path)

end Tree

end PortRoster
