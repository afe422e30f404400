/-!
# Paths

A path is text with names between slashes. It is refused before anything is
looked up when it holds a zero character, is empty or is too long. What the
names lead to is up to the files; a name `.` stays where it is, and a name `..`
goes up, but only from a directory that exists.
-/

namespace MallocLayer

/-- Why an operation on a file failed. -/
inductive FileError where
  | notFound
  | alreadyExists
  | notADirectory
  | isADirectory
  /-- The path, or a name in it, is too long. -/
  | nameTooLong
  /-- The path holds a zero character. -/
  | zeroInPath
  /-- The contents are no text. -/
  | invalidUtf8
  /-- Any other cause, in the words of the system. -/
  | other (text : String)
deriving DecidableEq, Repr

namespace FileError

def message : FileError → String
  | .notFound => "No such file or directory (os error 2)"
  | .alreadyExists => "File exists (os error 17)"
  | .notADirectory => "Not a directory (os error 20)"
  | .isADirectory => "Is a directory (os error 21)"
  | .nameTooLong => "File name too long (os error 36)"
  | .zeroInPath => "file name contained an unexpected NUL byte"
  | .invalidUtf8 => "stream did not contain valid UTF-8"
  | .other text => text

end FileError

/-- A path as it is followed. -/
structure FilePath where
  /-- Whether the path starts at the root, and not where the tool works. -/
  absolute : Bool
  /-- The names along the path. -/
  names : List String
  /-- Whether the path ends in a slash, so that only a directory will do. -/
  asksDirectory : Bool
deriving DecidableEq, Repr

namespace FilePath

/-- The greatest number of bytes in a path. -/
def longest : Nat := 4095

/-- The greatest number of bytes in a name. -/
def longestName : Nat := 255

/-- The names between the slashes of a text. -/
def namesOf (path : String) : List String :=
  ((path.toList.splitOn '/').map String.ofList).filter (· != "")

/-- Whether the text of a path starts at the root. -/
def startsAtRoot (path : String) : Bool := path.toList.head? == some '/'

/-- Reads a path. -/
def ofString (path : String) : Except FileError FilePath :=
  if '\x00' ∈ path.toList then .error .zeroInPath
  else if path = "" then .error .notFound
  else if longest < path.utf8ByteSize then .error .nameTooLong
  else .ok
    { absolute := startsAtRoot path, names := namesOf path,
      asksDirectory := path.toList.getLast? == some '/' }

/-- The paths of the directories around the place that a path leads to, the
innermost first. Names that stay in place do not count. -/
def around (path : String) : List String :=
  let names := (namesOf path).filter (· != ".")
  let start := if startsAtRoot path then "/" else ""
  ((List.range names.length).drop 1).reverse.map fun n => start ++ "/".intercalate (names.take n)

end FilePath

end MallocLayer
