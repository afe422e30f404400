import MallocLayer.Files.Path

/-!
# Files

The operations on files that the tool needs, for any monad that has them.
Directories are made one at a time, and `createDirectories` makes those that
are missing on the way.
-/

namespace MallocLayer

/-- A place where files are kept. -/
class FileStore (m : Type → Type) where
  /-- The contents of a file. -/
  read : (path : String) → m (Except FileError ByteArray)
  /-- Gives a file new contents. The file need not exist, but its directory
  must. -/
  write : (path contents : String) → m (Except FileError Unit)
  /-- Makes a directory inside one that exists. -/
  makeDirectory : (path : String) → m (Except FileError Unit)
  /-- Whether the path leads to a directory. -/
  isDirectory : (path : String) → m Bool

/-- A source of time. -/
class Clock (m : Type → Type) where
  /-- The current time, as a timestamp. -/
  now : m String
  /-- Runs a computation and measures it in nanoseconds. -/
  timed : {β : Type} → (Unit → β) → m (β × UInt64)

namespace FileStore

/-- The path of a file in a directory. A path from the root is not in any other
directory. -/
def join (directory file : String) : String :=
  if FilePath.startsAtRoot file then file
  else if directory.isEmpty || directory.toList.getLast? == some '/' then directory ++ file
  else directory ++ "/" ++ file

variable {m : Type → Type} [Monad m] [FileStore m]

/-- The contents of a text file. -/
def readText (path : String) : m (Except FileError String) := do
  match ← FileStore.read path with
  | .error err => return .error err
  | .ok contents =>
    match String.fromUTF8? contents with
    | some text => return .ok text
    | none => return .error .invalidUtf8

/-- Makes a directory unless it is there. -/
def ensureDirectory (path : String) : m (Except FileError Unit) := do
  match ← FileStore.makeDirectory path with
  | .error .alreadyExists =>
    return if ← FileStore.isDirectory path then .ok () else .error .alreadyExists
  | result => return result

/-- Makes the first of some directories, where each lies in the next. When its
place is missing, that is made first. -/
def ensureWithin : (paths : List String) → m (Except FileError Unit)
  | [] => return .ok ()
  | path :: around => do
    match ← ensureDirectory path with
    | .error .notFound =>
      match ← ensureWithin around with
      | .ok () => ensureDirectory path
      | .error err => return .error err
    | result => return result

/-- Makes a directory and those that it lies in. One that exists is fine, and so is
the empty path, for which nothing has to be made. -/
def createDirectories (path : String) : m (Except FileError Unit) :=
  if path.isEmpty then return .ok () else ensureWithin (path :: FilePath.around path)

end FileStore

end MallocLayer
