import MallocLayer.Files

/-!
# A tree of files

Files kept as a value. A place in the tree is the list of the names that lead
to it from the root. A directory exists when it was made or when something lies
in it. A path is followed name by name, and each name is looked up in a
directory that has to exist.
-/

namespace MallocLayer

/-- A tree of files, as the lists of its files and of the directories made. -/
structure FileTree where
  /-- Where relative paths start. By default it has the empty name, which is in
  no path, so it is not found from outside. -/
  workingDirectory : List String := [""]
  files : List (List String × ByteArray) := []
  directories : List (List String) := [workingDirectory]

namespace FileTree

/-- The contents of the file at a place. -/
def file? (t : FileTree) (place : List String) : Option ByteArray := t.files.lookup place

/-- Whether there is a directory at a place. -/
def hasDirectory (t : FileTree) (place : List String) : Bool :=
  place.isEmpty || t.directories.any place.isPrefixOf ||
    t.files.any fun (file, _) => place.isPrefixOf file && place != file

/-- Whether there is anything at a place. -/
def has (t : FileTree) (place : List String) : Bool :=
  (t.file? place).isSome || t.hasDirectory place

/-- The place that a name leads to from another place. -/
def enter (t : FileTree) (place : List String) (name : String) :
    Except FileError (List String) :=
  if !t.hasDirectory place then .error .notADirectory
  else if name = "." then .ok place
  else if name = ".." then .ok place.dropLast
  else if FilePath.longestName < name.utf8ByteSize then .error .nameTooLong
  else if t.has (place ++ [name]) then .ok (place ++ [name])
  else .error .notFound

/-- What a path leads to. -/
inductive Target where
  /-- Something that exists. -/
  | found (place : List String)
  /-- A place in an existing directory where there is nothing yet. -/
  | vacant (place : List String)
deriving DecidableEq, Repr

/-- Follows a path. -/
def target (t : FileTree) (path : FilePath) : Except FileError Target :=
  let start := if path.absolute then [] else t.workingDirectory
  match path.names.getLast? with
  | none => .ok (.found start)
  | some last =>
    match path.names.dropLast.foldlM t.enter start with
    | .error err => .error err
    | .ok directory =>
      match t.enter directory last with
      | .ok place => .ok (.found place)
      | .error .notFound => .ok (.vacant (directory ++ [last]))
      | .error err => .error err

/-- Gives the file at a place new contents. -/
def put (t : FileTree) (place : List String) (contents : ByteArray) : FileTree :=
  { t with files := (place, contents) :: t.files.filter (·.1 != place) }

/-- The tree with a file, given by the names that lead to it from where relative
paths start. The directories that it lies in need not exist. -/
def withFile (t : FileTree) (path : String) (contents : ByteArray) : FileTree :=
  t.put (t.workingDirectory ++ (FilePath.namesOf path).filter (· != ".")) contents

/-- The contents of the file that a path leads to. -/
def read (t : FileTree) (path : String) : Except FileError ByteArray := do
  let path ← FilePath.ofString path
  match ← t.target path with
  | .vacant _ => throw .notFound
  | .found place =>
    match t.file? place with
    | none => throw .isADirectory
    | some contents => if path.asksDirectory then throw .notADirectory else return contents

/-- Gives the file that a path leads to new contents. -/
def write (t : FileTree) (path : String) (contents : ByteArray) :
    Except FileError FileTree := do
  let path ← FilePath.ofString path
  match ← t.target path with
  | .found place =>
    if path.asksDirectory || t.hasDirectory place then throw .isADirectory
    else return t.put place contents
  | .vacant place =>
    if path.asksDirectory then throw .isADirectory else return t.put place contents

/-- Makes the directory that a path leads to. -/
def makeDirectory (t : FileTree) (path : String) : Except FileError FileTree := do
  let path ← FilePath.ofString path
  match ← t.target path with
  | .found _ => throw .alreadyExists
  | .vacant place => return { t with directories := place :: t.directories }

/-- Whether a path leads to a directory. -/
def isDirectory (t : FileTree) (path : String) : Bool :=
  match FilePath.ofString path with
  | .error _ => false
  | .ok path =>
    match t.target path with
    | .ok (.found place) => t.hasDirectory place
    | _ => false

/-- Changes the tree, unless the change fails. -/
def change (f : FileTree → Except FileError FileTree) : StateM FileTree (Except FileError Unit) :=
  modifyGet fun t =>
    match f t with
    | .ok t => (.ok (), t)
    | .error err => (.error err, t)

instance : FileStore (StateM FileTree) where
  read path := return (← get).read path
  write path contents := change (·.write path contents.toUTF8)
  makeDirectory path := change (·.makeDirectory path)
  isDirectory path := return (← get).isDirectory path

/-- In a tree of files no time passes. -/
instance : Clock (StateM FileTree) where
  now := return "1970-01-01T00:00:00.000Z"
  timed f := return (f (), 0)

/-- The paths of all files below the place where relative paths start, in
order. -/
def paths (t : FileTree) : List String :=
  (t.files.filterMap fun (place, _) =>
    if t.workingDirectory.isPrefixOf place then
      some ("/".intercalate (place.drop t.workingDirectory.length))
    else none).mergeSort (· ≤ ·)

end FileTree

end MallocLayer
