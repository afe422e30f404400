import MallocLayer.Files
import MallocLayer.Json.Printer
import MallocLayer.Sha256

/-!
# The index of artifacts

Lists the files of a run with their digests, so that a log can be tied to what
it speaks of.
-/

namespace MallocLayer

/-- A file of a run. -/
structure Artifact where
  path : String
  kind : String
  sha256 : String
  size : UInt64
deriving DecidableEq, Repr

/-- The files of a run. -/
structure ArtifactIndex where
  runId : String
  generated : String
  artifacts : List Artifact := []
deriving DecidableEq, Repr

namespace Artifact

/-- The artifact with the given contents. -/
def ofContents (path kind : String) (contents : ByteArray) : Artifact where
  path := path
  kind := kind
  sha256 := Sha256.hexDigest contents
  size := UInt64.ofNat contents.size

def toJson (a : Artifact) : Json :=
  .object [("path", .string a.path), ("kind", .string a.kind), ("sha256", .string a.sha256),
    ("size_bytes", .word a.size)]

end Artifact

namespace ArtifactIndex

/-- The version of the format. -/
def version : UInt64 := 1

/-- Adds a file. -/
def addFile {m : Type → Type} [Monad m] [FileStore m] (index : ArtifactIndex)
    (path kind : String) : m (Except FileError ArtifactIndex) := do
  match ← FileStore.read path with
  | .error err => return .error err
  | .ok contents =>
    return .ok { index with artifacts := index.artifacts ++ [.ofContents path kind contents] }

def toJson (index : ArtifactIndex) : Json :=
  .object [("index_version", .word version), ("run_id", .string index.runId),
    ("generated_utc", .string index.generated),
    ("artifacts", .array (index.artifacts.map Artifact.toJson))]

end ArtifactIndex

end MallocLayer
