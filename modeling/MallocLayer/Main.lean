import MallocLayer.Cli.Run
import MallocLayer.Timestamp

/-!
# The program

The command line over the files of the system.
-/

namespace MallocLayer

/-- The cause of a failed operation. The system gives its codes as they are or
negated: 20 for a path that runs through a file, and 36 for one that is too
long. -/
def FileError.ofIO : IO.Error → FileError
  | .noFileOrDirectory _ _ _ | .noSuchThing _ _ _ => .notFound
  | .alreadyExists _ _ _ => .alreadyExists
  | .inappropriateType _ code _ =>
    if code = 20 ∨ code + 20 = 0 then .notADirectory else .isADirectory
  | .invalidArgument file code details =>
    if code = 36 ∨ code + 36 = 0 then .nameTooLong
    else .other (toString (IO.Error.invalidArgument file code details))
  | err => .other (toString err)

/-- Runs an operation and catches its failure. -/
def attemptIO {β : Type} (op : IO β) : IO (Except FileError β) := do
  try return .ok (← op)
  catch err => return .error (.ofIO err)

instance : FileStore IO where
  read path := attemptIO (IO.FS.readBinFile path)
  write path contents := attemptIO (IO.FS.writeFile path contents)
  makeDirectory path := attemptIO (IO.FS.createDir path)
  isDirectory path := do
    match ← attemptIO (IO.FS.realPath path) with
    | .ok found => found.isDir
    | .error _ => return false

/-- The time is that of a file written for the purpose, which is removed
again. -/
def unixMillis : IO Nat := do
  let (handle, path) ← IO.FS.createTempFile
  handle.putStr "."
  handle.flush
  let modified := (← path.metadata).modified
  IO.FS.removeFile path
  return modified.sec.toNat * 1000 + modified.nsec.toNat / 1000000

instance : Clock IO where
  now := return Timestamp.ofUnixMillis (← unixMillis)
  timed f := do
    let start ← IO.monoNanosNow
    let result ← IO.lazyPure f
    let stop ← IO.monoNanosNow
    return (result, UInt64.ofNat (stop - start))

end MallocLayer

open MallocLayer in
def main (args : List String) : IO UInt32 := do
  let result : Cli.Result ← Cli.run args
  IO.print result.printed
  for message in result.messages do
    IO.eprintln message
  return result.status.toUInt32
