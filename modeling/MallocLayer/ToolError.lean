import MallocLayer.ExportPrefix
import MallocLayer.Files

/-!
# Failures of the tool
-/

namespace MallocLayer

/-- Why a command of the tool failed. -/
inductive ToolError where
  | file (path : String) (cause : FileError)
  | exportPrefix (cause : PrefixError)
  /-- Some scenarios of a self-check failed. -/
  | selfCheckFailed (failed total : Nat)
  /-- A log has faults. -/
  | invalidLog (path : String) (faults lines : Nat)
deriving DecidableEq, Repr

namespace ToolError

def message : ToolError → String
  | .file path cause => path ++ ": " ++ cause.message
  | .exportPrefix cause => cause.message
  | .selfCheckFailed failed total => s!"{failed} of {total} self-check scenarios failed"
  | .invalidLog path faults lines => s!"{path}: {faults} invalid log lines out of {lines}"

end ToolError

end MallocLayer
