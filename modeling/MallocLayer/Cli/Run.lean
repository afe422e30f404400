import MallocLayer.Cli.Arguments
import MallocLayer.LogEntry.Validation
import MallocLayer.Redirection
import MallocLayer.SelfCheck.Artifacts

/-!
# Running commands

Each command answers with a status, what it prints and what it reports. The
same code runs over the files of the system and over a tree of files.
-/

namespace MallocLayer.Cli

/-- What a command leaves behind, files apart. -/
structure Result where
  status : UInt8 := 0
  /-- What is printed. -/
  printed : String := ""
  /-- The messages, one or more lines each. -/
  messages : List String := []
deriving DecidableEq, Repr

/-- Text that ends with a line feed. -/
def line (s : String) : String := s ++ "\n"

/-- The result of a command that reported some messages and then ended. -/
def finish (messages : List String) : Except ToolError (List String) → Result
  | .ok more => { messages := messages ++ more }
  | .error err => { status := 1, messages := messages ++ ["error: " ++ err.message] }

/-- Prints the symbols of a build. -/
def symbols (exportPrefix targetOs : String) : Result :=
  match ExportPrefix.ofString exportPrefix with
  | .ok p => { printed := line (SymbolReport.toJson ⟨p, targetOs⟩).indented }
  | .error cause => finish [] (.error (.exportPrefix cause))

/-- The message on a verdict. -/
def verdictMessage (report : SelfCheck.Report) : String :=
  let tag := match report.outcome with
    | .pass => "[PASS] "
    | .fail => "[FAIL] "
    | .skip => "[SKIP] "
  tag ++ report.name ++ report.detail.elim "" (": " ++ ·)

variable {m : Type → Type} [Monad m] [FileStore m]

/-- Runs the scenarios and writes what they gave. -/
def selfCheck [Clock m] (directory runId : String) (filter : Option String) : m Result := do
  let run : SelfCheck ← SelfCheck.run filter
  let verdicts := run.reports.map verdictMessage
  match ← run.write directory runId with
  | .error err => return finish verdicts (.error err)
  | .ok written =>
    let messages := verdicts ++ ["Wrote " ++ written.log, "Wrote " ++ written.index]
    return finish messages <|
      if run.failed = 0 then .ok []
      else .error (.selfCheckFailed run.failed run.reports.length)

/-- Validates a log. -/
def validateLog (log : String) : m Result := do
  match ← FileStore.readText log with
  | .error cause => return finish [] (.error (.file log cause))
  | .ok text =>
    let report := LogReport.ofText text.toList
    return finish (report.faults.map LineFault.display) <|
      if report.faults.isEmpty then .ok [s!"{log}: {report.lines} valid lines"]
      else .error (.invalidLog log report.faults.length report.lines)

/-- Runs a command. -/
def runCommand [Clock m] : Command → m Result
  | .symbols exportPrefix targetOs => return symbols exportPrefix targetOs
  | .selfCheck directory runId filter list =>
    if list then return { printed := String.join (SelfCheck.names.map line) }
    else selfCheck directory runId filter
  | .validateLog log => validateLog log

/-- How the command line is used. -/
def usage : String :=
  String.join (["Usage:",
    "  symbols [--prefix PREFIX] [--target-os OS]",
    "  self-check [--out-dir DIR] [--run-id ID] [--filter PART] [--list]",
    "  validate-log --log FILE"].map line)

/-- Runs a command line. -/
def run [Clock m] (args : List String) : m Result :=
  match readCommand args with
  | .ok command => runCommand command
  | .error .help => return { printed := usage }
  | .error .misuse => return { status := 2, messages := [usage] }

end MallocLayer.Cli
