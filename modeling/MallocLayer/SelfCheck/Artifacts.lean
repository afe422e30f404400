import MallocLayer.ArtifactIndex
import MallocLayer.Emitter
import MallocLayer.SelfCheck.Run
import MallocLayer.ToolError

/-!
# Writing a self-check

A run is written as a log: an entry for its start, one for each scenario, one
for each lifecycle record, and one for its end. An index ties the log to its
digest.
-/

namespace MallocLayer.SelfCheck

/-- The name of the log in the output directory. -/
def logName : String := "selfcheck.log.jsonl"

/-- The name of the index in the output directory. -/
def indexName : String := "artifact_index.json"

/-- The JSON form of a count. -/
def count (n : Nat) : Json := .word (UInt64.ofNat n)

/-- The entry for the start of a run. Its trace id is filled in when it is
emitted, as are those of the verdicts and the end. -/
def startEntry (run : SelfCheck) (timestamp : String) : LogEntry :=
  { timestamp, traceId := "", level := .info, event := "run_start", stream := some .selfcheck,
    details := some (.object [("scenarios", count run.reports.length)]) }

/-- The entry for a verdict. -/
def verdictEntry (report : Report) (timestamp : String) : LogEntry :=
  { timestamp, traceId := "", level := if report.outcome = .fail then .error else .info,
    event := "scenario_result", stream := some .selfcheck, scenario := some report.name,
    symbol := some report.symbol, outcome := some report.outcome, errno := report.errno,
    durationNs := some report.durationNs,
    details := report.detail.map fun detail => .object [("detail", .string detail)] }

/-- The entry for the end of a run. -/
def endEntry (run : SelfCheck) (timestamp : String) : LogEntry :=
  { timestamp, traceId := "", level := if run.failed = 0 then .info else .error,
    event := "run_end", stream := some .selfcheck, artifactRefs := some [indexName],
    details := some (.object [("failed", count run.failed),
      ("lifecycle_records", count run.lifecycle.length),
      ("passed", count (run.reports.length - run.failed))]) }

/-- The entries of a run, each still to be given the time at which it is
written. -/
def entries (run : SelfCheck) : List (String → LogEntry) :=
  [startEntry run] ++ run.reports.map verdictEntry ++
    run.lifecycle.map (fun record timestamp => .ofRecord timestamp record) ++ [endEntry run]

/-- The lines of the log, where entry `i` is written at the time `clock i`. -/
def logLines (run : SelfCheck) (runId : String) (clock : Nat → String) : List String :=
  (run.entries.zipIdx.foldl (fun (em : Emitter) (entry, i) => em.emitEntry (entry (clock i)))
    { runId }).lines

/-- The text of the log. -/
def logText (run : SelfCheck) (runId : String) (clock : Nat → String) : String :=
  String.join ((run.logLines runId clock).map (· ++ "\n"))

/-- The files that a run was written to. -/
structure Artifacts where
  log : String
  index : String
deriving DecidableEq, Repr

/-- Writes the log and the index of a run. -/
def write {m : Type → Type} [Monad m] [FileStore m] [Clock m] (run : SelfCheck)
    (directory runId : String) : m (Except ToolError Artifacts) := ExceptT.run do
  let attempt {β : Type} (path : String) (result : m (Except FileError β)) :
      ExceptT ToolError m β := do
    match ← result with
    | .ok b => return b
    | .error cause => throw (.file path cause)
  let log := FileStore.join directory logName
  let index := FileStore.join directory indexName
  attempt directory (FileStore.createDirectories directory)
  attempt log (FileStore.write log "")
  let times ← run.entries.mapM fun _ => (Clock.now : m String)
  attempt log (FileStore.write log (run.logText runId fun i => times[i]?.getD ""))
  let empty : ArtifactIndex := { runId, generated := ← (Clock.now : m String) }
  let listed ← attempt log (empty.addFile log "log")
  attempt index (FileStore.write index listed.toJson.indented)
  return { log, index }

end MallocLayer.SelfCheck
