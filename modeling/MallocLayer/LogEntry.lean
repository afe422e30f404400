import MallocLayer.AllocError
import MallocLayer.Json.Printer
import MallocLayer.Lifecycle

/-!
# Log entries

The records of a verification run, one JSON object a line. Four fields are
required. The others are written only when they are present, and the fields
always stand in the order of the structure.
-/

namespace MallocLayer

/-- How a scenario went. -/
inductive Verdict where
  | pass
  | fail
  | skip
deriving DecidableEq, Repr

namespace Verdict

def all : List Verdict := [.pass, .fail, .skip]

def label : Verdict → String
  | .pass => "pass"
  | .fail => "fail"
  | .skip => "skip"

def ofLabel? (s : String) : Option Verdict := all.find? (·.label == s)

end Verdict

/-- Which part of a run an entry comes from. -/
inductive LogStream where
  /-- Verdicts on scenarios. -/
  | selfcheck
  /-- Records of a layer. -/
  | lifecycle
deriving DecidableEq, Repr

namespace LogStream

def all : List LogStream := [.selfcheck, .lifecycle]

def label : LogStream → String
  | .selfcheck => "selfcheck"
  | .lifecycle => "lifecycle"

def ofLabel? (s : String) : Option LogStream := all.find? (·.label == s)

end LogStream

/-- A log entry. -/
structure LogEntry where
  timestamp : String
  traceId : String
  level : Level
  event : String
  runId : Option String := none
  stream : Option LogStream := none
  scenario : Option String := none
  symbol : Option String := none
  outcome : Option Verdict := none
  /-- The outcome of a lifecycle record. -/
  lifecycleOutcome : Option String := none
  decisionId : Option UInt64 := none
  ptr : Option UInt64 := none
  size : Option UInt64 := none
  alignment : Option UInt64 := none
  errno : Option Errno := none
  durationNs : Option UInt64 := none
  artifactRefs : Option (List String) := none
  details : Option Json := none
deriving Repr

namespace LogEntry

/-- The entry for a lifecycle record. -/
def ofRecord (timestamp : String) (r : Lifecycle.Record) : LogEntry where
  timestamp := timestamp
  traceId := r.traceId
  level := r.level
  event := r.event
  stream := some .lifecycle
  symbol := some r.symbol
  lifecycleOutcome := some r.outcome
  decisionId := some r.decisionId
  ptr := r.ptr
  size := r.size
  alignment := r.alignment

/-- The member for a field, if the field is present. -/
def member (key : String) : Option Json → List (String × Json)
  | none => []
  | some value => [(key, value)]

/-- The members of the JSON object. -/
def members (e : LogEntry) : List (String × Json) :=
  [("timestamp", .string e.timestamp), ("trace_id", .string e.traceId),
    ("level", .string e.level.label), ("event", .string e.event)] ++
    member "run_id" (e.runId.map .string) ++
    member "stream" (e.stream.map (.string ·.label)) ++
    member "scenario" (e.scenario.map .string) ++
    member "symbol" (e.symbol.map .string) ++
    member "outcome" (e.outcome.map (.string ·.label)) ++
    member "lifecycle_outcome" (e.lifecycleOutcome.map .string) ++
    member "decision_id" (e.decisionId.map .word) ++
    member "ptr" (e.ptr.map .word) ++
    member "size" (e.size.map .word) ++
    member "alignment" (e.alignment.map .word) ++
    member "errno" (e.errno.map .int32) ++
    member "duration_ns" (e.durationNs.map .word) ++
    member "artifact_refs" (e.artifactRefs.map fun refs => .array (refs.map .string)) ++
    member "details" e.details

def toJson (e : LogEntry) : Json := .object e.members

/-- The line of the entry, without a line feed. -/
def toLine (e : LogEntry) : String := e.toJson.compact

end LogEntry

end MallocLayer
