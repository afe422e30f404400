import MallocLayer.LogEntry

/-!
# Emitting a log

An emitter writes the entries of one run. It puts the id of the run to entries
that have none, and numbers the entries that come without a trace id.
-/

namespace MallocLayer

/-- An emitter: the id of its run, the number of trace ids given, and the lines
written so far, the last one first. -/
structure Emitter where
  runId : String
  sequence : Nat := 0
  written : List String := []
deriving Repr

namespace Emitter

/-- A number with at least three digits. -/
def threeDigits (n : Nat) : String :=
  let digits := Nat.toDigits 10 n
  String.ofList (List.replicate (3 - digits.length) '0' ++ digits)

/-- The trace id with a sequence number. -/
def traceId (runId : String) (sequence : Nat) : String :=
  "heapwrap::" ++ runId ++ "::" ++ threeDigits sequence

/-- The lines written so far, in order. -/
def lines (em : Emitter) : List String := em.written.reverse

/-- Gives the next trace id. -/
def nextTraceId (em : Emitter) : String × Emitter :=
  (traceId em.runId (em.sequence + 1), { em with sequence := em.sequence + 1 })

/-- Writes an entry as it is. -/
def write (em : Emitter) (entry : LogEntry) : Emitter :=
  { em with written := entry.toLine :: em.written }

/-- Writes a bare entry and returns it. -/
def emit (em : Emitter) (timestamp : String) (level : Level) (event : String) :
    LogEntry × Emitter :=
  let (traceId, em) := em.nextTraceId
  let entry : LogEntry := { timestamp, traceId, level, event, runId := some em.runId }
  (entry, em.write entry)

/-- An entry with its trace id and run id filled in. -/
def complete (em : Emitter) (entry : LogEntry) : LogEntry × Emitter :=
  let (entry, em) :=
    if entry.traceId.isEmpty then
      let (traceId, em) := em.nextTraceId
      ({ entry with traceId }, em)
    else (entry, em)
  ({ entry with runId := entry.runId <|> some em.runId }, em)

/-- Writes an entry, after filling in its trace id and run id. -/
def emitEntry (em : Emitter) (entry : LogEntry) : Emitter :=
  let (entry, em) := em.complete entry
  em.write entry

end Emitter

end MallocLayer
