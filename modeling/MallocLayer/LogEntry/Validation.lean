import MallocLayer.Json.Reader
import MallocLayer.LogEntry
import MallocLayer.Text.Lines

/-!
# Validation of logs

A line is checked in three stages: it has to be a JSON object; the members that
every consumer relies on have to be there and in order, and all faults among
them are reported together; and it has to decode into an entry.

Decoding takes null for an absent optional field, ignores members it does not
know, and takes a word of a fixed set also as an object with that word as its
only key and null as the value.
-/

namespace MallocLayer

/-- Why a line is refused. -/
inductive LogFault where
  /-- The line is no JSON text. -/
  | invalidJson
  | notAnObject
  | missing (field : String)
  /-- The field holds a string outside its set. -/
  | unknownWord (field value : String)
  /-- A verdict on a scenario lacks the field. -/
  | verdictLacks (field : String)
  /-- The trace id belongs to another program. -/
  | foreignTraceId (traceId : String)
  /-- Some field does not have the right type. -/
  | undecodable
deriving DecidableEq, Repr

namespace LogFault

/-- The field at fault. -/
def field : LogFault → String
  | .invalidJson => "<json>"
  | .notAnObject => "<root>"
  | .missing field | .unknownWord field _ | .verdictLacks field => field
  | .foreignTraceId _ => "trace_id"
  | .undecodable => "<deserialization>"

def message : LogFault → String
  | .invalidJson => "invalid JSON"
  | .notAnObject => "expected JSON object"
  | .missing _ => "required field missing"
  | .unknownWord field value => "invalid " ++ field ++ ": '" ++ value ++ "'"
  | .verdictLacks _ => "scenario results must carry this field"
  | .foreignTraceId traceId =>
    "trace_id should start with 'heapwrap::', got: '" ++ traceId ++ "'"
  | .undecodable => "failed to deserialize"

end LogFault

/-- A fault with the number of its line. -/
structure LineFault where
  line : Nat
  fault : LogFault
deriving DecidableEq, Repr

namespace LineFault

def display (f : LineFault) : String :=
  s!"line {f.line}: field '{f.fault.field}': {f.fault.message}"

end LineFault

namespace LogEntry

/-! ## Decoding -/

/-- The value of an optional field: absent when the member is not there or null,
and otherwise decoded. -/
def optional {α : Type} (decode : Json → Option α) (members : List (String × Json))
    (key : String) : Option (Option α) :=
  match members.lookup key with
  | none | some .null => some none
  | some value => (decode value).map some

/-- The value of a required field. -/
def required {α : Type} (decode : Json → Option α) (members : List (String × Json))
    (key : String) : Option α :=
  (members.lookup key).bind decode

/-- The word of a fixed set that a value stands for. -/
def word? : Json → Option String
  | .string s => some s
  | .object [(s, .null)] => some s
  | _ => none

/-- The strings of an array of strings. -/
def strings? : Json → Option (List String)
  | .array values => values.mapM Json.string?
  | _ => none

/-- Decodes the members of an object. -/
def ofMembers? (members : List (String × Json)) : Option LogEntry := do
  let timestamp ← required Json.string? members "timestamp"
  let traceId ← required Json.string? members "trace_id"
  let level ← required (fun v => (word? v).bind Level.ofLabel?) members "level"
  let event ← required Json.string? members "event"
  let runId ← optional Json.string? members "run_id"
  let stream ← optional (fun v => (word? v).bind LogStream.ofLabel?) members "stream"
  let scenario ← optional Json.string? members "scenario"
  let symbol ← optional Json.string? members "symbol"
  let outcome ← optional (fun v => (word? v).bind Verdict.ofLabel?) members "outcome"
  let lifecycleOutcome ← optional Json.string? members "lifecycle_outcome"
  let decisionId ← optional Json.word? members "decision_id"
  let ptr ← optional Json.word? members "ptr"
  let size ← optional Json.word? members "size"
  let alignment ← optional Json.word? members "alignment"
  let errno ← optional Json.int32? members "errno"
  let durationNs ← optional Json.word? members "duration_ns"
  let artifactRefs ← optional strings? members "artifact_refs"
  let details ← optional some members "details"
  some { timestamp, traceId, level, event, runId, stream, scenario, symbol, outcome,
         lifecycleOutcome, decisionId, ptr, size, alignment, errno, durationNs, artifactRefs,
         details }

/-! ## Checks -/

/-- The string of a member that holds one. -/
def stringAt (members : List (String × Json)) (key : String) : Option String :=
  (members.lookup key).bind Json.string?

/-- Reports a member whose string is outside its set. -/
def checkWord (members : List (String × Json)) (field : String) (allowed : List String) :
    List LogFault :=
  match stringAt members field with
  | some value => if allowed.contains value then [] else [.unknownWord field value]
  | none => []

/-- Reports members that are not there. -/
def checkPresent (members : List (String × Json)) (fields : List String)
    (fault : String → LogFault) : List LogFault :=
  fields.filterMap fun field =>
    if (members.lookup field).isSome then none else some (fault field)

/-- What every trace id starts with. -/
def traceIdStart : List Char := "heapwrap::".toList

/-- Reports a trace id of another program. -/
def checkTraceId (members : List (String × Json)) : List LogFault :=
  match stringAt members "trace_id" with
  | some traceId =>
    if traceIdStart.isPrefixOf traceId.toList then [] else [.foreignTraceId traceId]
  | none => []

/-- Whether the members say that they are a verdict on a scenario. -/
def isVerdict (members : List (String × Json)) : Bool :=
  stringAt members "stream" == some "selfcheck" &&
    stringAt members "event" == some "scenario_result"

/-- The faults among the members. -/
def faults (members : List (String × Json)) : List LogFault :=
  checkPresent members ["timestamp", "trace_id", "level", "event"] .missing ++
    checkWord members "level" (Level.all.map (·.label)) ++
    checkWord members "outcome" (Verdict.all.map (·.label)) ++
    checkWord members "stream" (LogStream.all.map (·.label)) ++
    (if isVerdict members then checkPresent members ["scenario", "outcome"] .verdictLacks
      else []) ++
    checkTraceId members

/-- Validates a line. -/
def ofLine (line : List Char) : Except (List LogFault) LogEntry :=
  match Json.ofChars? line with
  | none => .error [.invalidJson]
  | some value =>
    match value.object? with
    | none => .error [.notAnObject]
    | some members =>
      match faults members with
      | [] =>
        match ofMembers? members with
        | some entry => .ok entry
        | none => .error [.undecodable]
      | faults => .error faults

end LogEntry

/-- Validates a line and puts its number to the faults. -/
def validateLine (line : List Char) (number : Nat) : Except (List LineFault) LogEntry :=
  match LogEntry.ofLine line with
  | .ok entry => .ok entry
  | .error faults => .error (faults.map fun fault => ⟨number, fault⟩)

/-- What the validation of a log found. -/
structure LogReport where
  /-- The lines that are not blank. -/
  lines : Nat := 0
  faults : List LineFault := []
deriving DecidableEq, Repr

namespace LogReport

/-- Validates one more line. -/
def add (r : LogReport) (line : List Char) (number : Nat) : LogReport :=
  let line := Text.trim line
  if line.isEmpty then r
  else
    { lines := r.lines + 1
      faults := match validateLine line number with
        | .ok _ => r.faults
        | .error faults => r.faults ++ faults }

/-- Validates a log. Blank lines are skipped, but they count in the numbers of
the lines. -/
def ofText (text : List Char) : LogReport :=
  (Text.lines text).zipIdx.foldl (fun r (line, i) => r.add line (i + 1)) {}

end LogReport

end MallocLayer
