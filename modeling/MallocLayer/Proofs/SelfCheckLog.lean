import MallocLayer.Proofs.EntryDecoding
import MallocLayer.Proofs.SiblingFiles
import MallocLayer.SelfCheck.Artifacts
import Mathlib.Data.List.Forall2

/-!
# The log of a self-check

What a run is said to have been by its log. The writer and the validator meet only in
a text, and the text is made of whatever names, symbols, details and run ids there
are. All the same the validator finds no fault in it, and the lines decode into what
happened, in the order in which it happened: the start, each verdict, each lifecycle
record, the end (`write_tells`).
-/

namespace MallocLayer

open Json

/-! ## 1. The emitter -/

namespace Emitter

/-- An entry as it is emitted, when `sequence` trace ids were given before it. -/
def stamp (runId : String) (sequence : Nat) (e : LogEntry) : LogEntry :=
  { e with
    traceId := if e.traceId.isEmpty then traceId runId (sequence + 1) else e.traceId
    runId := e.runId <|> some runId }

/-- The number of trace ids given after an entry. -/
def advance (sequence : Nat) (e : LogEntry) : Nat :=
  if e.traceId.isEmpty then sequence + 1 else sequence

/-- Some entries as they are emitted one after the other. -/
def stampAll (runId : String) : (sequence : Nat) → List LogEntry → List LogEntry
  | _, [] => []
  | sequence, e :: rest => stamp runId sequence e :: stampAll runId (advance sequence e) rest

theorem emitEntry_eq (em : Emitter) (e : LogEntry) :
    em.emitEntry e =
      { em with
        sequence := advance em.sequence e
        written := (stamp em.runId em.sequence e).toLine :: em.written } := by
  unfold emitEntry complete stamp advance
  cases e.traceId.isEmpty <;> rfl

theorem lines_foldl_emitEntry (em : Emitter) (entries : List LogEntry) :
    (entries.foldl emitEntry em).lines =
      em.lines ++ (stampAll em.runId em.sequence entries).map LogEntry.toLine := by
  induction entries generalizing em with
  | nil => exact (List.append_nil _).symm
  | cons e rest ih =>
    rw [List.foldl_cons, ih, emitEntry_eq]
    simp [lines, stampAll]

end Emitter

namespace SelfCheck

/-! ## 2. What a log tells -/

/-- What a run reports, one entry each. -/
inductive Fact where
  | start
  | verdict (report : Report)
  | lifecycle (record : Lifecycle.Record)
  | finish

/-- What a run reports, in order. -/
def facts (run : SelfCheck) : List Fact :=
  [.start] ++ run.reports.map .verdict ++ run.lifecycle.map .lifecycle ++ [.finish]

/-- The entry comes from the run itself, with a trace id given by the emitter. -/
structure OfRun (runId event : String) (e : LogEntry) : Prop where
  sameRun : e.runId = some runId
  event : e.event = event
  stream : e.stream = some .selfcheck
  traceId : ∃ sequence, e.traceId = Emitter.traceId runId sequence

/-- The entry tells of the start of the run. -/
structure TellsStart (run : SelfCheck) (runId : String) (e : LogEntry) : Prop
    extends OfRun runId "run_start" e where
  level : e.level = .info
  details : e.details = some (.object [("scenarios", count run.reports.length)])

/-- The entry tells of a verdict, with all that the report says. -/
structure TellsVerdict (runId : String) (report : Report) (e : LogEntry) : Prop
    extends OfRun runId "scenario_result" e where
  level : e.level = .error ↔ report.outcome = .fail
  scenario : e.scenario = some report.name
  symbol : e.symbol = some report.symbol
  outcome : e.outcome = some report.outcome
  errno : e.errno = report.errno
  durationNs : e.durationNs = some report.durationNs
  details : e.details = report.detail.map fun detail => .object [("detail", .string detail)]

/-- The entry tells of a lifecycle record, with all its fields. -/
structure TellsLifecycle (runId : String) (record : Lifecycle.Record) (e : LogEntry) : Prop where
  sameRun : e.runId = some runId
  stream : e.stream = some .lifecycle
  traceId : e.traceId = record.traceId
  level : e.level = record.level
  event : e.event = record.event
  symbol : e.symbol = some record.symbol
  outcome : e.lifecycleOutcome = some record.outcome
  decisionId : e.decisionId = some record.decisionId
  ptr : e.ptr = record.ptr
  size : e.size = record.size
  alignment : e.alignment = record.alignment
  details : e.details = none

/-- The entry tells of the end of the run. -/
structure TellsEnd (run : SelfCheck) (runId : String) (e : LogEntry) : Prop
    extends OfRun runId "run_end" e where
  level : e.level = .info ↔ run.failed = 0
  /-- Each scenario passed or failed. -/
  details : ∃ passed, passed + run.failed = run.reports.length ∧
    e.details = some (.object [("failed", count run.failed),
      ("lifecycle_records", count run.lifecycle.length), ("passed", count passed)])

/-- The entry tells of the fact. -/
def Tells (run : SelfCheck) (runId : String) : Fact → LogEntry → Prop
  | .start => TellsStart run runId
  | .verdict report => TellsVerdict runId report
  | .lifecycle record => TellsLifecycle runId record
  | .finish => TellsEnd run runId

/-- The entry that is written for a fact. -/
def Fact.entry (run : SelfCheck) : Fact → String → LogEntry
  | .start => run.startEntry
  | .verdict report => verdictEntry report
  | .lifecycle record => fun timestamp => .ofRecord timestamp record
  | .finish => run.endEntry

theorem entries_eq (run : SelfCheck) : run.entries = run.facts.map (Fact.entry run) := by
  simp only [entries, facts, List.map_append, List.map_map]
  rfl

theorem length_facts (run : SelfCheck) :
    run.facts.length = run.reports.length + run.lifecycle.length + 2 := by
  simp only [facts, List.length_append, List.length_map, List.length_singleton]
  omega

/-! ## 3. Each entry tells of its fact -/

variable {run : SelfCheck} {runId : String} {fact : Fact} {e : LogEntry}

theorem startsOwn (text : String) :
    LogEntry.traceIdStart.isPrefixOf ("heapwrap::" ++ text).toList := by
  rw [String.toList_append]
  exact List.isPrefixOf_iff_prefix.2 (List.prefix_append _ _)

theorem traceId_isEmpty (record : Lifecycle.Record) : record.traceId.isEmpty = false := by
  cases empty : record.traceId.isEmpty with
  | false => rfl
  | true =>
    have none : record.traceId.toList = [] := congrArg String.toList (String.isEmpty_iff.1 empty)
    simp [Lifecycle.Record.traceId] at none

theorem failed_le (run : SelfCheck) : run.failed ≤ run.reports.length := List.countP_le_length

theorem tells_stamp (run : SelfCheck) (runId : String) (sequence : Nat) (fact : Fact)
    (time : String) :
    run.Tells runId fact (Emitter.stamp runId sequence (fact.entry run time)) := by
  cases fact with
  | start => exact ⟨⟨rfl, rfl, rfl, sequence + 1, rfl⟩, rfl, rfl⟩
  | verdict report =>
    refine ⟨⟨rfl, rfl, rfl, sequence + 1, rfl⟩, ?_, rfl, rfl, rfl, rfl, rfl, rfl⟩
    show (if report.outcome = .fail then Level.error else .info) = .error ↔ report.outcome = .fail
    split
    · next failed => exact iff_of_true rfl failed
    · next passed => exact iff_of_false nofun passed
  | lifecycle record =>
    refine ⟨rfl, rfl, ?_, rfl, rfl, rfl, rfl, rfl, rfl, rfl, rfl, rfl⟩
    show (if record.traceId.isEmpty then Emitter.traceId runId (sequence + 1) else _) = _
    rw [traceId_isEmpty]
    rfl
  | finish =>
    refine ⟨⟨rfl, rfl, rfl, sequence + 1, rfl⟩, ?_, _, Nat.sub_add_cancel run.failed_le, rfl⟩
    show (if run.failed = 0 then Level.info else .error) = .info ↔ run.failed = 0
    split
    · next clean => exact iff_of_true rfl clean
    · next failed => exact iff_of_false nofun failed

theorem startsOwn_traceId (sequence : Nat) :
    LogEntry.traceIdStart.isPrefixOf (Emitter.traceId runId sequence).toList := by
  rw [Emitter.traceId, String.append_assoc, String.append_assoc]
  exact startsOwn _

/-- The only entry on which the validator asks for a scenario and an outcome has
them. -/
theorem Tells.sound (tells : run.Tells runId fact e) : e.Sound := by
  have given (own : ∃ sequence, e.traceId = Emitter.traceId runId sequence) :
      LogEntry.traceIdStart.isPrefixOf e.traceId.toList := by
    obtain ⟨sequence, same⟩ := own
    rw [same]
    exact startsOwn_traceId sequence
  cases fact with
  | start =>
    have tells : TellsStart run runId e := tells
    exact ⟨given tells.traceId, fun _ event => absurd (tells.event.symm.trans event) (by decide)⟩
  | verdict report =>
    have tells : TellsVerdict runId report e := tells
    refine ⟨given tells.traceId, fun _ _ => ?_⟩
    rw [tells.scenario, tells.outcome]
    exact ⟨rfl, rfl⟩
  | lifecycle record =>
    have tells : TellsLifecycle runId record e := tells
    refine ⟨?_, fun stream => absurd (tells.stream.symm.trans stream) (by decide)⟩
    rw [tells.traceId, Lifecycle.Record.traceId, String.append_assoc, String.append_assoc]
    exact startsOwn _
  | finish =>
    have tells : TellsEnd run runId e := tells
    exact ⟨given tells.traceId, fun _ event => absurd (tells.event.symm.trans event) (by decide)⟩

theorem printable_object {members : List (String × Json)}
    (details : e.details = some (.object members))
    (ordered : (members.map Prod.fst).Pairwise (· < ·))
    (canonical : ∀ m ∈ members, Canonical 125 m.2) : e.Printable := by
  intro v present
  obtain rfl := Option.some.inj (details.symm.trans present)
  exact ⟨nofun, .object ordered canonical⟩

theorem Tells.printable (tells : run.Tells runId fact e) : e.Printable := by
  cases fact with
  | start =>
    have tells : TellsStart run runId e := tells
    refine printable_object tells.details (List.pairwise_singleton _ _) ?_
    simp only [List.forall_mem_singleton]
    exact .integer _
  | verdict report =>
    have tells : TellsVerdict runId report e := tells
    cases detail : report.detail with
    | none =>
      intro v present
      rw [tells.details, detail] at present
      cases present
    | some text =>
      have details : e.details = some (.object [("detail", .string text)]) := by
        rw [tells.details, detail]
        rfl
      refine printable_object details (List.pairwise_singleton _ _) ?_
      simp only [List.forall_mem_singleton]
      exact .string text
  | lifecycle record =>
    have tells : TellsLifecycle runId record e := tells
    intro v present
    rw [tells.details] at present
    cases present
  | finish =>
    have tells : TellsEnd run runId e := tells
    obtain ⟨passed, -, details⟩ := tells.details
    refine printable_object details ?_ ?_
    · show ["failed", "lifecycle_records", "passed"].Pairwise (· < ·)
      decide
    · simp only [List.forall_mem_cons]
      exact ⟨.integer _, .integer _, .integer _, nofun⟩

/-! ## 4. The log -/

/-- The entries of the log. -/
def logEntries (run : SelfCheck) (runId : String) (clock : Nat → String) : List LogEntry :=
  Emitter.stampAll runId 0 (run.entries.zipIdx.map fun (entry, i) => entry (clock i))

theorem tells_stampAll (run : SelfCheck) (runId : String) (clock : Nat → String)
    (facts : List Fact) (start sequence : Nat) :
    List.Forall₂ (run.Tells runId) facts (Emitter.stampAll runId sequence
      (((facts.map (Fact.entry run)).zipIdx start).map fun (entry, i) => entry (clock i))) := by
  induction facts generalizing start sequence with
  | nil => exact .nil
  | cons fact rest ih => exact .cons (tells_stamp run runId sequence fact (clock start)) (ih _ _)

theorem tells_logEntries (run : SelfCheck) (runId : String) (clock : Nat → String) :
    List.Forall₂ (run.Tells runId) run.facts (run.logEntries runId clock) := by
  rw [logEntries, entries_eq]
  exact tells_stampAll run runId clock run.facts 0 0

theorem logLines_eq (run : SelfCheck) (runId : String) (clock : Nat → String) :
    run.logLines runId clock = (run.logEntries runId clock).map LogEntry.toLine := by
  have emitted := Emitter.lines_foldl_emitEntry { runId }
    (run.entries.zipIdx.map fun (entry, i) => entry (clock i))
  rw [List.foldl_map] at emitted
  exact emitted

theorem logText_eq (run : SelfCheck) (runId : String) (clock : Nat → String) :
    (run.logText runId clock).toList =
      (run.logEntries runId clock).flatMap fun e => e.toLine.toList ++ ['\n'] := by
  rw [logText, String.toList_join, logLines_eq, List.map_map, List.flatMap_map]
  exact List.flatMap_congr fun e _ => String.toList_append

theorem exists_tells {facts : List Fact} {entries : List LogEntry}
    (tell : List.Forall₂ (run.Tells runId) facts entries) (member : e ∈ entries) :
    ∃ fact, run.Tells runId fact e := by
  induction tell with
  | nil => cases member
  | cons first _ ih =>
    cases member with
    | head => exact ⟨_, first⟩
    | tail _ later => exact ih later

/-- The log of a run decodes into an entry for each fact. -/
theorem decodeLines_logText (run : SelfCheck) (runId : String) (clock : Nat → String) :
    LogEntry.decodeLines (run.logText runId clock).toList =
      (run.logEntries runId clock).map .ok := by
  have tell := tells_logEntries run runId clock
  rw [logText_eq]
  refine LogEntry.decodeLines_toLine (fun e member => ?_) (fun e member => ?_)
  · obtain ⟨fact, tells⟩ := exists_tells tell member
    exact tells.sound
  · obtain ⟨fact, tells⟩ := exists_tells tell member
    exact tells.printable

/-- The validator finds no fault in the log of a run. -/
theorem ofText_logText (run : SelfCheck) (runId : String) (clock : Nat → String) :
    LogReport.ofText (run.logText runId clock).toList =
      ⟨run.reports.length + run.lifecycle.length + 2, []⟩ := by
  have length : (run.logEntries runId clock).length =
      run.reports.length + run.lifecycle.length + 2 :=
    (tells_logEntries run runId clock).length_eq.symm.trans run.length_facts
  rw [LogReport.ofText_of_decodes, decodeLines_logText, List.length_map, length]
  intro r member
  rw [decodeLines_logText] at member
  obtain ⟨e, -, rfl⟩ := List.mem_map.1 member
  exact ⟨e, rfl⟩

/-! ## 5. The files -/

section Ran

variable {ρ ε α β : Type} {r r' : ρ}

/-- What a computation gave, it gave in steps that all gave something. -/
theorem run_bind_ok {x : ExceptT ε (StateM ρ) α} {f : α → ExceptT ε (StateM ρ) β} {b : β}
    (ok : (x >>= f).run.run r = (.ok b, r')) :
    ∃ a r₁, x.run.run r = (.ok a, r₁) ∧ (f a).run.run r₁ = (.ok b, r') := by
  have steps : (x >>= f).run.run r =
      match x.run.run r with
      | (.ok a, r₁) => (f a).run.run r₁
      | (.error err, r₁) => (.error err, r₁) := by
    rw [ExceptT.run_bind, StateT.run_bind]
    rcases x.run.run r with ⟨_ | a, r₁⟩ <;> rfl
  rw [steps] at ok
  generalize x.run.run r = first at ok
  rcases first with ⟨_ | a, r₁⟩
  · cases ok
  · exact ⟨a, r₁, rfl, ok⟩

theorem run_liftM_ok {x : StateM ρ α} {a : α}
    (ok : (liftM x : ExceptT ε (StateM ρ) α).run.run r = (.ok a, r')) : x.run r = (a, r') := by
  have lifted : (liftM x : ExceptT ε (StateM ρ) α).run.run r = (.ok (x.run r).1, (x.run r).2) :=
    rfl
  rw [lifted] at ok
  cases ok
  rfl

theorem run_attempt_ok {result : StateM ρ (Except FileError β)} {path : String} {b : β}
    (ok : (do
      match ← (liftM result : ExceptT ToolError (StateM ρ) _) with
      | .ok b => return b
      | .error cause => throw (.file path cause) :
        ExceptT ToolError (StateM ρ) β).run.run r = (.ok b, r')) :
    result.run r = (.ok b, r') := by
  obtain ⟨answer, r₁, ran, rest⟩ := run_bind_ok ok
  have ran := run_liftM_ok ran
  cases answer with
  | error cause => cases rest
  | ok b =>
    cases rest
    exact ran

end Ran

section Files

variable {ρ : Type} [FileStore (StateM ρ)]

/-- The file at the path has the contents. -/
def Has (path : String) (contents : ByteArray) (r : ρ) : Prop :=
  ((FileStore.read path : StateM ρ _).run r).1 = .ok contents

theorem addFile_state (list : ArtifactIndex) (path kind : String) (r : ρ) :
    ((list.addFile path kind : StateM ρ _).run r).2 =
      ((FileStore.read path : StateM ρ _).run r).2 := by
  unfold ArtifactIndex.addFile
  rw [StateT.run_bind]
  rcases (FileStore.read path : StateM ρ _).run r with ⟨_ | contents, r₁⟩ <;> rfl

variable [Clock (StateM ρ)]

variable (ρ) in
/-- The files return what was written to the log: at once, and as long as nothing
else is done than reading it, looking at the clock and writing the index. -/
structure ReturnsWritten (log index : String) : Prop where
  written : ∀ r r' text, (FileStore.write log text : StateM ρ _).run r = (.ok (), r') →
    Has log text.toUTF8 r'
  read : ∀ r contents, Has log contents r →
    Has log contents ((FileStore.read log : StateM ρ _).run r).2
  index : ∀ r text contents, Has log contents r →
    Has log contents ((FileStore.write index text : StateM ρ _).run r).2
  clock : ∀ r contents, Has log contents r → Has log contents ((Clock.now : StateM ρ _).run r).2

variable {run : SelfCheck} {directory runId : String} {r r' : ρ} {artifacts : Artifacts}

/-- When a run was written, its log has the text of some entries. -/
theorem has_logText
    (returns : ReturnsWritten ρ (FileStore.join directory logName)
      (FileStore.join directory indexName))
    (written : (run.write directory runId : StateM ρ _).run r = (.ok artifacts, r')) :
    ∃ clock, Has artifacts.log (run.logText runId clock).toUTF8 r' := by
  unfold write at written
  extract_lets attempt log index at written
  obtain ⟨_, _, -, written⟩ := run_bind_ok written
  obtain ⟨_, _, -, written⟩ := run_bind_ok written
  obtain ⟨times, _, -, written⟩ := run_bind_ok written
  obtain ⟨_, r₁, wroteLog, written⟩ := run_bind_ok written
  obtain ⟨_, r₂, looked, written⟩ := run_bind_ok written
  obtain ⟨listed, r₃, added, written⟩ := run_bind_ok written
  obtain ⟨_, r₄, wroteIndex, written⟩ := run_bind_ok written
  cases written
  refine ⟨fun i => times[i]?.getD "", ?_⟩
  -- After the log is written: a look at the clock, a reading of the log, the index.
  have first := returns.written _ _ _ (run_attempt_ok wroteLog)
  have second := returns.clock _ _ first
  rw [run_liftM_ok looked] at second
  have third := returns.read _ _ second
  rw [← addFile_state { runId, generated := _ } log "log" r₂, run_attempt_ok added] at third
  have fourth := returns.index _ listed.toJson.indented _ third
  rw [run_attempt_ok wroteIndex] at fourth
  exact fourth

theorem fromUTF8?_toUTF8 (text : String) : String.fromUTF8? text.toUTF8 = some text := by
  have valid : text.toUTF8.IsValidUTF8 := text.isValidUTF8
  exact dif_pos valid

omit [Clock (StateM ρ)] in
theorem readText_of_has {path text : String} (has : Has path text.toUTF8 r) :
    ((FileStore.readText path : StateM ρ _).run r).1 = .ok text := by
  unfold Has at has
  simp only [FileStore.readText, StateT.run_bind]
  generalize (FileStore.read path : StateM ρ _).run r = answer at has
  obtain ⟨_, r₁⟩ := answer
  cases has
  simp only [bind, fromUTF8?_toUTF8]
  rfl

/-- Whatever a run is and wherever it was written: the validator finds as many lines
in its log as there are facts, and no fault, and the lines tell of the facts, one
each, in order. -/
theorem write_tells (run : SelfCheck) (directory runId : String)
    (returns : ReturnsWritten ρ (FileStore.join directory logName)
      (FileStore.join directory indexName))
    (written : (run.write directory runId : StateM ρ _).run r = (.ok artifacts, r')) :
    ∃ text entries,
      ((FileStore.readText artifacts.log : StateM ρ _).run r').1 = .ok text ∧
      LogReport.ofText text.toList = ⟨run.reports.length + run.lifecycle.length + 2, []⟩ ∧
      LogEntry.decodeLines text.toList = entries.map .ok ∧
      List.Forall₂ (run.Tells runId) run.facts entries := by
  obtain ⟨clock, has⟩ := has_logText returns written
  exact ⟨run.logText runId clock, run.logEntries runId clock, readText_of_has has,
    ofText_logText run runId clock, decodeLines_logText run runId clock,
    tells_logEntries run runId clock⟩

end Files

/-! ## 6. A tree of files -/

theorem write_run (t : FileTree) (path text : String) :
    (FileStore.write path text : StateM FileTree _).run t =
      match t.write path text.toUTF8 with
      | .ok u => (.ok (), u)
      | .error err => (.error err, t) := rfl

/-- A tree of files returns what was written, whatever the directory. -/
theorem returnsWritten_fileTree (directory : String) :
    ReturnsWritten FileTree (FileStore.join directory logName)
      (FileStore.join directory indexName) := by
  constructor
  · intro t t' text written
    rw [write_run] at written
    cases wrote : t.write (FileStore.join directory logName) text.toUTF8 with
    | error err =>
      rw [wrote] at written
      cases written
    | ok u =>
      rw [wrote] at written
      cases written
      exact FileTree.read_write wrote
  · exact fun _ _ has => has
  · intro t text contents has
    rw [write_run]
    cases wrote : t.write (FileStore.join directory indexName) text.toUTF8 with
    | error err => exact has
    | ok u =>
      refine FileTree.read_write_beside (fun p q parsed parsedOther => ?_) has wrote
      exact FileTree.beside_join directory (by decide) (by decide) (by decide) parsed parsedOther
  · exact fun _ _ has => has

/-- A run with text that has to be escaped, quoted or split. -/
def oddRun : SelfCheck where
  reports :=
    [{ name := "good \"case\"", symbol := "malloc\n", outcome := .pass, durationNs := 12 },
      { name := "bad", symbol := "realloc\\", outcome := .fail, detail := some "\x01no\r\nluck: é",
        errno := some (-5) },
      { name := "", symbol := "", outcome := .skip, detail := some "" }]
  lifecycle :=
    [{ level := .warn, symbol := "::", event := "scenario_result", outcome := "oom\t",
       ptr := some 4096, size := some 18446744073709551615, decisionId := 7 }]

theorem write_tells_oddRun :
    ReturnsWritten FileTree (FileStore.join "out/deep" logName)
        (FileStore.join "out/deep" indexName) ∧
      ∃ artifacts t,
        (oddRun.write "out/deep" "run\n1" : StateM FileTree _).run {} = (.ok artifacts, t) ∧
        ∃ text entries,
          ((FileStore.readText artifacts.log : StateM FileTree _).run t).1 = .ok text ∧
          LogReport.ofText text.toList = ⟨6, []⟩ ∧
          LogEntry.decodeLines text.toList = entries.map .ok ∧
          List.Forall₂ (oddRun.Tells "run\n1") oddRun.facts entries := by
  have returns := returnsWritten_fileTree "out/deep"
  have ok : ((oddRun.write "out/deep" "run\n1" : StateM FileTree _).run {}).1.isOk = true := by
    decide +kernel
  rcases written : (oddRun.write "out/deep" "run\n1" : StateM FileTree _).run {} with
    ⟨_ | artifacts, t⟩
  · rw [written] at ok
    cases ok
  · exact ⟨returns, artifacts, t, rfl, write_tells oddRun "out/deep" "run\n1" returns written⟩

end SelfCheck

end MallocLayer
