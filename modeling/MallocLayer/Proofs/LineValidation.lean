import MallocLayer.Proofs.EntryDecoding

/-!
# What the validator accepts

A line that is refused is refused for a reason, and the reason has the number of the
line (`validateLine_error`). The line of an entry is accepted exactly if the entry is
sound, and then it decodes into that entry (`validateLine_toLine`).

The rule that a verdict names its scenario and its outcome is not enforced on every
line. The checks look at keys and at strings, and decoding takes more than that: null
for an absent field, and an object for a word. A verdict can lack a field in these
two ways, and in no other (`validateLine_verdict`).
-/

namespace MallocLayer

open Json

variable {line : List Char} {number : Nat} {e : LogEntry}

/-! ## 1. Reasons -/

theorem Json.object?_eq_some {value : Json} {members : List (String × Json)}
    (object : value.object? = some members) : value = .object members := by
  cases value with
  | object _ =>
    cases object
    rfl
  | _ => cases object

namespace LogEntry

/-- What it takes for a line to be accepted. -/
theorem ofLine_eq_ok : ofLine line = .ok e ↔ ∃ members,
    Json.ofChars? line = some (.object members) ∧ faults members = [] ∧
      ofMembers? members = some e := by
  constructor
  · intro accepted
    unfold ofLine at accepted
    split at accepted
    · cases accepted
    · next value read =>
      split at accepted
      · cases accepted
      · next members object =>
        obtain rfl : value = .object members := Json.object?_eq_some object
        split at accepted
        · next faultless =>
          split at accepted
          · next decoded =>
            cases accepted
            exact ⟨members, read, faultless, decoded⟩
          · cases accepted
        · cases accepted
  · rintro ⟨members, read, faultless, decoded⟩
    simp only [ofLine, read, Json.object?, faultless, decoded]

theorem ofLine_error {found : List LogFault} (refused : ofLine line = .error found) :
    found ≠ [] := by
  rintro rfl
  unfold ofLine at refused
  split at refused
  · cases refused
  · split at refused
    · cases refused
    · next members _ =>
      split at refused
      · split at refused <;> cases refused
      · next faulty => exact faulty (Except.error.inj refused)

end LogEntry

theorem validateLine_eq_ok : validateLine line number = .ok e ↔ LogEntry.ofLine line = .ok e := by
  unfold validateLine
  cases LogEntry.ofLine line with
  | ok entry => constructor <;> rintro ⟨⟩ <;> rfl
  | error found => exact iff_of_false nofun nofun

/-- A refused line has a fault, and each of its faults has the number of the line. -/
theorem validateLine_error {found : List LineFault}
    (refused : validateLine line number = .error found) :
    found ≠ [] ∧ ∀ f ∈ found, f.line = number := by
  unfold validateLine at refused
  cases read : LogEntry.ofLine line with
  | ok entry =>
    rw [read] at refused
    cases refused
  | error faults =>
    rw [read] at refused
    cases refused
    refine ⟨fun none => LogEntry.ofLine_error read (List.map_eq_nil_iff.1 none), ?_⟩
    intro f member
    obtain ⟨fault, -, rfl⟩ := List.mem_map.1 member
    rfl

/-! ## 2. Lines of entries -/

/-- The line of a sound entry decodes into the entry with all its fields. That of any
other entry is refused. -/
theorem validateLine_toLine (printable : e.Printable) (number : Nat) :
    (e.Sound → validateLine e.toLine.toList number = .ok e) ∧
      (¬ e.Sound → ∃ found, validateLine e.toLine.toList number = .error found ∧
        found ≠ [] ∧ ∀ f ∈ found, f.line = number) := by
  constructor
  · intro sound
    exact validateLine_eq_ok.2 (LogEntry.ofLine_toLine sound printable)
  · intro unsound
    cases said : validateLine e.toLine.toList number with
    | ok other =>
      obtain ⟨members, read, carries⟩ := LogEntry.read_toLine printable
      obtain ⟨members', read', faultless, -⟩ :=
        LogEntry.ofLine_eq_ok.1 (validateLine_eq_ok.1 said)
      cases read.symm.trans read'
      exact absurd (carries.faults_eq_nil.1 faultless) unsound
    | error found => exact ⟨found, rfl, validateLine_error said⟩

namespace LogEntry

/-- A verdict with empty, escaped and nested values and with numbers at both ends of
their ranges. -/
def oddVerdict : LogEntry where
  timestamp := ""
  traceId := "heapwrap::\"run\"\n::1"
  level := .trace
  event := "scenario_result"
  stream := some .selfcheck
  scenario := some "\x01\\é"
  outcome := some .skip
  size := some 18446744073709551615
  errno := some (-2147483648)
  artifactRefs := some []
  details := some (.object [("", .array [.null, .int32 (-1)]), ("a", .object [])])

theorem printable_oddVerdict : oddVerdict.Printable := by
  have canonical :
      Canonical 2 (.object [("", .array [.null, .int32 (-1)]), ("a", .object [])]) := by
    refine .object (by decide) ?_
    simp only [List.forall_mem_cons]
    refine ⟨.array ?_, .object .nil nofun, nofun⟩
    simp only [List.forall_mem_cons]
    exact ⟨.null, .integer _, nofun⟩
  rintro _ ⟨⟩
  exact ⟨nofun, canonical.mono (by decide)⟩

/-- The same without an outcome. -/
def silentVerdict : LogEntry := { oddVerdict with outcome := none }

end LogEntry

theorem validateLine_toLine_oddVerdict :
    LogEntry.oddVerdict.Printable ∧ LogEntry.oddVerdict.Sound ∧
      validateLine LogEntry.oddVerdict.toLine.toList 3 = .ok LogEntry.oddVerdict ∧
      LogEntry.silentVerdict.Printable ∧ ¬ LogEntry.silentVerdict.Sound ∧
      ∃ found, validateLine LogEntry.silentVerdict.toLine.toList 4 = .error found ∧
        found ≠ [] ∧ ∀ f ∈ found, f.line = 4 := by
  have printable : LogEntry.oddVerdict.Printable := LogEntry.printable_oddVerdict
  have sound : LogEntry.oddVerdict.Sound := ⟨by decide +kernel, fun _ _ => ⟨rfl, rfl⟩⟩
  have printable' : LogEntry.silentVerdict.Printable := LogEntry.printable_oddVerdict
  have unsound : ¬ LogEntry.silentVerdict.Sound := by
    intro sound
    obtain ⟨-, silent⟩ := sound.verdict rfl rfl
    cases silent
  obtain ⟨accepted, -⟩ := validateLine_toLine printable 3
  obtain ⟨-, refused⟩ := validateLine_toLine printable' 4
  exact ⟨printable, sound, accepted sound, printable', unsound, refused unsound⟩

namespace LogEntry

/-! ## 3. Verdicts -/

section Verdicts

variable {members : List (String × Json)} {α : Type} {decode : Json → Option α} {key : String}

/-- The checks let a verdict pass without the field: it is null, or it is missing and
the stream is given by an object, of which the checks do not know that it is a word. -/
def Slips (members : List (String × Json)) (field : String) : Prop :=
  members.lookup field = some .null ∨
    members.lookup field = none ∧ members.lookup "stream" = some (.object [("selfcheck", .null)])

theorem optional_eq_none : optional decode members key = some none ↔
    members.lookup key = none ∨ members.lookup key = some .null := by
  unfold optional
  split
  · next missing => exact iff_of_true rfl (.inl missing)
  · next null => exact iff_of_true rfl (.inr null)
  · next value present found =>
    rw [found]
    refine iff_of_false ?_ ?_
    · intro absent
      obtain ⟨_, -, same⟩ := Option.map_eq_some_iff.1 absent
      cases same
    · rintro (missing | null)
      · cases missing
      · exact present (Option.some.inj null)

theorem optional_eq_some {a : α} (decoded : optional decode members key = some (some a)) :
    ∃ value, members.lookup key = some value ∧ decode value = some a := by
  unfold optional at decoded
  split at decoded
  · cases decoded
  · cases decoded
  · next value _ found =>
    obtain ⟨b, decodes, same⟩ := Option.map_eq_some_iff.1 decoded
    cases same
    exact ⟨value, found, decodes⟩

theorem word?_eq_some {value : Json} {s : String} (word : word? value = some s) :
    value = .string s ∨ value = .object [(s, .null)] := by
  unfold word? at word
  split at word
  · cases word
    exact .inl rfl
  · cases word
    exact .inr rfl
  · cases word

theorem label_of_streamOfLabel? {s : String} {stream : LogStream}
    (found : LogStream.ofLabel? s = some stream) : stream.label = s := by
  have same := List.find?_some found
  exact eq_of_beq same

/-- The two ways to name the stream of a verdict. -/
theorem lookup_stream (decoded : optional (fun v => (word? v).bind LogStream.ofLabel?) members
    "stream" = some (some .selfcheck)) :
    members.lookup "stream" = some (.string "selfcheck") ∨
      members.lookup "stream" = some (.object [("selfcheck", .null)]) := by
  obtain ⟨value, found, decodes⟩ := optional_eq_some decoded
  obtain ⟨s, word, label⟩ := Option.bind_eq_some_iff.1 decodes
  obtain rfl := label_of_streamOfLabel? label
  rw [found]
  exact (word?_eq_some word).imp (congrArg some) (congrArg some)

theorem ofMembers?_verdict (decoded : ofMembers? members = some e) :
    stringAt members "event" = some e.event ∧
      optional (fun v => (word? v).bind LogStream.ofLabel?) members "stream" = some e.stream ∧
      optional Json.string? members "scenario" = some e.scenario ∧
      optional (fun v => (word? v).bind Verdict.ofLabel?) members "outcome" = some e.outcome := by
  iterate 3 obtain ⟨_, -, decoded⟩ := Option.bind_eq_some_iff.1 decoded
  obtain ⟨event, atEvent, decoded⟩ := Option.bind_eq_some_iff.1 decoded
  obtain ⟨_, -, decoded⟩ := Option.bind_eq_some_iff.1 decoded
  obtain ⟨stream, atStream, decoded⟩ := Option.bind_eq_some_iff.1 decoded
  obtain ⟨scenario, atScenario, decoded⟩ := Option.bind_eq_some_iff.1 decoded
  obtain ⟨_, -, decoded⟩ := Option.bind_eq_some_iff.1 decoded
  obtain ⟨outcome, atOutcome, decoded⟩ := Option.bind_eq_some_iff.1 decoded
  iterate 9 obtain ⟨_, -, decoded⟩ := Option.bind_eq_some_iff.1 decoded
  cases decoded
  exact ⟨atEvent, atStream, atScenario, atOutcome⟩

theorem isSome_of_isVerdict (faultless : faults members = []) (verdict : isVerdict members = true) :
    ∀ field ∈ ["scenario", "outcome"], (members.lookup field).isSome := by
  simp only [faults, List.append_eq_nil_iff] at faultless
  obtain ⟨⟨-, present⟩, -⟩ := faultless
  rw [if_pos verdict] at present
  exact checkPresent_eq_nil.1 present

/-- A verdict is decoded without a field exactly if the field has slipped through. -/
theorem absent_iff_slips {value : Option α} (faultless : faults members = [])
    (event : stringAt members "event" = some "scenario_result")
    (stream : optional (fun v => (word? v).bind LogStream.ofLabel?) members "stream" =
      some (some .selfcheck))
    (needed : key ∈ ["scenario", "outcome"]) (decoded : optional decode members key = some value) :
    value = none ↔ Slips members key := by
  have absent : value = none ↔ members.lookup key = none ∨ members.lookup key = some .null := by
    rw [← optional_eq_none, decoded, Option.some_inj]
  rw [absent, Slips]
  constructor
  · rintro (missing | null)
    · rcases lookup_stream stream with named | object
      · -- The checks see a verdict, so they have found the key.
        have verdict : isVerdict members = true := by
          rw [isVerdict, event, stringAt, named]
          rfl
        have present := isSome_of_isVerdict faultless verdict key needed
        rw [missing] at present
        cases present
      · exact .inr ⟨missing, object⟩
    · exact .inl null
  · rintro (null | ⟨missing, -⟩)
    · exact .inr null
    · exact .inl missing

end Verdicts

end LogEntry

/-- An accepted verdict lacks its scenario or its outcome exactly if the member for it
has slipped through. -/
theorem validateLine_verdict (accepted : validateLine line number = .ok e)
    (stream : e.stream = some .selfcheck) (event : e.event = "scenario_result") :
    ∃ members, Json.ofChars? line = some (.object members) ∧
      (e.scenario = none ↔ LogEntry.Slips members "scenario") ∧
      (e.outcome = none ↔ LogEntry.Slips members "outcome") := by
  obtain ⟨members, read, faultless, decoded⟩ :=
    LogEntry.ofLine_eq_ok.1 (validateLine_eq_ok.1 accepted)
  obtain ⟨atEvent, atStream, atScenario, atOutcome⟩ := LogEntry.ofMembers?_verdict decoded
  rw [event] at atEvent
  rw [stream] at atStream
  exact ⟨members, read,
    LogEntry.absent_iff_slips faultless atEvent atStream (by decide) atScenario,
    LogEntry.absent_iff_slips faultless atEvent atStream (by decide) atOutcome⟩

/-- The line of a verdict on no scenario, which went in no way. -/
def nullVerdict : List Char :=
  Json.render (.object [("timestamp", .string "t"), ("trace_id", .string "heapwrap::a::1"),
    ("level", .string "info"), ("event", .string "scenario_result"),
    ("stream", .string "selfcheck"), ("scenario", .null), ("outcome", .null)])

theorem accepts_nullVerdict : ∃ e, validateLine nullVerdict 1 = .ok e ∧
    e.stream = some .selfcheck ∧ e.event = "scenario_result" ∧ e.scenario = none ∧
    e.outcome = none := by
  have said : (validateLine nullVerdict 1).toOption.map
      (fun e => (e.stream, e.event, e.scenario, e.outcome)) =
        some (some .selfcheck, "scenario_result", none, none) := by decide +kernel
  obtain ⟨e, accepted, same⟩ := Option.map_eq_some_iff.1 said
  cases result : validateLine nullVerdict 1 with
  | error found =>
    rw [result] at accepted
    cases accepted
  | ok other =>
    rw [result] at accepted
    cases accepted
    simp only [Prod.mk.injEq] at same
    exact ⟨e, rfl, same⟩

theorem validateLine_verdict_nullVerdict :
    ∃ e, validateLine nullVerdict 1 = .ok e ∧ e.stream = some .selfcheck ∧
      e.event = "scenario_result" ∧
      ∃ members, Json.ofChars? nullVerdict = some (.object members) ∧
        (e.scenario = none ↔ LogEntry.Slips members "scenario") ∧
        (e.outcome = none ↔ LogEntry.Slips members "outcome") := by
  obtain ⟨e, accepted, stream, event, -⟩ := accepts_nullVerdict
  exact ⟨e, accepted, stream, event, validateLine_verdict accepted stream event⟩

/-- Not every accepted verdict says which scenario and how it went. -/
theorem verdict_complete_false :
    ¬ ∀ line number e, validateLine line number = .ok e → e.stream = some .selfcheck →
      e.event = "scenario_result" → e.scenario.isSome ∧ e.outcome.isSome := by
  intro complete
  obtain ⟨e, accepted, stream, event, scenario, -⟩ := accepts_nullVerdict
  obtain ⟨present, -⟩ := complete _ _ e accepted stream event
  rw [scenario] at present
  cases present

end MallocLayer
