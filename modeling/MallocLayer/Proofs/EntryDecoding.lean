import MallocLayer.LogEntry.Validation
import MallocLayer.Proofs.JsonRoundTrip

/-!
# The line of an entry

The writer and the validator of log entries know the fields separately: one has
them in a fixed order and leaves the absent ones out, the other looks each one up by
its key. `fields` is what they have in common. An object that carries the fields of
an entry decodes into that entry (`Carries.ofMembers?_eq`), and the checks before
that find a fault in it exactly if the entry is not sound (`Carries.faults_eq_nil`).

The line of an entry is such an object, so a sound entry is got back from its line,
whatever text its strings are made of (`ofLine_toLine`).
-/

namespace MallocLayer

open Json

namespace Json

/-! ## 1. Looking up members -/

theorem lookup_cons_eq {α : Type} (key other : String) (value : α) (members : List (String × α)) :
    ((key, value) :: members).lookup other =
      if other = key then some value else members.lookup other := by
  by_cases same : other = key
  · rw [if_pos same, same, List.lookup_cons_self]
  · have test : (other == key) = false := beq_false_of_ne same
    rw [if_neg same, List.lookup_cons, test]

theorem lookup_eq_none {α : Type} {key : String} {members : List (String × α)}
    (absent : key ∉ members.map Prod.fst) : members.lookup key = none := by
  induction members with
  | nil => rfl
  | cons m rest ih =>
    rw [List.map_cons, List.mem_cons, not_or] at absent
    exact (lookup_cons_eq m.1 key m.2 rest).trans ((if_neg absent.1).trans (ih absent.2))

/-- An inserted member is found by its key, and the others as before. -/
theorem lookup_insertMember (key other : String) (value : Json) (members : List (String × Json)) :
    (insertMember key value members).lookup other =
      if other = key then some value else members.lookup other := by
  induction members with
  | nil => exact lookup_cons_eq ..
  | cons m rest ih =>
    obtain ⟨k, v⟩ := m
    unfold insertMember
    split
    · exact lookup_cons_eq ..
    · split
      · next found =>
        subst found
        rw [lookup_cons_eq, lookup_cons_eq]
        split <;> rfl
      · next after =>
        rw [lookup_cons_eq, lookup_cons_eq, ih]
        by_cases same : other = k
        · rw [if_pos same, if_pos same, if_neg fun key => after (key.symm.trans same)]
        · rw [if_neg same, if_neg same]

/-- The members of an object are those that it was made of. -/
theorem lookup_foldl_insertMember {members : List (String × Json)}
    (nodup : (members.map Prod.fst).Nodup) (front : List (String × Json)) (key : String) :
    (members.foldl (fun sorted (key, value) => insertMember key value sorted) front).lookup key =
      (members.lookup key).or (front.lookup key) := by
  induction members generalizing front with
  | nil => rfl
  | cons m rest ih =>
    obtain ⟨k, v⟩ := m
    obtain ⟨absent, nodup⟩ := List.nodup_cons.1 nodup
    rw [List.foldl_cons, ih nodup, lookup_insertMember, lookup_cons_eq]
    by_cases same : key = k
    · subst same
      rw [lookup_eq_none absent, if_pos rfl, if_pos rfl]
      rfl
    · rw [if_neg same, if_neg same]

end Json

namespace LogEntry

variable {e : LogEntry} {members : List (String × Json)}

/-! ## 2. Fields -/

/-- All fields by their keys, in the order in which they are written. -/
def fields (e : LogEntry) : List (String × Option Json) :=
  [("timestamp", some (.string e.timestamp)), ("trace_id", some (.string e.traceId)),
    ("level", some (.string e.level.label)), ("event", some (.string e.event)),
    ("run_id", e.runId.map .string), ("stream", e.stream.map (.string ·.label)),
    ("scenario", e.scenario.map .string), ("symbol", e.symbol.map .string),
    ("outcome", e.outcome.map (.string ·.label)),
    ("lifecycle_outcome", e.lifecycleOutcome.map .string),
    ("decision_id", e.decisionId.map .word), ("ptr", e.ptr.map .word), ("size", e.size.map .word),
    ("alignment", e.alignment.map .word), ("errno", e.errno.map .int32),
    ("duration_ns", e.durationNs.map .word),
    ("artifact_refs", e.artifactRefs.map fun refs => .array (refs.map .string)),
    ("details", e.details)]

theorem members_eq (e : LogEntry) : e.members = e.fields.flatMap fun f => member f.1 f.2 := by
  simp [members, fields, member]

theorem nodup_fields (e : LogEntry) : (e.fields.map Prod.fst).Nodup := by
  show List.Nodup ["timestamp", "trace_id", "level", "event", "run_id", "stream", "scenario",
    "symbol", "outcome", "lifecycle_outcome", "decision_id", "ptr", "size", "alignment", "errno",
    "duration_ns", "artifact_refs", "details"]
  decide

/-- The object has the fields of the entry. -/
def Carries (members : List (String × Json)) (e : LogEntry) : Prop :=
  ∀ key, members.lookup key = (e.fields.lookup key).join

theorem map_fst_member (key : String) (value : Option Json) :
    ((member key value).map Prod.fst).Sublist [key] := by
  cases value with
  | none => exact List.nil_sublist _
  | some value => exact List.Sublist.refl _

theorem sublist_fields (fields : List (String × Option Json)) :
    ((fields.flatMap fun f => member f.1 f.2).map Prod.fst).Sublist (fields.map Prod.fst) := by
  induction fields with
  | nil => exact List.Sublist.refl _
  | cons f rest ih =>
    rw [List.flatMap_cons, List.map_append, List.map_cons]
    exact (map_fst_member f.1 f.2).append ih

theorem lookup_flatMap_member {fields : List (String × Option Json)}
    (nodup : (fields.map Prod.fst).Nodup) (key : String) :
    (fields.flatMap fun f => member f.1 f.2).lookup key = (fields.lookup key).join := by
  induction fields with
  | nil => rfl
  | cons f rest ih =>
    obtain ⟨k, value⟩ := f
    obtain ⟨absent, nodup⟩ := List.nodup_cons.1 nodup
    rw [List.flatMap_cons, List.lookup_append, ih nodup, lookup_cons_eq]
    by_cases same : key = k
    · subst same
      rw [lookup_eq_none absent, if_pos rfl]
      cases value with
      | none => rfl
      | some value => simp [member]
    · rw [if_neg same]
      cases value with
      | none => rfl
      | some value =>
        rw [member, lookup_cons_eq, if_neg same]
        rfl

theorem carries_members (e : LogEntry) : Carries e.members e := by
  intro key
  rw [members_eq]
  exact lookup_flatMap_member e.nodup_fields key

/-- The object that is read carries the entry that was written. -/
theorem carries_foldl (e : LogEntry) :
    Carries (e.members.foldl (fun sorted (key, value) => insertMember key value sorted) []) e := by
  have nodup : (e.members.map Prod.fst).Nodup := by
    rw [members_eq]
    exact (sublist_fields e.fields).nodup e.nodup_fields
  intro key
  rw [lookup_foldl_insertMember nodup, ← carries_members e key]
  exact Option.or_none

/-! ## 3. Decoding -/

theorem word?_word (w : UInt64) : Json.word? (.word w) = some w := by
  have positive : (0 : Int) ≤ w.toNat := Int.natCast_nonneg _
  show (if (0 : Int) ≤ w.toNat then some (UInt64.ofNat (w.toNat : Int).toNat) else none) = _
  rw [if_pos positive, Int.toNat_natCast, UInt64.ofNat_toNat]

theorem int32?_int32 (i : Int32) : Json.int32? (.int32 i) = some i := by
  have least := i.le_toInt
  have greatest := i.toInt_lt
  show (if -2147483648 ≤ i.toInt ∧ i.toInt < 2147483648 then some (Int32.ofInt i.toInt)
    else none) = _
  rw [if_pos ⟨least, greatest⟩, Int32.ofInt_toInt]

theorem strings?_array (refs : List String) : strings? (.array (refs.map .string)) = some refs := by
  show (refs.map Json.string).mapM Json.string? = some refs
  induction refs with
  | nil => rfl
  | cons ref rest ih =>
    rw [List.map_cons, List.mapM_cons, ih]
    rfl

theorem streamOfLabel?_label (stream : LogStream) :
    LogStream.ofLabel? stream.label = some stream := by
  cases stream <;> decide

theorem verdictOfLabel?_label (verdict : Verdict) :
    Verdict.ofLabel? verdict.label = some verdict := by
  cases verdict <;> decide

theorem required_eq {α : Type} (decode : Json → Option α) {key : String} {value : Json} {a : α}
    (found : members.lookup key = some value) (decodes : decode value = some a) :
    required decode members key = some a := by
  rw [required, found]
  exact decodes

/-- A field that is never written as null is decoded as it was written. -/
theorem optional_eq {α : Type} (decode : Json → Option α) {encode : α → Json} {key : String}
    {field : Option α} (found : members.lookup key = field.map encode)
    (decodes : ∀ a ∈ field, encode a ≠ .null ∧ decode (encode a) = some a) :
    optional decode members key = some field := by
  unfold optional
  cases field with
  | none => rw [found]; rfl
  | some a =>
    obtain ⟨present, inverse⟩ := decodes a rfl
    have found : members.lookup key = some (encode a) := found
    rw [found]
    split
    · next missing => cases missing
    · next null => exact absurd (Option.some.inj null) present
    · next value _ same =>
      obtain rfl := Option.some.inj same
      rw [inverse]
      rfl

/-- An object that carries an entry decodes into it. -/
theorem Carries.ofMembers?_eq (h : Carries members e) (details : e.details ≠ some .null) :
    ofMembers? members = some e := by
  have timestamp := required_eq Json.string? (h "timestamp") rfl
  have traceId := required_eq Json.string? (h "trace_id") rfl
  have level := required_eq (fun v => (word? v).bind Level.ofLabel?) (h "level")
    (Level.ofLabel?_label e.level)
  have event := required_eq Json.string? (h "event") rfl
  have runId := optional_eq Json.string? (h "run_id") fun _ _ => ⟨nofun, rfl⟩
  have stream := optional_eq (fun v => (word? v).bind LogStream.ofLabel?) (h "stream")
    fun stream _ => ⟨nofun, streamOfLabel?_label stream⟩
  have scenario := optional_eq Json.string? (h "scenario") fun _ _ => ⟨nofun, rfl⟩
  have symbol := optional_eq Json.string? (h "symbol") fun _ _ => ⟨nofun, rfl⟩
  have outcome := optional_eq (fun v => (word? v).bind Verdict.ofLabel?) (h "outcome")
    fun outcome _ => ⟨nofun, verdictOfLabel?_label outcome⟩
  have lifecycleOutcome := optional_eq Json.string? (h "lifecycle_outcome")
    fun _ _ => ⟨nofun, rfl⟩
  have decisionId := optional_eq Json.word? (h "decision_id") fun w _ => ⟨nofun, word?_word w⟩
  have ptr := optional_eq Json.word? (h "ptr") fun w _ => ⟨nofun, word?_word w⟩
  have size := optional_eq Json.word? (h "size") fun w _ => ⟨nofun, word?_word w⟩
  have alignment := optional_eq Json.word? (h "alignment") fun w _ => ⟨nofun, word?_word w⟩
  have errno := optional_eq Json.int32? (h "errno") fun i _ => ⟨nofun, int32?_int32 i⟩
  have durationNs := optional_eq Json.word? (h "duration_ns") fun w _ => ⟨nofun, word?_word w⟩
  have artifactRefs := optional_eq strings? (h "artifact_refs")
    fun refs _ => ⟨nofun, strings?_array refs⟩
  have rest : optional some members "details" = some e.details := by
    refine optional_eq some ((h "details").trans Option.map_id_apply.symm) fun v present => ?_
    exact ⟨fun null => details (null ▸ present), rfl⟩
  simp only [ofMembers?, timestamp, traceId, level, event, runId, stream, scenario, symbol, outcome,
    lifecycleOutcome, decisionId, ptr, size, alignment, errno, durationNs, artifactRefs, rest,
    Option.bind_eq_bind, Option.bind_some]

/-! ## 4. Checks -/

/-- The checks before decoding have nothing against the entry: its trace id is one of
this program, and a verdict on a scenario says which one and how it went. -/
structure Sound (e : LogEntry) : Prop where
  traceId : traceIdStart.isPrefixOf e.traceId.toList = true
  verdict : e.stream = some .selfcheck → e.event = "scenario_result" →
    e.scenario.isSome ∧ e.outcome.isSome

theorem stringAt_eq {α : Type} (label : α → String) {key : String} (field : Option α)
    (found : members.lookup key = field.map fun a => .string (label a)) :
    stringAt members key = field.map label := by
  rw [stringAt, found]
  cases field <;> rfl

theorem checkWord_eq_nil {α : Type} {label : α → String} {key : String} (field : Option α)
    {all : List α} (found : members.lookup key = field.map fun a => .string (label a))
    (allowed : ∀ a, a ∈ all) : checkWord members key (all.map label) = [] := by
  unfold checkWord
  rw [stringAt_eq label field found]
  cases field with
  | none => rfl
  | some a => exact if_pos (List.contains_iff_mem.2 (List.mem_map_of_mem (allowed a)))

theorem checkPresent_eq_nil {fields : List String} {fault : String → LogFault} :
    checkPresent members fields fault = [] ↔ ∀ field ∈ fields, (members.lookup field).isSome := by
  rw [checkPresent, List.filterMap_eq_nil_iff]
  refine forall₂_congr fun field _ => ?_
  cases members.lookup field with
  | none => exact iff_of_false nofun nofun
  | some _ => exact iff_of_true rfl rfl

theorem Carries.isVerdict_iff (h : Carries members e) :
    isVerdict members = true ↔ e.stream = some .selfcheck ∧ e.event = "scenario_result" := by
  have stream := stringAt_eq LogStream.label e.stream (h "stream")
  have event := stringAt_eq id (some e.event) (h "event")
  rw [isVerdict, stream, event, Bool.and_eq_true, beq_iff_eq, beq_iff_eq]
  refine and_congr ?_ Option.some_inj
  cases e.stream with
  | none => exact iff_of_false nofun nofun
  | some stream => cases stream <;> decide

theorem Carries.verdict_eq_nil (h : Carries members e) :
    (if isVerdict members then checkPresent members ["scenario", "outcome"] .verdictLacks
      else []) = [] ↔
      (e.stream = some .selfcheck → e.event = "scenario_result" →
        e.scenario.isSome ∧ e.outcome.isSome) := by
  have scenario : (members.lookup "scenario").isSome = e.scenario.isSome :=
    (congrArg Option.isSome (h "scenario")).trans Option.isSome_map
  have outcome : (members.lookup "outcome").isSome = e.outcome.isSome :=
    (congrArg Option.isSome (h "outcome")).trans Option.isSome_map
  have both : checkPresent members ["scenario", "outcome"] .verdictLacks = [] ↔
      e.scenario.isSome ∧ e.outcome.isSome := by
    rw [checkPresent_eq_nil, List.forall_mem_cons, List.forall_mem_singleton, scenario, outcome]
  rw [← and_imp, ← h.isVerdict_iff, ← both]
  cases isVerdict members with
  | true => exact ⟨fun none _ => none, fun none => none rfl⟩
  | false => exact iff_of_true rfl nofun

theorem Carries.traceId_eq_nil (h : Carries members e) :
    checkTraceId members = [] ↔ traceIdStart.isPrefixOf e.traceId.toList = true := by
  have traceId := stringAt_eq id (some e.traceId) (h "trace_id")
  rw [checkTraceId, traceId]
  show (if traceIdStart.isPrefixOf e.traceId.toList then [] else _) = [] ↔ _
  split
  · next own => exact iff_of_true rfl own
  · next other => exact iff_of_false nofun other

/-- An object that carries an entry has a fault exactly if the entry is not sound. -/
theorem Carries.faults_eq_nil (h : Carries members e) : faults members = [] ↔ Sound e := by
  have present :
      checkPresent members ["timestamp", "trace_id", "level", "event"] .missing = [] := by
    simp only [checkPresent_eq_nil, List.forall_mem_cons, h _]
    exact ⟨rfl, rfl, rfl, rfl, nofun⟩
  have level : checkWord members "level" (Level.all.map (·.label)) = [] :=
    checkWord_eq_nil (some e.level) (h "level") fun level => by cases level <;> decide
  have outcome : checkWord members "outcome" (Verdict.all.map (·.label)) = [] :=
    checkWord_eq_nil e.outcome (h "outcome") fun verdict => by cases verdict <;> decide
  have stream : checkWord members "stream" (LogStream.all.map (·.label)) = [] :=
    checkWord_eq_nil e.stream (h "stream") fun stream => by cases stream <;> decide
  rw [faults, present, level, outcome, stream, List.append_eq_nil_iff, List.append_eq_nil_iff,
    h.verdict_eq_nil, h.traceId_eq_nil]
  exact ⟨fun ⟨⟨_, verdict⟩, traceId⟩ => ⟨traceId, verdict⟩,
    fun sound => ⟨⟨rfl, sound.verdict⟩, sound.traceId⟩⟩

/-! ## 5. Lines -/

/-- The details are a value that can be read again. -/
def Printable (e : LogEntry) : Prop := ∀ v ∈ e.details, v ≠ .null ∧ Canonical 126 v

theorem canonical_map {α : Type} {depth : Nat} {encode : α → Json}
    (canonical : ∀ a, Canonical depth (encode a)) (field : Option α) :
    ∀ v ∈ field.map encode, Canonical depth v := by
  intro v present
  obtain ⟨a, -, rfl⟩ := Option.map_eq_some_iff.1 present
  exact canonical a

theorem canonical_fields (printable : e.Printable) :
    ∀ f ∈ e.fields, ∀ v ∈ f.2, Canonical 126 v := by
  have string (s : String) : ∀ v ∈ some (Json.string s), Canonical 126 v :=
    canonical_map Canonical.string (some s)
  have strings (refs : List String) : Canonical 126 (.array (refs.map .string)) := by
    refine .array fun v member => ?_
    obtain ⟨s, -, rfl⟩ := List.mem_map.1 member
    exact .string s
  simp only [fields, List.forall_mem_cons]
  exact ⟨string _, string _, string _, string _, canonical_map .string _,
    canonical_map (fun _ => .string _) _, canonical_map .string _, canonical_map .string _,
    canonical_map (fun _ => .string _) _, canonical_map .string _,
    canonical_map (fun _ => .integer _) _, canonical_map (fun _ => .integer _) _,
    canonical_map (fun _ => .integer _) _, canonical_map (fun _ => .integer _) _,
    canonical_map (fun _ => .integer _) _, canonical_map (fun _ => .integer _) _,
    canonical_map strings _, fun v present => (printable v present).2, nofun⟩

theorem canonical_members (printable : e.Printable) : ∀ m ∈ e.members, Canonical 126 m.2 := by
  intro m inside
  rw [members_eq] at inside
  obtain ⟨⟨key, value⟩, field, mine⟩ := List.mem_flatMap.1 inside
  cases value with
  | none => cases mine
  | some v =>
    obtain rfl := List.mem_singleton.1 mine
    exact canonical_fields printable _ field v rfl

/-- The line of an entry is an object that carries it. -/
theorem read_toLine (printable : e.Printable) :
    ∃ members, Json.ofChars? e.toLine.toList = some (.object members) ∧ Carries members e := by
  have line : e.toLine.toList = render (.object e.members) := String.toList_ofList
  rw [line]
  exact ⟨_, ofChars?_render_object (canonical_members printable), e.carries_foldl⟩

/-- A sound entry is got back from its line. -/
theorem ofLine_toLine (sound : e.Sound) (printable : e.Printable) :
    ofLine e.toLine.toList = .ok e := by
  obtain ⟨members, read, carries⟩ := read_toLine printable
  have faultless : faults members = [] := carries.faults_eq_nil.2 sound
  have decoded : ofMembers? members = some e :=
    carries.ofMembers?_eq fun null => (printable _ null).1 rfl
  simp only [ofLine, read, Json.object?, faultless, decoded]

theorem toLine_closed (e : LogEntry) : ∃ inside, e.toLine.toList = '{' :: (inside ++ ['}']) := by
  obtain ⟨inside, closed⟩ := render_object_closed e.members
  exact ⟨inside, String.toList_ofList.trans closed⟩

theorem lineFeed_not_mem_toLine (printable : e.Printable) : '\n' ∉ e.toLine.toList := by
  have line : e.toLine.toList = render (.object e.members) := String.toList_ofList
  rw [line]
  exact lineFeed_not_mem_object fun m member =>
    (canonical_members printable m member).lineFeed_not_mem

end LogEntry

/-! ## 6. Logs -/

namespace Text

theorem go_line {line : List Char} (one : '\n' ∉ line) (rest start : List Char)
    (done : List (List Char)) :
    lines.go (line ++ '\n' :: rest) start done =
      lines.go rest [] ((start.reverse ++ line) :: done) := by
  induction line generalizing start with
  | nil => rw [List.append_nil]; exact if_pos rfl
  | cons c line ih =>
    rw [List.mem_cons, not_or] at one
    have next := ih one.2 (c :: start)
    rw [List.reverse_cons, List.append_assoc] at next
    exact (if_neg (Ne.symm one.1)).trans next

theorem go_lines {all : List (List Char)} (one : ∀ line ∈ all, '\n' ∉ line)
    (done : List (List Char)) :
    lines.go (all.flatMap (· ++ ['\n'])) [] done = done.reverse ++ all ++ [[]] := by
  induction all generalizing done with
  | nil => simp [lines.go]
  | cons line rest ih =>
    rw [List.flatMap_cons, List.append_assoc, List.singleton_append,
      go_line (one line List.mem_cons_self),
      ih fun l member => one l (List.mem_cons_of_mem _ member)]
    simp

/-- Each line is closed by a line feed, and nothing is in the line after the last one. -/
theorem lines_flatMap {all : List (List Char)} (one : ∀ line ∈ all, '\n' ∉ line) :
    lines (all.flatMap (· ++ ['\n'])) = all ++ [[]] := go_lines one []

/-- A text between two marks has no blanks at its ends. -/
theorem trim_eq {first last : Char} (inside : List Char) (front : isBlank first = false)
    (back : isBlank last = false) :
    trim (first :: (inside ++ [last])) = first :: (inside ++ [last]) := by
  have reversed : (first :: (inside ++ [last])).reverse = last :: (inside.reverse ++ [first]) := by
    simp
  rw [trim, List.dropWhile_cons_of_neg (Bool.not_eq_true _ ▸ front), reversed,
    List.dropWhile_cons_of_neg (Bool.not_eq_true _ ▸ back), ← reversed, List.reverse_reverse]

/-- The lines that are not blank, without the blanks around them. -/
def present (all : List (List Char)) : List (List Char) := (all.map trim).filter (!·.isEmpty)

theorem mem_present {all : List (List Char)} {line : List Char} :
    line ∈ present all ↔ ∃ whole ∈ all, trim whole = line ∧ line ≠ [] := by
  rw [present, List.mem_filter, List.mem_map]
  simp only [Bool.not_eq_true', List.isEmpty_eq_false_iff]
  exact ⟨fun ⟨⟨whole, member, same⟩, full⟩ => ⟨whole, member, same, full⟩,
    fun ⟨whole, member, same, full⟩ => ⟨⟨whole, member, same⟩, full⟩⟩

theorem present_cons_of_blank {line : List Char} (blank : trim line = [])
    (rest : List (List Char)) : present (line :: rest) = present rest := by
  rw [present, List.map_cons, blank]
  rfl

theorem present_cons {line : List Char} (full : trim line ≠ []) (rest : List (List Char)) :
    present (line :: rest) = trim line :: present rest := by
  have kept : (!(trim line).isEmpty) = true := by rw [List.isEmpty_eq_false_iff.2 full]; rfl
  rw [present, List.map_cons]
  exact List.filter_cons_of_pos kept

/-- Lines that have no blanks at their ends are there as they are. -/
theorem present_append_nil {all : List (List Char)}
    (full : ∀ line ∈ all, trim line = line ∧ line ≠ []) : present (all ++ [[]]) = all := by
  induction all with
  | nil => rfl
  | cons line rest ih =>
    obtain ⟨same, nonempty⟩ := full line List.mem_cons_self
    rw [List.cons_append, present_cons (same.symm ▸ nonempty), same,
      ih fun l member => full l (List.mem_cons_of_mem _ member)]

end Text

namespace LogEntry

/-- What the lines of a log decode to, blank lines left out. -/
def decodeLines (text : List Char) : List (Except (List LogFault) LogEntry) :=
  (Text.present (Text.lines text)).map ofLine

/-- Why a line is refused. If it is accepted there are no reasons. -/
def reasons (line : List Char) : List LogFault :=
  match ofLine line with
  | .ok _ => []
  | .error faults => faults

end LogEntry

namespace LogReport

open LogEntry

/-- The faults of a line with this number. A blank line has none. -/
def faultsOfLine (line : List Char) (number : Nat) : List LineFault :=
  if (Text.trim line).isEmpty then []
  else (reasons (Text.trim line)).map fun fault => ⟨number, fault⟩

/-- The faults of the lines of a log, in order. -/
def faultsOfLines (text : List Char) : List LineFault :=
  (Text.lines text).zipIdx.flatMap fun (line, i) => faultsOfLine line (i + 1)

theorem faultsOfLine_blank {line : List Char} (blank : Text.trim line = []) (number : Nat) :
    faultsOfLine line number = [] := by
  rw [faultsOfLine, blank]
  rfl

theorem faultsOfLine_present {line : List Char} (present : Text.trim line ≠ []) (number : Nat) :
    faultsOfLine line number = (reasons (Text.trim line)).map fun fault => ⟨number, fault⟩ := by
  rw [faultsOfLine, if_neg fun blank => present (List.isEmpty_iff.1 blank)]

theorem add_blank {line : List Char} (blank : Text.trim line = []) (r : LogReport) (number : Nat) :
    r.add line number = r := by
  rw [add, blank]
  rfl

theorem add_present {line : List Char} (present : Text.trim line ≠ []) (r : LogReport)
    (number : Nat) :
    r.add line number = ⟨r.lines + 1, r.faults ++ faultsOfLine line number⟩ := by
  have full : (Text.trim line).isEmpty = false := List.isEmpty_eq_false_iff.2 present
  simp only [add, faultsOfLine, reasons, validateLine, full, Bool.false_eq_true, if_false]
  cases ofLine (Text.trim line) with
  | ok e => simp only [List.map_nil, List.append_nil]
  | error faults => rfl

theorem foldl_add (lines : List (List Char)) (start : Nat) (r : LogReport) :
    (lines.zipIdx start).foldl (fun r (line, i) => r.add line (i + 1)) r =
      ⟨r.lines + (Text.present lines).length,
        r.faults ++ (lines.zipIdx start).flatMap fun (line, i) => faultsOfLine line (i + 1)⟩ := by
  induction lines generalizing start r with
  | nil => simp [Text.present]
  | cons line rest ih =>
    rw [List.zipIdx_cons, List.foldl_cons, List.flatMap_cons]
    dsimp only
    by_cases blank : Text.trim line = []
    · -- A blank line is not counted, but the numbers of the lines go on.
      rw [Text.present_cons_of_blank blank, faultsOfLine_blank blank, List.nil_append,
        add_blank blank, ih]
    · rw [Text.present_cons blank, List.length_cons, ← List.append_assoc, add_present blank, ih,
        Nat.add_assoc, Nat.add_comm 1]

/-- What is reported of a log: the lines that are not blank, and all that is wrong
with them. -/
theorem ofText_eq (text : List Char) :
    ofText text = ⟨(decodeLines text).length, faultsOfLines text⟩ := by
  rw [ofText, foldl_add, decodeLines, List.length_map, Nat.zero_add, List.nil_append]
  rfl

/-- A log all of whose lines decode is reported without faults. -/
theorem ofText_of_decodes {text : List Char} (decodes : ∀ r ∈ decodeLines text, ∃ e, r = .ok e) :
    ofText text = ⟨(decodeLines text).length, []⟩ := by
  have faultless : faultsOfLines text = [] := by
    refine List.flatMap_eq_nil_iff.2 fun (line, i) member => ?_
    show faultsOfLine line (i + 1) = []
    by_cases blank : Text.trim line = []
    · exact faultsOfLine_blank blank _
    · have present := Text.mem_present.2 ⟨line, List.fst_mem_of_mem_zipIdx member, rfl, blank⟩
      obtain ⟨e, decoded⟩ := decodes _ (List.mem_map_of_mem present)
      rw [faultsOfLine_present blank, reasons, decoded]
      rfl
  rw [ofText_eq, faultless]

end LogReport

namespace LogEntry

theorem toLine_ne_nil (e : LogEntry) : e.toLine.toList ≠ [] := by
  obtain ⟨inside, closed⟩ := e.toLine_closed
  rw [closed]
  exact List.cons_ne_nil _ _

theorem trim_toLine (e : LogEntry) : Text.trim e.toLine.toList = e.toLine.toList := by
  obtain ⟨inside, closed⟩ := e.toLine_closed
  rw [closed]
  exact Text.trim_eq inside (by decide) (by decide)

/-- A log of sound entries decodes into them. -/
theorem decodeLines_toLine {entries : List LogEntry} (sound : ∀ e ∈ entries, e.Sound)
    (printable : ∀ e ∈ entries, e.Printable) :
    decodeLines (entries.flatMap fun e => e.toLine.toList ++ ['\n']) = entries.map .ok := by
  have one : ∀ line ∈ entries.map (·.toLine.toList), '\n' ∉ line := by
    intro line member
    obtain ⟨e, mine, rfl⟩ := List.mem_map.1 member
    exact lineFeed_not_mem_toLine (printable e mine)
  have full : ∀ line ∈ entries.map (·.toLine.toList), Text.trim line = line ∧ line ≠ [] := by
    intro line member
    obtain ⟨e, mine, rfl⟩ := List.mem_map.1 member
    exact ⟨e.trim_toLine, e.toLine_ne_nil⟩
  have text : (entries.flatMap fun e => e.toLine.toList ++ ['\n']) =
      (entries.map (·.toLine.toList)).flatMap (· ++ ['\n']) := by rw [List.flatMap_map]
  rw [decodeLines, text, Text.lines_flatMap one, Text.present_append_nil full, List.map_map]
  refine List.map_congr_left fun e mine => ?_
  rw [Function.comp_apply, ofLine_toLine (sound e mine) (printable e mine)]

end LogEntry

end MallocLayer
