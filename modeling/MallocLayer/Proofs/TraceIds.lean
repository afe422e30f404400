import MallocLayer.Proofs.SelfCheckLog
import Mathlib.Algebra.Order.Ring.Nat

/-!
# Trace ids

The trace ids of a log come from two sources. The emitter numbers the entries that
have none, and a lifecycle record brings its own, made of its symbol and its decision
id. Both have text of any kind in the middle, colons included, so that neither the run
id nor the symbol tells them apart. What stands behind the last colon does: a decimal
number of at least three digits, or sixteen hexadecimal digits.

So the ids of a log differ as long as no number has sixteen digits
(`write_traceIds_differ`). With 10^15 numbers given there is a record with the same id
(`traceId_eq_of_sixteen_digits`).
-/

namespace MallocLayer

/-! ## 1. What stands behind the last colon -/

/-- The text without a colon that stands behind the last colon. -/
def EndsIn (id ending : String) : Prop :=
  ':' ∉ ending.toList ∧ ∃ front, id.toList = front ++ ':' :: ending.toList

theorem EndsIn.unique {id s t : String} (ends : EndsIn id s) (ends' : EndsIn id t) : s = t := by
  obtain ⟨plain, front, shape⟩ := ends
  obtain ⟨plain', front', shape'⟩ := ends'
  rw [← String.toList_inj]
  rcases List.append_eq_append_iff.1 (shape.symm.trans shape') with
    ⟨between, -, rest⟩ | ⟨between, -, rest⟩
  · cases between with
    | nil => exact (List.cons.inj rest).2
    | cons c between =>
      refine absurd ?_ plain
      rw [(List.cons.inj rest).2]
      exact List.mem_append_right _ List.mem_cons_self
  · cases between with
    | nil => exact (List.cons.inj rest).2.symm
    | cons c between =>
      refine absurd ?_ plain'
      rw [(List.cons.inj rest).2]
      exact List.mem_append_right _ List.mem_cons_self

theorem endsIn_of_append {ending : String} (plain : ':' ∉ ending.toList) (front : String) :
    EndsIn (front ++ "::" ++ ending) ending := by
  refine ⟨plain, front.toList ++ [':'], ?_⟩
  simp [String.toList_append]

namespace Emitter

theorem toList_threeDigits (n : Nat) :
    (threeDigits n).toList =
      List.replicate (3 - (Nat.toDigits 10 n).length) '0' ++ Nat.toDigits 10 n :=
  String.toList_ofList

/-- Leading zeros do not change what is read. -/
theorem ofDigitChars_threeDigits (n : Nat) :
    Nat.ofDigitChars 10 (threeDigits n).toList 0 = n := by
  rw [toList_threeDigits, Nat.ofDigitChars_append, Nat.ofDigitChars_replicate_zero, Nat.mul_zero,
    Nat.ofDigitChars_ten_toDigits]

theorem threeDigits_injective : Function.Injective threeDigits := by
  intro m n same
  rw [← ofDigitChars_threeDigits m, same, ofDigitChars_threeDigits]

theorem isDigit_of_mem_threeDigits {n : Nat} {c : Char} (member : c ∈ (threeDigits n).toList) :
    c.isDigit := by
  rw [toList_threeDigits, List.mem_append, List.mem_replicate] at member
  rcases member with ⟨-, rfl⟩ | digit
  · rfl
  · exact Nat.isDigit_of_mem_toDigits (by decide) (by decide) digit

theorem length_threeDigits_lt {n : Nat} (few : n < 10 ^ 15) : (threeDigits n).toList.length < 16 := by
  have short := (Nat.length_toDigits_le_iff (b := 10) (k := 15) (by decide) (by decide)).2 few
  rw [toList_threeDigits, List.length_append, List.length_replicate]
  omega

theorem endsIn_traceId (runId : String) (sequence : Nat) :
    EndsIn (traceId runId sequence) (threeDigits sequence) :=
  endsIn_of_append (fun colon => absurd (isDigit_of_mem_threeDigits colon) (by decide)) _

theorem traceId_injective (runId : String) : Function.Injective (traceId runId) := by
  intro m n same
  have ends := endsIn_traceId runId m
  rw [same] at ends
  exact threeDigits_injective (ends.unique (endsIn_traceId runId n))

end Emitter

namespace Lifecycle

theorem toList_hexWord (w : UInt64) :
    (hexWord w).toList =
      (List.range 16).map fun i => Json.hexDigit (w >>> (60 - 4 * UInt64.ofNat i)).toNat :=
  String.toList_ofList.trans (List.map_congr_left fun i _ => by
    rw [UInt64.toNat_mod]
    rfl)

theorem length_hexWord (w : UInt64) : (hexWord w).toList.length = 16 := by
  rw [toList_hexWord, List.length_map, List.length_range]

/-- Numbers that agree in their last digits agree up to there. -/
theorem mod_pow_eq_of_digits {a b k : Nat} (digits : ∀ i < k, a / 16 ^ i % 16 = b / 16 ^ i % 16) :
    a % 16 ^ k = b % 16 ^ k := by
  induction k with
  | zero => rw [Nat.pow_zero, Nat.mod_one, Nat.mod_one]
  | succ k ih =>
    rw [Nat.mod_pow_succ, Nat.mod_pow_succ, ih fun i below => digits i (by omega),
      digits k (by omega)]

/-- The digit at place `i`, counted from the last one, is got by a shift of four bits for
each digit behind it. -/
theorem shift_of_place : ∀ i < 16, (60 - 4 * UInt64.ofNat (15 - i)).toNat % 64 = 4 * i := by
  decide

theorem hexWord_injective : Function.Injective hexWord := by
  intro v w same
  have texts := congrArg String.toList same
  rw [toList_hexWord, toList_hexWord, List.map_inj_left] at texts
  have digits : ∀ i < 16, v.toNat / 16 ^ i % 16 = w.toNat / 16 ^ i % 16 := by
    intro i below
    have digit := congrArg Json.hexValue? (texts (15 - i) (List.mem_range.2 (by omega)))
    rw [Json.hexValue?_hexDigit, Json.hexValue?_hexDigit, Option.some.injEq,
      UInt64.toNat_shiftRight, UInt64.toNat_shiftRight, Nat.shiftRight_eq_div_pow,
      Nat.shiftRight_eq_div_pow, shift_of_place i below, Nat.pow_mul] at digit
    exact digit
  have small (x : UInt64) : x.toNat < 16 ^ 16 := x.toNat_lt
  have numbers := mod_pow_eq_of_digits digits
  rw [Nat.mod_eq_of_lt (small v), Nat.mod_eq_of_lt (small w)] at numbers
  exact UInt64.toNat_inj.1 numbers

theorem colon_not_mem_hexWord (w : UInt64) : ':' ∉ (hexWord w).toList := by
  rw [toList_hexWord]
  intro colon
  obtain ⟨i, -, digit⟩ := List.mem_map.1 colon
  exact Nat.digitChar_ne ':' rfl digit

theorem Record.endsIn_traceId (r : Record) : EndsIn r.traceId (hexWord r.decisionId) :=
  endsIn_of_append (colon_not_mem_hexWord _) _

theorem Record.decisionId_eq_of_traceId {r s : Record} (same : r.traceId = s.traceId) :
    r.decisionId = s.decisionId := by
  have ends := r.endsIn_traceId
  rw [same] at ends
  exact hexWord_injective (ends.unique s.endsIn_traceId)

/-- A number of less than sixteen digits is no decision id. -/
theorem Record.traceId_ne (r : Record) (runId : String) {sequence : Nat}
    (few : sequence < 10 ^ 15) : r.traceId ≠ Emitter.traceId runId sequence := by
  intro same
  have ends := r.endsIn_traceId
  rw [same] at ends
  have length := congrArg (·.toList.length) (ends.unique (Emitter.endsIn_traceId runId sequence))
  have short := Emitter.length_threeDigits_lt few
  simp only [length_hexWord] at length
  omega

end Lifecycle

/-! ## 2. What an emitter gives -/

namespace Emitter

/-- Trace ids as they are emitted, when `sequence` were given before: those that are
missing are numbered. -/
def fill (runId : String) : (sequence : Nat) → List String → List String
  | _, [] => []
  | sequence, id :: rest =>
    if id = "" then traceId runId (sequence + 1) :: fill runId (sequence + 1) rest
    else id :: fill runId sequence rest

theorem map_traceId_stampAll (runId : String) (sequence : Nat) (entries : List LogEntry) :
    (stampAll runId sequence entries).map (·.traceId) =
      fill runId sequence (entries.map (·.traceId)) := by
  induction entries generalizing sequence with
  | nil => rfl
  | cons e rest ih =>
    simp only [stampAll, List.map_cons, ih, fill, stamp, advance, String.isEmpty_iff]
    split <;> rfl

variable {runId : String} {ids : List String} {sequence : Nat}

/-- Each missing id uses up one number. -/
theorem mem_fill {id : String} (member : id ∈ fill runId sequence ids) :
    (id ∈ ids ∧ id ≠ "") ∨
      ∃ k, sequence < k ∧ k ≤ sequence + ids.count "" ∧ id = traceId runId k := by
  induction ids generalizing sequence with
  | nil => cases member
  | cons first rest ih =>
    unfold fill at member
    split at member
    · next missing =>
      rw [missing, List.count_cons_self]
      cases member with
      | head => exact .inr ⟨sequence + 1, by omega, by omega, rfl⟩
      | tail _ later =>
        rcases ih later with ⟨given, named⟩ | ⟨k, above, below, rfl⟩
        · exact .inl ⟨List.mem_cons_of_mem _ given, named⟩
        · exact .inr ⟨k, by omega, by omega, rfl⟩
    · next named =>
      rw [List.count_cons_of_ne named]
      cases member with
      | head => exact .inl ⟨List.mem_cons_self, named⟩
      | tail _ later =>
        rcases ih later with ⟨given, named⟩ | numbered
        · exact .inl ⟨List.mem_cons_of_mem _ given, named⟩
        · exact .inr numbered

/-- The ids differ when those that are given do, and none of them is a number that is
used up. -/
theorem nodup_fill (given : (ids.filter (· ≠ "")).Nodup)
    (apart : ∀ id ∈ ids, id ≠ "" → ∀ k ≤ sequence + ids.count "", id ≠ traceId runId k) :
    (fill runId sequence ids).Nodup := by
  induction ids generalizing sequence with
  | nil => exact .nil
  | cons first rest ih =>
    have others : ∀ id ∈ rest, id ≠ "" → ∀ k ≤ sequence + (first :: rest).count "",
        id ≠ traceId runId k := fun id member => apart id (List.mem_cons_of_mem _ member)
    unfold fill
    split
    · next missing =>
      rw [missing, List.count_cons_self] at others
      rw [List.filter_cons_of_neg (by simpa using missing)] at given
      refine List.nodup_cons.2 ⟨fun again => ?_, ih given fun id member named k below =>
        others id member named k (by omega)⟩
      rcases mem_fill again with ⟨member, named⟩ | ⟨k, above, -, same⟩
      · exact others _ member named (sequence + 1) (by omega) rfl
      · exact absurd (traceId_injective runId same) (by omega)
    · next named =>
      rw [List.count_cons_of_ne named] at others
      rw [List.filter_cons_of_pos (by simpa using named), List.nodup_cons] at given
      refine List.nodup_cons.2 ⟨fun again => ?_, ih given.2 others⟩
      rcases mem_fill again with ⟨member, -⟩ | ⟨k, -, below, same⟩
      · exact given.1 (List.mem_filter.2 ⟨member, by simpa using named⟩)
      · refine apart first List.mem_cons_self named k ?_ same
        rw [List.count_cons_of_ne named]
        exact below

end Emitter

/-! ## 3. The ids of a log -/

namespace SelfCheck

/-- The trace id that comes with a fact. -/
def Fact.traceId : Fact → String
  | .lifecycle record => record.traceId
  | .start | .verdict _ | .finish => ""

theorem traceId_entry (run : SelfCheck) (fact : Fact) (time : String) :
    (fact.entry run time).traceId = fact.traceId := by
  cases fact <;> rfl

theorem map_traceId_entries (run : SelfCheck) (clock : Nat → String) (facts : List Fact)
    (start : Nat) :
    (((facts.map (Fact.entry run)).zipIdx start).map fun (entry, i) => entry (clock i)).map
        (·.traceId) = facts.map Fact.traceId := by
  induction facts generalizing start with
  | nil => rfl
  | cons fact rest ih =>
    simp only [List.map_cons, List.zipIdx_cons, traceId_entry, ih]

theorem traceId_ne_empty (record : Lifecycle.Record) : record.traceId ≠ "" := by
  rw [Ne, ← String.isEmpty_iff, traceId_isEmpty]
  exact Bool.false_ne_true

theorem map_traceId_facts (run : SelfCheck) :
    run.facts.map Fact.traceId =
      "" :: List.replicate run.reports.length "" ++ run.lifecycle.map (·.traceId) ++ [""] := by
  simp only [facts, List.map_append, List.map_map, List.map_cons, List.map_nil]
  have verdicts : run.reports.map (Fact.traceId ∘ Fact.verdict) =
      List.replicate run.reports.length "" := List.map_const' ..
  rw [verdicts]
  rfl

/-- Given trace ids are those of the lifecycle records. -/
theorem filter_traceId_facts (run : SelfCheck) :
    (run.facts.map Fact.traceId).filter (· ≠ "") = run.lifecycle.map (·.traceId) := by
  have records : (run.lifecycle.map (·.traceId)).filter (· ≠ "") =
      run.lifecycle.map (·.traceId) := by
    refine List.filter_eq_self.2 fun id member => ?_
    obtain ⟨record, -, rfl⟩ := List.mem_map.1 member
    exact decide_eq_true (traceId_ne_empty record)
  rw [map_traceId_facts, List.filter_append, List.filter_append, records]
  simp

/-- The numbers go to the start, the verdicts and the end. -/
theorem count_traceId_facts (run : SelfCheck) :
    (run.facts.map Fact.traceId).count "" = run.reports.length + 2 := by
  have records : (run.lifecycle.map (·.traceId)).count "" = 0 := by
    refine List.count_eq_zero.2 fun member => ?_
    obtain ⟨record, -, empty⟩ := List.mem_map.1 member
    exact traceId_ne_empty record empty
  rw [map_traceId_facts, List.count_append, List.count_append, records]
  simp

theorem nodup_traceIds {run : SelfCheck} (runId : String) (clock : Nat → String)
    (few : run.reports.length < 10 ^ 15 - 2)
    (decisions : (run.lifecycle.map (·.decisionId)).Nodup) :
    ((run.logEntries runId clock).map (·.traceId)).Nodup := by
  rw [logEntries, Emitter.map_traceId_stampAll, entries_eq, map_traceId_entries]
  refine Emitter.nodup_fill ?_ fun id member named k below => ?_
  · rw [filter_traceId_facts]
    rw [List.Nodup, List.pairwise_map] at decisions ⊢
    exact decisions.imp fun differ same => differ (Lifecycle.Record.decisionId_eq_of_traceId same)
  · have listed : id ∈ run.lifecycle.map (·.traceId) := by
      rw [← filter_traceId_facts]
      exact List.mem_filter.2 ⟨member, decide_eq_true named⟩
    obtain ⟨record, -, rfl⟩ := List.mem_map.1 listed
    rw [count_traceId_facts] at below
    exact record.traceId_ne runId (by omega)

/-- The text is a log, and no two of its entries have the same trace id. -/
def DistinctTraceIds (text : String) : Prop :=
  ∃ entries : List LogEntry,
    LogEntry.decodeLines text.toList = entries.map .ok ∧ (entries.map (·.traceId)).Nodup

/-- Whatever the run id and the symbols are: the trace ids of a log all differ, those that
the emitter gives and those of the lifecycle records. So they do in the file, when the
run is written to files that return what was written. -/
theorem write_traceIds_differ (run : SelfCheck) (runId : String)
    (few : run.reports.length < 10 ^ 15 - 2)
    (decisions : (run.lifecycle.map (·.decisionId)).Nodup) :
    (∀ clock, DistinctTraceIds (run.logText runId clock)) ∧
      ∀ {ρ : Type} [FileStore (StateM ρ)] [Clock (StateM ρ)] (directory : String) (r r' : ρ)
        (artifacts : Artifacts),
        ReturnsWritten ρ (FileStore.join directory logName) (FileStore.join directory indexName) →
        (run.write directory runId : StateM ρ _).run r = (.ok artifacts, r') →
        ∃ text, ((FileStore.readText artifacts.log : StateM ρ _).run r').1 = .ok text ∧
          DistinctTraceIds text := by
  have differ (clock : Nat → String) : DistinctTraceIds (run.logText runId clock) :=
    ⟨run.logEntries runId clock, run.decodeLines_logText runId clock,
      nodup_traceIds runId clock few decisions⟩
  refine ⟨differ, fun directory r r' artifacts returns written => ?_⟩
  obtain ⟨clock, has⟩ := has_logText returns written
  exact ⟨run.logText runId clock, readText_of_has has, differ clock⟩

/-- A run whose records have the run id as their symbol, or all of a trace id. -/
def lookalikeRun : SelfCheck where
  reports := [{ name := "memalign", symbol := "memalign", outcome := .pass }]
  lifecycle :=
    [{ level := .info, symbol := "memalign", event := "moved", outcome := "ok", decisionId := 1 },
      { level := .info, symbol := "memalign::001", event := "moved", outcome := "ok",
        decisionId := 2 },
      { level := .info, symbol := "", event := "moved", outcome := "ok", decisionId := 3 }]

theorem write_traceIds_differ_lookalikeRun :
    lookalikeRun.reports.length < 10 ^ 15 - 2 ∧
      (lookalikeRun.lifecycle.map (·.decisionId)).Nodup ∧
      ∀ clock, DistinctTraceIds (lookalikeRun.logText "memalign" clock) := by
  have few : lookalikeRun.reports.length < 10 ^ 15 - 2 := by decide
  have decisions : (lookalikeRun.lifecycle.map (·.decisionId)).Nodup := by decide
  exact ⟨few, decisions, (write_traceIds_differ lookalikeRun "memalign" few decisions).1⟩

/-- The number of digits is what keeps the two kinds of ids apart. -/
theorem traceId_eq_of_sixteen_digits {record : Lifecycle.Record} {runId : String}
    (symbol : record.symbol = runId) (decisionId : record.decisionId = 0x1000000000000000) :
    record.traceId = Emitter.traceId runId (10 ^ 15) := by
  have digits : Lifecycle.hexWord 0x1000000000000000 = Emitter.threeDigits (10 ^ 15) := by
    decide +kernel
  rw [Lifecycle.Record.traceId, Emitter.traceId, symbol, decisionId, digits]

end SelfCheck

end MallocLayer
