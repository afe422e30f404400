import MallocLayer.Cli.Run
import MallocLayer.Files.Tree
import MallocLayer.Proofs.LineValidation
import Mathlib.Control.Monad.Basic

/-!
# What is counted in an invalid log

The command that validates a log succeeds exactly if every line that is not blank is
accepted. If some are not, its last message gives a number of invalid lines out of all
lines, but what it counts is faults. A line has a fault for every check that it fails,
so the number is that of the refused lines exactly if each of these has one fault
(`validateLog_judges`). It may be larger than the number of all lines
(`invalid_lines_counted_false`).
-/

namespace MallocLayer

open LogEntry (reasons)

variable {line text : List Char} {number : Nat} {found : List LineFault}

/-! ## 1. Refused lines -/

/-- The lines of a log that are checked: those that are not blank. -/
def checkedLines (text : List Char) : List (List Char) := Text.present (Text.lines text)

/-- The validator accepts every line that it checks. -/
def AllAccepted (text : List Char) : Prop :=
  ∀ line ∈ checkedLines text, ∀ number, ∃ e, validateLine line number = .ok e

/-- No refused line has more than one fault. -/
def OneFaultEach (text : List Char) : Prop :=
  ∀ line ∈ checkedLines text, ∀ number found,
    validateLine line number = .error found → found.length = 1

/-- The number of lines that are refused. -/
def refusedLines (text : List Char) : Nat :=
  (checkedLines text).countP fun line => !(validateLine line 0).isOk

theorem validateLine_eq_error : validateLine line number = .error found ↔
    reasons line ≠ [] ∧ found = (reasons line).map fun fault => ⟨number, fault⟩ := by
  unfold validateLine reasons
  cases answer : LogEntry.ofLine line with
  | ok e => exact iff_of_false nofun fun refused => refused.1 rfl
  | error faults =>
    have faulty := LogEntry.ofLine_error answer
    constructor
    · rintro ⟨⟩
      exact ⟨faulty, rfl⟩
    · rintro ⟨-, rfl⟩
      rfl

theorem isOk_validateLine : (validateLine line number).isOk ↔ reasons line = [] := by
  cases answer : validateLine line number with
  | ok e =>
    refine iff_of_true rfl ?_
    rw [reasons, validateLine_eq_ok.1 answer]
  | error found => exact iff_of_false Bool.false_ne_true (validateLine_eq_error.1 answer).1

theorem allAccepted_iff : AllAccepted text ↔ ∀ line ∈ checkedLines text, reasons line = [] := by
  refine forall₂_congr fun line _ => ?_
  constructor
  · intro accepted
    obtain ⟨e, said⟩ := accepted 0
    exact isOk_validateLine.1 (said ▸ rfl : (validateLine line 0).isOk)
  · intro faultless number
    cases said : validateLine line number with
    | ok e => exact ⟨e, rfl⟩
    | error found => exact absurd faultless (validateLine_eq_error.1 said).1

theorem oneFaultEach_iff :
    OneFaultEach text ↔ ∀ line ∈ checkedLines text, (reasons line).length ≤ 1 := by
  refine forall₂_congr fun line _ => ?_
  constructor
  · intro single
    by_cases accepted : reasons line = []
    · simp [accepted]
    · have one := single 0 _ (validateLine_eq_error.2 ⟨accepted, rfl⟩)
      rw [List.length_map] at one
      exact Nat.le_of_eq one
  · intro most number found said
    obtain ⟨faulty, rfl⟩ := validateLine_eq_error.1 said
    rw [List.length_map]
    exact Nat.le_antisymm most (List.length_pos_iff.2 faulty)

/-! ## 2. Faults and lines -/

/-- The faults of a log are those of its lines together. -/
theorem length_flatMap_faultsOfLine (all : List (List Char)) (start : Nat) :
    ((all.zipIdx start).flatMap fun (line, i) => LogReport.faultsOfLine line (i + 1)).length =
      ((Text.present all).flatMap reasons).length := by
  induction all generalizing start with
  | nil => rfl
  | cons line rest ih =>
    rw [List.zipIdx_cons, List.flatMap_cons, List.length_append, ih]
    dsimp only
    by_cases blank : Text.trim line = []
    · rw [LogReport.faultsOfLine_blank blank, Text.present_cons_of_blank blank, List.length_nil,
        Nat.zero_add]
    · rw [LogReport.faultsOfLine_present blank, Text.present_cons blank, List.length_map,
        List.flatMap_cons, List.length_append]

/-- There are as many faults as refused lines, or more when a line has several. -/
theorem countP_refused (lines : List (List Char)) :
    let refused := lines.countP fun line => !(validateLine line 0).isOk
    let faults := (lines.flatMap reasons).length
    refused ≤ faults ∧ (faults = refused ↔ ∀ line ∈ lines, (reasons line).length ≤ 1) := by
  induction lines with
  | nil => exact ⟨Nat.le_refl _, iff_of_true rfl nofun⟩
  | cons line rest ih =>
    obtain ⟨le, eq_iff⟩ := ih
    rw [List.flatMap_cons, List.length_append, List.countP_cons, List.forall_mem_cons, ← eq_iff]
    by_cases accepted : reasons line = []
    · have ok : (validateLine line 0).isOk := isOk_validateLine.2 accepted
      simp only [accepted, ok, List.length_nil, Bool.not_true, Bool.false_eq_true, if_false,
        Nat.zero_le, Nat.zero_add, Nat.add_zero, true_and, and_true]
      exact le
    · have refused : (validateLine line 0).isOk = false :=
        Bool.eq_false_iff.2 fun ok => accepted (isOk_validateLine.1 ok)
      have pos := List.length_pos_iff.2 accepted
      simp only [refused, Bool.not_false, if_true]
      omega

theorem refusedLines_le (text : List Char) :
    refusedLines text ≤ (LogReport.faultsOfLines text).length ∧
      ((LogReport.faultsOfLines text).length = refusedLines text ↔ OneFaultEach text) := by
  rw [oneFaultEach_iff, LogReport.faultsOfLines, length_flatMap_faultsOfLine]
  exact countP_refused (checkedLines text)

theorem faultsOfLines_eq_nil : LogReport.faultsOfLines text = [] ↔ AllAccepted text := by
  rw [allAccepted_iff, ← List.length_eq_zero_iff, LogReport.faultsOfLines,
    length_flatMap_faultsOfLine, List.length_eq_zero_iff, List.flatMap_eq_nil_iff]
  rfl

/-! ## 3. The command -/

namespace Cli

/-- What the command says of a log whose text was read, or could not be. -/
inductive Judges (log : String) : Except FileError String → Result → Prop
  | unread {cause : FileError} : Judges log (.error cause) (finish [] (.error (.file log cause)))
  | valid {text : String} (accepted : AllAccepted text.toList) :
      Judges log (.ok text)
        (finish [] (.ok [s!"{log}: {(checkedLines text.toList).length} valid lines"]))
  /-- The number in the last message is that of the messages before it, one for each
  fault. -/
  | invalid {text : String} (refused : ¬ AllAccepted text.toList) {faults : List LineFault}
      (at_least : refusedLines text.toList ≤ faults.length)
      (exact_iff : faults.length = refusedLines text.toList ↔ OneFaultEach text.toList) :
      Judges log (.ok text)
        (finish (faults.map LineFault.display)
          (.error (.invalidLog log faults.length (checkedLines text.toList).length)))

section Run

variable {ρ : Type} [FileStore (StateM ρ)] [Clock (StateM ρ)]

theorem run_validateLog (log : String) (r : ρ) :
    ((runCommand (.validateLog log) : StateM ρ Result).run r).1 =
      match ((FileStore.readText log : StateM ρ _).run r).1 with
      | .error cause => finish [] (.error (.file log cause))
      | .ok text =>
        let report := LogReport.ofText text.toList
        finish (report.faults.map LineFault.display) <|
          if report.faults.isEmpty then .ok [s!"{log}: {report.lines} valid lines"]
          else .error (.invalidLog log report.faults.length report.lines) := by
  simp only [runCommand, validateLog, StateT.run_bind]
  rcases (FileStore.readText log : StateM ρ _).run r with ⟨_ | text, r₁⟩ <;> rfl

/-- The command that validates a log says of it what it should, but for the number of
invalid lines, which is that of their faults. It succeeds exactly if the log can be
read and every line that is not blank is accepted. -/
theorem validateLog_judges (log : String) (r : ρ) :
    Judges log ((FileStore.readText log : StateM ρ _).run r).1
        ((runCommand (.validateLog log) : StateM ρ Result).run r).1 ∧
      (((runCommand (.validateLog log) : StateM ρ Result).run r).1.status = 0 ↔
        ∃ text, ((FileStore.readText log : StateM ρ _).run r).1 = .ok text ∧
          AllAccepted text.toList) := by
  rw [run_validateLog]
  generalize ((FileStore.readText log : StateM ρ _).run r).1 = answer
  cases answer with
  | error cause =>
    refine ⟨.unread, iff_of_false (fun zero => ?_) nofun⟩
    cases zero
  | ok text =>
    have length : (LogEntry.decodeLines text.toList).length = (checkedLines text.toList).length :=
      List.length_map _
    simp only [LogReport.ofText_eq, length]
    by_cases accepted : AllAccepted text.toList
    · rw [faultsOfLines_eq_nil.2 accepted]
      exact ⟨.valid accepted, iff_of_true rfl ⟨text, rfl, accepted⟩⟩
    · have faulty : (LogReport.faultsOfLines text.toList).isEmpty = false :=
        List.isEmpty_eq_false_iff.2 fun none_found => accepted (faultsOfLines_eq_nil.1 none_found)
      obtain ⟨at_least, exact_iff⟩ := refusedLines_le text.toList
      rw [faulty]
      refine ⟨.invalid accepted at_least exact_iff, iff_of_false (fun zero => ?_) ?_⟩
      · cases zero
      · rintro ⟨_, ⟨⟩, accepted'⟩
        exact accepted accepted'

end Run

/-- A tree with a log of one line, an object without members. -/
def emptyObjectLog : FileTree := ({} : FileTree).withFile "a.jsonl" "{}\n".toUTF8

theorem readText_emptyObjectLog :
    ((FileStore.readText "a.jsonl" : StateM FileTree _).run emptyObjectLog).1 = .ok "{}\n" := by
  decide +kernel

/-- The number of invalid lines that the command gives is not that of the lines that are
refused, and may be larger than that of all lines. -/
theorem invalid_lines_counted_false :
    ¬ ∀ (t : FileTree) (log text : String) (messages : List String) (errors lines : Nat),
      ((FileStore.readText log : StateM FileTree _).run t).1 = .ok text →
      ((runCommand (.validateLog log) : StateM FileTree Result).run t).1 =
        finish messages (.error (.invalidLog log errors lines)) →
      errors = refusedLines text.toList ∧ errors ≤ lines := by
  intro counted
  have ran : ((runCommand (.validateLog "a.jsonl") : StateM FileTree Result).run emptyObjectLog).1 =
      finish (["timestamp", "trace_id", "level", "event"].map fun field =>
        LineFault.display ⟨1, .missing field⟩) (.error (.invalidLog "a.jsonl" 4 1)) := by
    decide +kernel
  obtain ⟨-, most⟩ := counted _ _ _ _ _ _ readText_emptyObjectLog ran
  exact absurd most (by decide)

end Cli

end MallocLayer
