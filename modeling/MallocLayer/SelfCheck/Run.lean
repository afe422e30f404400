import MallocLayer.Files
import MallocLayer.LogEntry
import MallocLayer.SelfCheck.Scenario
import MallocLayer.Text.Part

/-!
# Running a self-check

The scenarios that a filter selects run one after the other over one layer,
with tracing on. What the layer recorded on the way is kept as evidence.
-/

namespace MallocLayer

namespace SelfCheck

/-- The verdict on a scenario. -/
structure Report where
  name : String
  symbol : String
  outcome : Verdict
  detail : Option String := none
  errno : Option Errno := none
  durationNs : UInt64 := 0
deriving DecidableEq, Repr

namespace Report

/-- The report on a scenario that ended with the given result. -/
def ofResult {α : Type} (scenario : Scenario α) (result : Except Failure Unit)
    (durationNs : UInt64) : Report :=
  match result with
  | .ok () => { name := scenario.name, symbol := scenario.symbol, outcome := .pass, durationNs }
  | .error failure =>
    { name := scenario.name, symbol := scenario.symbol, outcome := .fail,
      detail := some failure.detail, errno := failure.errno, durationNs }

end Report

/-- The scenarios whose name contains the filter; without a filter, all. -/
def selected (α : Type) [SystemAllocator α] (filter : Option String) : List (Scenario α) :=
  (Scenario.all α).filter fun scenario =>
    filter.all fun part => Text.occursIn part.toList scenario.name.toList

/-- Runs scenarios one after the other. -/
def runAll {m : Type → Type} {α : Type} [Monad m] [Clock m] :
    List (Scenario α) → Layer (HeaderHeap α) → m (List Report × Layer (HeaderHeap α))
  | [], s => return ([], s)
  | scenario :: rest, s => do
    let ((result, s), durationNs) ← Clock.timed fun _ => scenario.check.run s
    let (reports, s) ← runAll rest s
    return (.ofResult scenario result durationNs :: reports, s)

end SelfCheck

/-- What a run of the self-check produced. -/
structure SelfCheck where
  reports : List SelfCheck.Report
  lifecycle : List Lifecycle.Record
deriving DecidableEq, Repr

namespace SelfCheck

/-- The number of scenarios that failed. -/
def failed (run : SelfCheck) : Nat := run.reports.countP (·.outcome == .fail)

/-- Runs the selected scenarios over a system allocator. Also returns the layer
that they ran over. -/
def runOver {m : Type → Type} {α : Type} [Monad m] [Clock m] [SystemAllocator α] (heap : Heap α)
    (page : PageSize) (filter : Option String) : m (SelfCheck × Layer (HeaderHeap α)) := do
  let start : Layer (HeaderHeap α) :=
    .ofHeap ⟨{ system := heap.state }, heap.memory⟩ page { trace := true }
  let (reports, s) ← runAll (selected α filter) start
  let (lifecycle, log) := s.log.drain
  return (⟨reports, lifecycle⟩, { s with log })

/-- Runs the selected scenarios on a platform with pages of 4096 bytes. -/
def run {m : Type → Type} [Monad m] [Clock m] (filter : Option String) : m SelfCheck := do
  let page := PageSize.ofReport 4096 fun _ => by decide
  let (run, _) ← runOver (⟨{}, Memory.empty⟩ : Heap RegionSource) page filter
  return run

/-- The names of the scenarios, in the order in which they run. -/
def names : List String := (Scenario.all RegionSource).map (·.name)

end SelfCheck

end MallocLayer
