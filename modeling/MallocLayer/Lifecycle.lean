import MallocLayer.Word

/-!
# Lifecycle records

What the layer, its zones and its fork coordinators did, as structured
records. The log is a ring of fixed size, so that recording never allocates:
when the ring is full, the oldest record is overwritten and counted as dropped.
Each record gets the next decision id.
-/

namespace MallocLayer

/-- The severity of a record. -/
inductive Level where
  | trace
  | debug
  | info
  | warn
  | error
deriving DecidableEq, Repr

namespace Level

def label : Level → String
  | .trace => "trace"
  | .debug => "debug"
  | .info => "info"
  | .warn => "warn"
  | .error => "error"

def all : List Level := [.trace, .debug, .info, .warn, .error]

def ofLabel? (s : String) : Option Level := all.find? (·.label == s)

theorem ofLabel?_label (level : Level) : ofLabel? level.label = some level := by
  cases level <;> decide

end Level

namespace Lifecycle

/-- What a caller reports. The log adds the decision id. -/
structure Event where
  level : Level
  /-- The operation that reports. -/
  symbol : String
  /-- What happened. -/
  event : String
  /-- How it went. -/
  outcome : String
  ptr : Option UInt64 := none
  size : Option UInt64 := none
  alignment : Option UInt64 := none
deriving DecidableEq, Repr

/-- A reported event with its decision id. -/
structure Record extends Event where
  decisionId : UInt64
deriving DecidableEq, Repr

/-- The hexadecimal digits of a word, sixteen of them. -/
def hexWord (w : UInt64) : String :=
  String.ofList <| (List.range 16).map fun i =>
    Nat.digitChar ((w >>> (60 - 4 * UInt64.ofNat i)) % 16).toNat

/-- The correlation id of a record: symbol and decision id. -/
def Record.traceId (r : Record) : String :=
  "heapwrap::" ++ r.symbol ++ "::" ++ hexWord r.decisionId

/-- The number of records that the ring retains. -/
def capacity : Nat := 256

end Lifecycle

open Lifecycle in
/-- The ring of records. -/
structure LifecycleLog where
  slots : Vector (Option Record) capacity := Vector.replicate capacity none
  /-- The slot that the next record goes to. -/
  head : Fin capacity := ⟨0, by decide⟩
  /-- The number of records retained. -/
  size : Nat := 0
  nextId : UInt64 := 1
  /-- Records overwritten before they were drained. -/
  dropped : Nat := 0
  /-- Whether the ring is held across a fork. -/
  frozen : Bool := false

namespace LifecycleLog

open Lifecycle

/-- Appends an event. The caller sees to it that the log is not frozen. -/
def record (log : LifecycleLog) (e : Event) : UInt64 × LifecycleLog :=
  (log.nextId,
    { log with
      slots := log.slots.set log.head (some { e with decisionId := log.nextId }) log.head.isLt
      head := ⟨(log.head + 1) % capacity, Nat.mod_lt _ (by decide)⟩
      nextId := log.nextId + 1
      size := if log.size = capacity then log.size else log.size + 1
      dropped := if log.size = capacity then log.dropped + 1 else log.dropped })

/-- Appends an event, unless the log is frozen. -/
def tryRecord (log : LifecycleLog) (e : Event) : Option UInt64 × LifecycleLog :=
  if log.frozen then (none, log)
  else
    let (id, log) := log.record e
    (some id, log)

/-- The slot of the `i`-th retained record, counted from the oldest. -/
def slotOf (log : LifecycleLog) (i : Nat) : Fin capacity :=
  ⟨(log.head + capacity - log.size + i) % capacity, Nat.mod_lt _ (by decide)⟩

/-- The retained records, oldest first. -/
def snapshot (log : LifecycleLog) : List Record :=
  (List.range log.size).filterMap fun i => log.slots.get (log.slotOf i)

/-- Removes the retained records and returns them, oldest first. -/
def drain (log : LifecycleLog) : List Record × LifecycleLog :=
  (log.snapshot, { log with slots := Vector.replicate capacity none, size := 0 })

end LifecycleLog

end MallocLayer
