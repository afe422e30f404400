import MallocLayer.Layer

/-!
# Fork coordination

Before the address space is duplicated, a coordinator takes the side table,
the log and the lock of the primitive, so that no process inherits them halfway
through a change. Each process then releases them once through its own resume
hook. A resume without a prepare releases nothing and is counted.
-/

namespace MallocLayer.Fork

/-- Where a coordinator is in the protocol. -/
inductive Phase where
  | idle
  | prepared
deriving DecidableEq, Repr

namespace Phase

def label : Phase → String
  | .idle => "Idle"
  | .prepared => "Prepared"

end Phase

/-- The process in which a resume hook runs. -/
inductive Side where
  | parent
  | child
deriving DecidableEq, Repr

namespace Side

/-- The symbol of the hook in lifecycle records. -/
def symbol : Side → String
  | .parent => "fork_parent"
  | .child => "fork_child"

end Side

/-- A fork coordinator. Its counters are words, and wrap. -/
structure Coordinator where
  phase : Phase := .idle
  prepares : UInt64 := 0
  parentResumes : UInt64 := 0
  childResumes : UInt64 := 0
  unmatchedResumes : UInt64 := 0
deriving DecidableEq, Repr

namespace Coordinator

variable {σ : Type} [Primitive σ]

/-- Runs before duplication. The record comes first, while the log can still be
written; on a log that is frozen already the hook waits, which is `none`. -/
def prepare (c : Coordinator) (s : Layer σ) : Option (Coordinator × Layer σ) :=
  if s.log.frozen then none
  else
    let s := s.record
      { level := .info, symbol := "fork_prepare", event := "fork_lock", outcome := "locking" }
    some ({ c with phase := .prepared, prepares := c.prepares + 1 }, s.freeze.lockPrimitive)

/-- Counts a resume on one side. -/
def countResume (c : Coordinator) : Side → Coordinator
  | .parent => { c with parentResumes := c.parentResumes + 1 }
  | .child => { c with childResumes := c.childResumes + 1 }

/-- Runs after duplication, on either side. -/
def resume (c : Coordinator) (side : Side) (s : Layer σ) : Coordinator × Layer σ :=
  match c.phase with
  | .idle =>
    ({ c with unmatchedResumes := c.unmatchedResumes + 1 },
      s.tryRecord
        { level := .error, symbol := side.symbol, event := "fork_resume_without_prepare",
          outcome := "skipped" })
  | .prepared =>
    ({ c with phase := .idle }.countResume side,
      s.unlockPrimitive.thaw.tryRecord
        { level := .info, symbol := side.symbol, event := "fork_unlock", outcome := "success" })

end Coordinator

end MallocLayer.Fork
