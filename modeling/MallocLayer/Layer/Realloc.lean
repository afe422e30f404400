import MallocLayer.Layer

/-!
# Reallocation

A block stays where it is as long as the new size is within its capacity and
above half of it. A block that grows gets at least a quarter more than its
capacity, so a block grown byte by byte moves a logarithmic number of times. A
block that shrinks to half or less moves to a block of the exact size.

Size zero releases the block; what is returned is a matter of configuration.
-/

namespace MallocLayer

/-- The result of a reallocation. -/
inductive Reallocated where
  /-- The block is where it was. -/
  | inPlace (ptr : Addr)
  /-- The contents are in a new block and the old one is released. -/
  | moved (ptr : Addr)
  /-- The block is released and nothing replaces it. -/
  | released
deriving DecidableEq, Repr

namespace Reallocated

/-- The pointer that a C caller sees. -/
def pointer : Reallocated → Option Addr
  | .inPlace ptr | .moved ptr => some ptr
  | .released => none

end Reallocated

/-- What happens to the block when no new one can be had. -/
inductive OnFailure where
  /-- The caller keeps it: `realloc`. -/
  | keepBlock
  /-- It is released: `reallocf`. -/
  | releaseBlock
deriving DecidableEq, Repr

namespace Layer

variable {σ : Type} [Primitive σ]

/-- The size asked of the primitive when a block of capacity `old` moves. -/
def moveTarget (old size : UInt64) : UInt64 :=
  if old < size then max size (Word.addSaturating old (old / 4)) else size

/-- Reallocation to size zero. -/
def reallocZero (s : Layer σ) (ptr : Addr) : Except AllocError Reallocated × Layer σ :=
  let s := s.free (some ptr)
  let s := s.trace
    { level := .trace, symbol := "realloc", event := "realloc_zero_size", outcome := "released",
      ptr := some ptr }
  match s.config.zeroSize with
  | .returnNull => (.ok .released, s)
  | .minimalObject =>
    match s.malloc 1 with
    | (.ok block, s) => (.ok (.moved block), s)
    | (.error err, s) => (.error err, s)

/-- Moves a block of capacity `old` to a new one that suits `size`. -/
def reallocMove (s : Layer σ) (ptr : Addr) (old size : UInt64) (onFailure : OnFailure) :
    Except AllocError Reallocated × Layer σ :=
  let target := moveTarget old size
  match s.malloc target with
  | (.error err, s) =>
    let s := if onFailure = .releaseBlock then s.free (some ptr) else s
    (.error err, s.trace
      { level := .warn, symbol := "realloc", event := "realloc_failed", outcome := err.outcome,
        ptr := some ptr, size := some target })
  | (.ok fresh, s) =>
    let s := s.mapMemory (·.copy fresh ptr (min old size))
    let s := s.free (some ptr)
    (.ok (.moved fresh), s.trace
      { level := .trace, symbol := "realloc", event := "realloc_moved", outcome := "success",
        ptr := some fresh, size := some target })

/-- Reallocates with an explicit failure convention. Null is allocated anew. -/
def reallocWith (s : Layer σ) (ptr : Option Addr) (size : UInt64) (onFailure : OnFailure) :
    Except AllocError Reallocated × Layer σ :=
  match ptr with
  | none =>
    match s.malloc size with
    | (.ok block, s) => (.ok (.moved block), s)
    | (.error err, s) => (.error err, s)
  | some ptr =>
    if size = 0 then s.reallocZero ptr
    else
      let (old, s) := s.usableSize (some ptr)
      if old / 2 < size ∧ size ≤ old then
        (.ok (.inPlace ptr), s.trace
          { level := .trace, symbol := "realloc", event := "realloc_in_place",
            outcome := "success", ptr := some ptr, size := some size })
      else s.reallocMove ptr old size onFailure

/-- Reallocates; the block survives a failure to move it. -/
def realloc (s : Layer σ) (ptr : Option Addr) (size : UInt64) :
    Except AllocError Reallocated × Layer σ :=
  s.reallocWith ptr size .keepBlock

/-- Reallocates; the block is released on failure. -/
def reallocf (s : Layer σ) (ptr : Option Addr) (size : UInt64) :
    Except AllocError Reallocated × Layer σ :=
  s.reallocWith ptr size .releaseBlock

end Layer

end MallocLayer
