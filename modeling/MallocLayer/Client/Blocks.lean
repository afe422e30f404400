import MallocLayer.Align
import MallocLayer.Client.Registers
import MallocLayer.Primitive.HeaderHeap

/-!
# Blocks of the header heap

A client that uses the header heap without a layer on it. Every request on a
block names its register. While the heap is locked, allocation and release wait.
-/

namespace MallocLayer.Client

/-- A request to a header heap. -/
inductive BlockCall where
  /-- The new block replaces the one in the register, which is released. -/
  | allocate (size : UInt64) (ptr : Register)
  | deallocate (ptr : Register)
  | usable (ptr : Register)
  | lock
  | unlock
  | interior
deriving Repr

/-- The answer to a request. -/
inductive BlockAnswer where
  | nothing
  | block (usable : UInt64) (isAligned : Bool)
  | released
  | number (n : UInt64)
  | flag (b : Bool)
  | wouldBlock
deriving DecidableEq, Repr

/-- A header heap with its client. -/
structure BlockSession (α : Type) where
  heap : Heap (HeaderHeap α)
  registers : Registers := {}

namespace BlockSession

variable {α : Type} [SystemAllocator α]

/-- Releases the block of a register. -/
def release (s : BlockSession α) (ptr : Register) : BlockSession α :=
  match s.registers.read (some ptr) with
  | none => s
  | some block =>
    { heap := Primitive.deallocate s.heap block, registers := s.registers.clear (some ptr) }

def allocate (s : BlockSession α) (size : UInt64) (ptr : Register) :
    BlockAnswer × BlockSession α :=
  match Primitive.allocate s.heap size with
  | (none, heap) => (.nothing, { s with heap })
  | (some block, heap) =>
    let s := { s with heap }.release ptr
    let (usable, heap) := Primitive.usableSize s.heap block
    (.block usable (block % naturalAlignment == 0),
      { heap, registers := s.registers.write (some ptr) (some block) })

/-- Runs a request, if it need not wait. -/
def request (s : BlockSession α) : BlockCall → BlockAnswer × BlockSession α
  | .allocate size ptr =>
    if s.heap.state.locked then (.wouldBlock, s) else s.allocate size ptr
  | .deallocate ptr =>
    if s.heap.state.locked then (.wouldBlock, s)
    else (if (s.registers.read (some ptr)).isSome then .released else .nothing, s.release ptr)
  | .usable ptr =>
    match s.registers.read (some ptr) with
    | none => (.nothing, s)
    | some block =>
      let (usable, heap) := Primitive.usableSize s.heap block
      (.number usable, { s with heap })
  | .lock => (.nothing, { s with heap := Primitive.lock s.heap })
  | .unlock => (.nothing, { s with heap := Primitive.unlock s.heap })
  | .interior => (.flag (Primitive.acceptsInterior s.heap.state), s)

end BlockSession

end MallocLayer.Client
