import MallocLayer.Memory

/-!
# The primitive allocator

The layer is built on five operations: allocate, deallocate, usable size, lock
and unlock. Everything about the primitive that is not in this interface is
its own business: where blocks lie, how they are recycled, what fresh memory
holds. It works on a heap, that is, on its own state together with memory.
-/

namespace MallocLayer

/-- The state of a primitive together with memory. -/
structure Heap (σ : Type) where
  state : σ
  memory : Memory

namespace Heap

/-- Changes memory and keeps the state of the primitive. -/
def mapMemory {σ : Type} (h : Heap σ) (f : Memory → Memory) : Heap σ :=
  { h with memory := f h.memory }

end Heap

/-- The five operations of a primitive with states in `σ`. -/
class Primitive (σ : Type) where
  /-- A block of at least the given size, or `none`. -/
  allocate : Heap σ → UInt64 → Option Addr × Heap σ
  /-- Releases the block that the address belongs to. -/
  deallocate : Heap σ → Addr → Heap σ
  /-- The capacity behind the address, measured from the address. -/
  usableSize : Heap σ → Addr → UInt64 × Heap σ
  lock : Heap σ → Heap σ
  unlock : Heap σ → Heap σ
  /-- Whether `deallocate` and `usableSize` take addresses strictly inside a
  block. -/
  acceptsInterior : σ → Bool

/-- One call of a primitive operation, with its answer. -/
inductive PrimitiveCall where
  | allocate (size : UInt64) (block : Option Addr)
  | deallocate (ptr : Addr)
  | usableSize (ptr : Addr) (size : UInt64)
  | lock
  | unlock
deriving DecidableEq, Repr

/-- A primitive together with the calls made to it, oldest first. -/
structure Recorded (σ : Type) where
  inner : σ
  calls : Array PrimitiveCall

namespace Recorded

variable {σ : Type}

/-- A primitive with no calls recorded yet. -/
def ofState (s : σ) : Recorded σ := ⟨s, #[]⟩

/-- The heap of the recorded primitive itself. -/
def innerHeap (h : Heap (Recorded σ)) : Heap σ := ⟨h.state.inner, h.memory⟩

/-- The heap after a call that left the recorded primitive at `inner`. -/
def after (h : Heap (Recorded σ)) (inner : Heap σ) (call : PrimitiveCall) : Heap (Recorded σ) :=
  ⟨⟨inner.state, h.state.calls.push call⟩, inner.memory⟩

/-- Recording changes no answer. -/
instance [Primitive σ] : Primitive (Recorded σ) where
  allocate h size :=
    let (block, inner) := Primitive.allocate (innerHeap h) size
    (block, after h inner (.allocate size block))
  deallocate h ptr := after h (Primitive.deallocate (innerHeap h) ptr) (.deallocate ptr)
  usableSize h ptr :=
    let (size, inner) := Primitive.usableSize (innerHeap h) ptr
    (size, after h inner (.usableSize ptr size))
  lock h := after h (Primitive.lock (innerHeap h)) .lock
  unlock h := after h (Primitive.unlock (innerHeap h)) .unlock
  acceptsInterior s := Primitive.acceptsInterior s.inner

end Recorded

end MallocLayer
