import MallocLayer.Align
import MallocLayer.Config
import MallocLayer.Lifecycle
import MallocLayer.OriginTable
import MallocLayer.Primitive

/-!
# The derived layer

The malloc family, expressed through the five operations of a primitive. The
layer owns no heap of its own. Its state is the heap of the primitive, the
side table of aligned blocks, the lifecycle log and the configuration; the page
size is that of the platform.

This module holds the state and the operations that need no policy: malloc,
calloc, strdup, free and the sizes. `Layer.Realloc` and `Layer.Aligned` hold
the two policies.
-/

namespace MallocLayer

/-- The derived layer over a primitive with states in `σ`. -/
structure Layer (σ : Type) where
  heap : Heap σ
  page : PageSize
  origins : OriginTable := {}
  log : LifecycleLog := {}
  config : Config := {}

/-- The bytes of a C string, without the terminator. -/
structure CString where
  bytes : List UInt8
  no_zero : 0 ∉ bytes

namespace CString

/-- The C string that starts a sequence of bytes: it ends at the first zero. -/
def ofBytes (bytes : List UInt8) : CString where
  bytes := bytes.takeWhile (· != 0)
  no_zero h := by
    simpa using List.all_eq_true.1 (List.all_takeWhile (p := (· != 0)) (l := bytes)) 0 h

/-- The bytes in memory, terminator included. -/
def stored (s : CString) : Array UInt8 := s.bytes.toArray.push 0

end CString

namespace Layer

variable {σ : Type}

/-- A new layer over a heap. -/
def ofHeap (heap : Heap σ) (page : PageSize) (config : Config := {}) : Layer σ :=
  { heap, page, config }

/-- The number of aligned blocks in the side table. -/
def trackedAlignedBlocks (s : Layer σ) : Nat := s.origins.size

/-- Records an event, whether or not tracing is on. -/
def record (s : Layer σ) (e : Lifecycle.Event) : Layer σ :=
  { s with log := (s.log.record e).2 }

/-- Records an event, unless the log is frozen. -/
def tryRecord (s : Layer σ) (e : Lifecycle.Event) : Layer σ :=
  { s with log := (s.log.tryRecord e).2 }

/-- Records an event when tracing is on. -/
def trace (s : Layer σ) (e : Lifecycle.Event) : Layer σ :=
  if s.config.trace then s.record e else s

/-- Holds the side table and the log, until `thaw`. -/
def freeze (s : Layer σ) : Layer σ :=
  { s with origins := { s.origins with frozen := true }, log := { s.log with frozen := true } }

/-- Releases the side table and the log again. -/
def thaw (s : Layer σ) : Layer σ :=
  { s with origins := { s.origins with frozen := false }, log := { s.log with frozen := false } }

/-- Changes memory only. -/
def mapMemory (s : Layer σ) (f : Memory → Memory) : Layer σ :=
  { s with heap := s.heap.mapMemory f }

variable [Primitive σ]

/-- Locks the primitive. -/
def lockPrimitive (s : Layer σ) : Layer σ := { s with heap := Primitive.lock s.heap }

/-- Unlocks the primitive. -/
def unlockPrimitive (s : Layer σ) : Layer σ := { s with heap := Primitive.unlock s.heap }

/-- Hands a block back to the primitive. -/
def deallocate (s : Layer σ) (block : Addr) : Layer σ :=
  { s with heap := Primitive.deallocate s.heap block }

/-- Whether the primitive takes addresses inside a block. -/
def acceptsInterior (s : Layer σ) : Bool := Primitive.acceptsInterior s.heap.state

/-- Allocates `size` bytes from the primitive. -/
def malloc (s : Layer σ) (size : UInt64) : Except AllocError Addr × Layer σ :=
  match Primitive.allocate s.heap size with
  | (some block, heap) => (.ok block, { s with heap })
  | (none, heap) => (.error (.outOfMemory size), { s with heap })

/-- Releases a block. Null is ignored. -/
def free (s : Layer σ) : Option Addr → Layer σ
  | none => s
  | some ptr =>
    let (origin, origins) := s.origins.take ptr
    { s with origins }.deallocate (origin.getD ptr)

/-- The old name of `free` for blocks of `valloc`. -/
def vfree (s : Layer σ) (ptr : Option Addr) : Layer σ := s.free ptr

/-- The bytes usable from the pointer on. Null has none. -/
def usableSize (s : Layer σ) : Option Addr → UInt64 × Layer σ
  | none => (0, s)
  | some ptr =>
    let block := (s.origins.originOf ptr).getD ptr
    let (capacity, heap) := Primitive.usableSize s.heap block
    (Word.subSaturating capacity (ptr - block), { s with heap })

/-- The capacity that the primitive would reserve for `size`, found by a probe
that is released at once. If the probe fails, `size` itself. -/
def goodSize (s : Layer σ) (size : UInt64) : UInt64 × Layer σ :=
  match s.malloc size with
  | (.error _, s) => (size, s)
  | (.ok probe, s) =>
    let (usable, heap) := Primitive.usableSize s.heap probe
    (usable, { s with heap }.deallocate probe)

/-- Allocates `count * size` bytes of zeros. The product is checked before the
primitive is asked. -/
def calloc (s : Layer σ) (count size : UInt64) : Except AllocError Addr × Layer σ :=
  match Word.mul? count size with
  | none =>
    let err := AllocError.overflow count size
    (.error err, s.trace
      { level := .warn, symbol := "calloc", event := "calloc_overflow", outcome := err.outcome })
  | some total =>
    match s.malloc total with
    | (.error err, s) => (.error err, s)
    | (.ok block, s) => (.ok block, s.mapMemory (·.fill block total 0))

/-- Copies a C string, terminator included, into a fresh block. -/
def strdup (s : Layer σ) (text : CString) : Except AllocError Addr × Layer σ :=
  match s.malloc (UInt64.ofNat text.stored.size) with
  | (.error err, s) => (.error err, s)
  | (.ok block, s) => (.ok block, s.mapMemory (·.write block text.stored))

end Layer

end MallocLayer
