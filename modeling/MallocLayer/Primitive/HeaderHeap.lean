import MallocLayer.Primitive

/-!
# The header heap

The reference primitive. It takes regions from a system allocator and puts a
header of 16 bytes in front of each block, whose first word holds the
capacity. A block is found by its start only, so interior addresses are not
accepted.

The system allocator is a parameter: the header heap is a primitive over any
allocator of regions. `RegionSource` is the simplest one.
-/

namespace MallocLayer

/-- The size and alignment of a region. -/
structure Layout where
  size : UInt64
  alignment : UInt64
deriving DecidableEq, Repr

namespace Layout

/-- A layout is representable when its size, rounded up to the alignment, is at
most the largest signed word. -/
def ofSize? (size alignment : UInt64) : Option Layout :=
  match Word.nextMultiple? size alignment with
  | some rounded => if rounded ≤ 0x7fffffffffffffff then some ⟨size, alignment⟩ else none
  | none => none

end Layout

/-- An allocator of raw regions, with states in `α`. -/
class SystemAllocator (α : Type) where
  alloc : Heap α → Layout → Option Addr × Heap α
  dealloc : Heap α → Addr → Layout → Heap α

/-- The header heap over a system allocator with states in `α`. Its counters are words, and wrap. -/
structure HeaderHeap (α : Type) where
  system : α
  locked : Bool := false
  /-- Successful allocations so far. -/
  allocations : UInt64 := 0
  deallocations : UInt64 := 0

namespace HeaderHeap

variable {α : Type}

/-- The bytes in front of a block. -/
def headerSize : UInt64 := 16

/-- Blocks allocated and not yet released. -/
def live (s : HeaderHeap α) : UInt64 := Word.subSaturating s.allocations s.deallocations

/-- The capacity of a block of the given size: the least positive multiple of
16. -/
def capacity? (size : UInt64) : Option UInt64 := Word.nextMultiple? (max size 1) 16

/-- The layout of a region that holds a header and the given capacity. -/
def layout? (capacity : UInt64) : Option Layout :=
  (Word.add? capacity headerSize).bind (Layout.ofSize? · 16)

/-- The heap of the system allocator below. -/
def systemHeap (h : Heap (HeaderHeap α)) : Heap α := ⟨h.state.system, h.memory⟩

def allocate [SystemAllocator α] (h : Heap (HeaderHeap α)) (size : UInt64) :
    Option Addr × Heap (HeaderHeap α) :=
  match capacity? size with
  | none => (none, h)
  | some capacity =>
    match layout? capacity with
    | none => (none, h)
    | some layout =>
      match SystemAllocator.alloc (systemHeap h) layout with
      | (none, below) => (none, ⟨{ h.state with system := below.state }, below.memory⟩)
      | (some start, below) =>
        (some (start + headerSize),
          ⟨{ h.state with system := below.state, allocations := h.state.allocations + 1 },
            below.memory.writeWord start capacity⟩)

/-- The capacity in the header in front of a block. -/
def capacityOf (m : Memory) (ptr : Addr) : UInt64 := m.readWord (ptr - headerSize)

def deallocate [SystemAllocator α] (h : Heap (HeaderHeap α)) (ptr : Addr) :
    Heap (HeaderHeap α) :=
  match layout? (capacityOf h.memory ptr) with
  | none => h
  | some layout =>
    let below := SystemAllocator.dealloc (systemHeap h) (ptr - headerSize) layout
    ⟨{ h.state with system := below.state, deallocations := h.state.deallocations + 1 },
      below.memory⟩

instance [SystemAllocator α] : Primitive (HeaderHeap α) where
  allocate := allocate
  deallocate := deallocate
  usableSize h ptr := (capacityOf h.memory ptr, h)
  lock h := { h with state := { h.state with locked := true } }
  unlock h := { h with state := { h.state with locked := false } }
  acceptsInterior _ := false

end HeaderHeap

/-- A system allocator that cuts each region off the front of what is left and
never recycles one. -/
structure RegionSource where
  /-- The first address that no region has used. -/
  next : Nat := 0x100000
deriving Repr

namespace RegionSource

/-- The end of the address range that regions are cut from. -/
def limit : Nat := 0x400000000000

def alloc (h : Heap RegionSource) (layout : Layout) : Option Addr × Heap RegionSource :=
  let step := layout.alignment.toNat
  let start := (h.state.next + step - 1) / step * step
  let stop := start + layout.size.toNat
  if limit < stop then (none, h)
  else (some (UInt64.ofNat start), { h with state := ⟨stop⟩ })

instance : SystemAllocator RegionSource where
  alloc := alloc
  dealloc h _ _ := h

end RegionSource

end MallocLayer
