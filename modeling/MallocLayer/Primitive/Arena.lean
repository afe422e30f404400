import MallocLayer.Primitive

/-!
# The scripted arena

A primitive that hands out blocks from a bump pointer and follows a script:
how blocks are placed, which calls fail, where gaps open, whether a released
block gives its space back. The same script always gives the same addresses.

Offsets are counted from the base of the arena, which is aligned far beyond
any block, so the alignment of an offset is the alignment of its address.
-/

namespace MallocLayer

/-- How the arena places blocks. -/
inductive Placement where
  /-- Capacities are multiples of 16, one block after the other. -/
  | natural
  /-- Capacities are powers of two, aligned to themselves up to a page. -/
  | sizeClass
  /-- As `natural`, but each block starts 16 bytes past a multiple of 128. -/
  | skewed
deriving DecidableEq, Repr

namespace Arena

/-- What the arena will do. -/
structure Script where
  placement : Placement := .natural
  /-- Whether addresses inside a block are accepted. -/
  interior : Bool := true
  /-- The allocate calls that fail, counted from 1. -/
  fail : List Nat := []
  /-- The gap left in front of each allocate call; past the end, none. -/
  gaps : Array Nat := #[]
  /-- The size of the arena. -/
  limit : Nat := 1048576
  /-- The byte written over every fresh block. -/
  poison : Option UInt8 := none
  /-- Whether releasing the topmost block moves the bump pointer back. -/
  rewind : Bool := false
deriving Repr

/-- A live block. -/
structure Block where
  start : Nat
  capacity : Nat
  /-- The bump pointer before the block was placed. -/
  resume : Nat
deriving DecidableEq, Repr

namespace Block

def stop (b : Block) : Nat := b.start + b.capacity

/-- Whether the block answers for the offset. -/
def holds (b : Block) (interior : Bool) (offset : Nat) : Bool :=
  if interior then b.start ≤ offset && offset < b.stop else b.start == offset

end Block

end Arena

/-- An arena: its script, its bump pointer, its live blocks and the counts of
the calls it has seen. -/
structure Arena where
  script : Arena.Script
  bump : Nat := 0
  blocks : List Arena.Block := []
  allocations : Nat := 0
  deallocations : Nat := 0
  locks : Nat := 0
  unlocks : Nat := 0
deriving Repr

namespace Arena

/-- The address of offset zero. -/
def base : Addr := 0x40000000

def address (offset : Nat) : Addr := base + UInt64.ofNat offset

def offset (a : Addr) : Nat := (a - base).toNat

/-- The least multiple of `step` at or above `n`. -/
def roundUp (n step : Nat) : Nat := (n + step - 1) / step * step

/-- Where a block of the given size goes when the bump pointer stands at `b`:
its start and its capacity. -/
def place (placement : Placement) (b size : Nat) : Nat × Nat :=
  match placement with
  | .natural => (roundUp b 16, roundUp (max size 1) 16)
  | .sizeClass =>
    let capacity := Word.leastPowerOfTwo (max size 16)
    (roundUp b (min capacity 4096), capacity)
  | .skewed => (roundUp b 128 + 16, roundUp (max size 1) 16)

/-- The block that the next allocate call would get, if the call is not
scripted to fail and the block ends inside the arena. -/
def nextBlock? (s : Arena) (size : UInt64) : Option Block :=
  if s.script.fail.contains (s.allocations + 1) then none
  else
    let gap := s.script.gaps[s.allocations]?.getD 0
    let (start, capacity) := place s.script.placement (s.bump + gap) size.toNat
    if s.script.limit < start + capacity then none
    else some ⟨start, capacity, s.bump⟩

/-- The live block that the address belongs to. -/
def blockOf? (s : Arena) (ptr : Addr) : Option Block :=
  s.blocks.find? (·.holds s.script.interior (offset ptr))

def allocate (h : Heap Arena) (size : UInt64) : Option Addr × Heap Arena :=
  let counted := { h.state with allocations := h.state.allocations + 1 }
  match h.state.nextBlock? size with
  | none => (none, { h with state := counted })
  | some block =>
    let memory := match h.state.script.poison with
      | some byte => h.memory.fill (address block.start) (UInt64.ofNat block.capacity) byte
      | none => h.memory
    (some (address block.start),
      ⟨{ counted with bump := block.stop, blocks := block :: h.state.blocks }, memory⟩)

def deallocate (h : Heap Arena) (ptr : Addr) : Heap Arena :=
  let s := { h.state with deallocations := h.state.deallocations + 1 }
  match h.state.blockOf? ptr with
  | none => { h with state := s }
  | some block =>
    let bump := if s.script.rewind && s.bump == block.stop then block.resume else s.bump
    { h with state := { s with bump := bump, blocks := s.blocks.erase block } }

def usableSize (s : Arena) (ptr : Addr) : UInt64 :=
  match s.blockOf? ptr with
  | some block => UInt64.ofNat (block.stop - offset ptr)
  | none => 0

instance : Primitive Arena where
  allocate := allocate
  deallocate := deallocate
  usableSize h ptr := (h.state.usableSize ptr, h)
  lock h := { h with state := { h.state with locks := h.state.locks + 1 } }
  unlock h := { h with state := { h.state with unlocks := h.state.unlocks + 1 } }
  acceptsInterior s := s.script.interior

end Arena

end MallocLayer
