import MallocLayer.Word

/-!
# The side table of aligned blocks

An over-allocated aligned block is handed out at an address inside a larger
block. For primitives that only know block starts, this table maps the aligned
address back to the start of its block, its origin.

The table has a fixed number of slots and never allocates: open addressing
with linear probing, and tombstones for released entries. A slot's first word
says what the slot is: zero for a slot never used, the largest word for a
tombstone, and otherwise the aligned address it is bound to.
-/

namespace MallocLayer

namespace OriginTable

/-- The number of slots. -/
def capacity : Nat := 1024

/-- The first word of a slot that was never used. -/
def vacant : UInt64 := 0

/-- The first word of a slot whose entry was taken. -/
def tombstone : UInt64 := Word.top

/-- A slot. -/
structure Slot where
  aligned : UInt64 := vacant
  origin : UInt64 := 0
deriving DecidableEq, Repr

end OriginTable

open OriginTable in
/-- The table: its slots, the number of bound addresses, and whether it is
frozen across a fork. -/
structure OriginTable where
  slots : Vector Slot capacity := Vector.replicate capacity {}
  live : Nat := 0
  frozen : Bool := false

namespace OriginTable

/-- The slot where probing for an address starts. Aligned addresses end in many
zero bits, so the middle bits of a product are taken. -/
def home (aligned : Addr) : Nat :=
  ((aligned * 0x9E3779B97F4A7C15) >>> 32).toNat % capacity

/-- The slot reached after `step` steps from the home slot. -/
def probe (aligned : Addr) (step : Nat) : Fin capacity :=
  ⟨(home aligned + step) % capacity, Nat.mod_lt _ (by decide)⟩

/-- Looks for the address in the last `left` slots of its probe sequence. -/
def findFrom (t : OriginTable) (aligned : Addr) : (left : Nat) → Option (Fin capacity)
  | 0 => none
  | left + 1 =>
    let i := probe aligned (capacity - (left + 1))
    if (t.slots.get i).aligned = vacant then none
    else if (t.slots.get i).aligned = aligned then some i
    else t.findFrom aligned left

/-- The slot bound to the address. -/
def find (t : OriginTable) (aligned : Addr) : Option (Fin capacity) :=
  t.findFrom aligned capacity

/-- Where an entry for the address goes. -/
inductive Place where
  /-- The slot already holds the address. -/
  | bound (i : Fin capacity)
  /-- The slot is free: a tombstone, or vacant. -/
  | free (i : Fin capacity)
  /-- Every slot holds some other address. -/
  | full
deriving DecidableEq, Repr

/-- Looks for a place in the last `left` slots of the probe sequence, where
`spare` is the first tombstone passed. -/
def placeFrom (t : OriginTable) (aligned : Addr) (spare : Option (Fin capacity)) :
    (left : Nat) → Place
  | 0 => spare.elim .full .free
  | left + 1 =>
    let i := probe aligned (capacity - (left + 1))
    if (t.slots.get i).aligned = vacant then .free (spare.getD i)
    else if (t.slots.get i).aligned = tombstone then t.placeFrom aligned (spare.or (some i)) left
    else if (t.slots.get i).aligned = aligned then .bound i
    else t.placeFrom aligned spare left

/-- Binds an aligned address to the start of its block. A full table refuses,
also an address that it holds already. -/
def insert (t : OriginTable) (aligned origin : Addr) : Bool × OriginTable :=
  if t.live = capacity then (false, t)
  else match t.placeFrom aligned none capacity with
    | .bound i => (true, { t with slots := t.slots.set i ⟨aligned, origin⟩ i.isLt })
    | .free i => (true, { t with slots := t.slots.set i ⟨aligned, origin⟩ i.isLt, live := t.live + 1 })
    | .full => (false, t)

/-- The start of the block that the aligned address lies in, if the address is
bound. -/
def originOf (t : OriginTable) (aligned : Addr) : Option Addr :=
  if aligned = vacant ∨ t.live = 0 then none
  else (t.find aligned).map fun i => (t.slots.get i).origin

/-- Removes the entry of an address and returns its origin. -/
def take (t : OriginTable) (aligned : Addr) : Option Addr × OriginTable :=
  if aligned = vacant ∨ t.live = 0 then (none, t)
  else match t.find aligned with
    | none => (none, t)
    | some i =>
      (some (t.slots.get i).origin,
        { t with slots := t.slots.set i ⟨tombstone, 0⟩ i.isLt, live := t.live - 1 })

/-- The number of bound addresses. -/
def size (t : OriginTable) : Nat := t.live

def isEmpty (t : OriginTable) : Bool := t.size == 0

end OriginTable

end MallocLayer
