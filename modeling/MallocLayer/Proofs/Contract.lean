import MallocLayer.Primitive
import Mathlib.Data.Set.Insert

/-!
# The contract of a primitive

What the layer relies on when it calls a primitive. A primitive has a set of
live blocks. Allocation fails, or adds a block that overlaps no live one;
release removes the block that the pointer names; the usable size is what the
block has left behind the pointer. Any of these may change memory as it
pleases, the whole of a fresh block included, but the bytes of a block that is
live before and after stay as they are. Writes into live blocks do not disturb
the primitive.

A pointer names a block if it is the start of the block, and also if it lies
inside when the primitive accepts such pointers.
-/

namespace MallocLayer.Primitive

/-- A range of addresses that a primitive hands out. -/
structure Block where
  start : Addr
  capacity : UInt64
deriving DecidableEq, Repr

namespace Block

/-- The address lies in the block. -/
def Holds (b : Block) (x : Addr) : Prop :=
  b.start.toNat ≤ x.toNat ∧ x.toNat < b.start.toNat + b.capacity.toNat

instance (b : Block) (x : Addr) : Decidable (b.Holds x) := inferInstanceAs (Decidable (_ ∧ _))

/-- The range of `size` bytes from `a` on lies in the block. -/
def Covers (b : Block) (a size : UInt64) : Prop := ∀ x, x - a < size → b.Holds x

/-- A store into a block reaches no address outside. -/
theorem Covers.read_store_outside {b : Block} {a size x : UInt64} (covers : b.Covers a size)
    (outside : ¬ b.Holds x) {m : Memory} {f : UInt64 → UInt8} :
    (m.store a size f).read x = m.read x := by
  rw [Memory.read_store, if_neg]
  exact fun less => outside (covers x less)

/-- The number of bytes from an address to the end of the block. -/
def room (b : Block) (x : Addr) : Nat := b.start.toNat + b.capacity.toNat - x.toNat

/-- The pointer names the block. -/
def Named (interior : Bool) (b : Block) (p : Addr) : Prop :=
  p = b.start ∨ interior = true ∧ b.Holds p

instance (interior : Bool) (b : Block) (p : Addr) : Decidable (b.Named interior p) :=
  inferInstanceAs (Decidable (_ ∨ _))

/-- What every block of a primitive is like. -/
structure Proper (b : Block) : Prop where
  start_pos : 0 < b.start.toNat
  aligned : 16 ∣ b.start.toNat
  capacity_pos : 0 < b.capacity.toNat
  inside : b.start.toNat + b.capacity.toNat ≤ UInt64.size

namespace Proper

variable {b : Block} {p : Addr}

theorem holds_start (proper : b.Proper) : b.Holds b.start :=
  ⟨Nat.le_refl _, Nat.lt_add_of_pos_right proper.capacity_pos⟩

theorem holds_of_named (proper : b.Proper) {interior : Bool} (named : b.Named interior p) :
    b.Holds p := by
  rcases named with rfl | ⟨_, holds⟩
  · exact proper.holds_start
  · exact holds

theorem room_lt (proper : b.Proper) (holds : b.Holds p) : b.room p < UInt64.size := by
  have := proper.start_pos
  have := proper.inside
  have := holds.1
  unfold room
  omega

/-- No block is as large as the largest word says, since none starts below 16. -/
theorem room_lt_top (proper : b.Proper) (holds : b.Holds p) : b.room p < Word.top.toNat := by
  have := proper.start_pos
  have := proper.aligned
  have := proper.inside
  have := holds.1
  have largest : Word.top.toNat = UInt64.size - 1 := rfl
  unfold room
  omega

/-- Addresses counted from a pointer into the block do not wrap around. -/
theorem toNat_add (proper : b.Proper) (holds : b.Holds p) {i : Nat} (less : i < b.room p) :
    (p + UInt64.ofNat i).toNat = p.toNat + i := by
  have := proper.inside
  have := holds.1
  unfold room at less
  simp only [UInt64.size] at *
  rw [UInt64.toNat_add, UInt64.toNat_ofNat']
  omega

theorem holds_add (proper : b.Proper) (holds : b.Holds p) {i : Nat} (less : i < b.room p) :
    b.Holds (p + UInt64.ofNat i) := by
  have := holds.1
  unfold Holds
  rw [proper.toNat_add holds less]
  unfold room at less
  omega

/-- A range that starts behind a pointer into the block, and fits what is left
there, lies in the block. -/
theorem covers_add (proper : b.Proper) (holds : b.Holds p) {offset : Nat} {size : UInt64}
    (fits : offset + size.toNat ≤ b.room p) : b.Covers (p + UInt64.ofNat offset) size := by
  intro x less
  have position : x = p + UInt64.ofNat (offset + (x - (p + UInt64.ofNat offset)).toNat) := by
    rw [UInt64.ofNat_add, UInt64.ofNat_toNat, ← UInt64.add_assoc, UInt64.add_comm _ (x - _),
      UInt64.sub_add_cancel]
  have := UInt64.lt_iff_toNat_lt.1 less
  rw [position]
  exact proper.holds_add holds (by omega)

theorem covers (proper : b.Proper) (holds : b.Holds p) {size : UInt64}
    (fits : size.toNat ≤ b.room p) : b.Covers p size := by
  have within : 0 + size.toNat ≤ b.room p := by omega
  have covers := proper.covers_add holds within
  rwa [show p + UInt64.ofNat 0 = p from UInt64.add_zero p] at covers

end Proper

end Block

/-- How a heap is looked at: which heaps the primitive can be in, and which
blocks are live. -/
structure View (σ : Type) where
  Valid : Heap σ → Prop
  live : Heap σ → Set Block

/-- A heap in which exactly the given blocks are live, with the bytes of those
that were live before. -/
structure View.Leads {σ : Type} (v : View σ) (h : Heap σ) (blocks : Set Block) (h' : Heap σ) :
    Prop where
  valid : v.Valid h'
  live_eq : v.live h' = blocks
  bytes : ∀ b ∈ v.live h, b ∈ blocks → ∀ x, b.Holds x → h'.memory.read x = h.memory.read x

/-- The contract of a primitive. -/
structure Contract (σ : Type) [Primitive σ] extends View σ where
  /-- Whether addresses strictly inside a block name it. -/
  interior : Bool
  acceptsInterior_eq : ∀ {h}, Valid h → acceptsInterior h.state = interior
  proper : ∀ {h}, Valid h → ∀ b ∈ live h, b.Proper
  apart : ∀ {h}, Valid h → ∀ b ∈ live h, ∀ c ∈ live h, ∀ x, b.Holds x → c.Holds x → b = c
  refused : ∀ {h size h'}, Valid h → allocate h size = (none, h') → toView.Leads h (live h) h'
  granted : ∀ {h size p h'}, Valid h → allocate h size = (some p, h') →
    ∃ b, b.start = p ∧ max size.toNat 1 ≤ b.capacity.toNat ∧ b ∉ live h ∧
      toView.Leads h (insert b (live h)) h'
  released : ∀ {h b p}, Valid h → b ∈ live h → b.Named interior p →
    toView.Leads h (live h \ {b}) (deallocate h p)
  measured : ∀ {h b p}, Valid h → b ∈ live h → b.Named interior p →
    (usableSize h p).1.toNat = b.room p ∧ toView.Leads h (live h) (usableSize h p).2
  /-- The client may write into live blocks. -/
  written : ∀ {h m}, Valid h →
    (∀ x, (∀ b ∈ live h, ¬ b.Holds x) → m.read x = h.memory.read x) →
    Valid ⟨h.state, m⟩ ∧ live ⟨h.state, m⟩ = live h

end MallocLayer.Primitive
