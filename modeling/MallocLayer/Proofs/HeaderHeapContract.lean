import MallocLayer.Primitive.HeaderHeap
import MallocLayer.Proofs.Alignment
import MallocLayer.Proofs.ByteRanges
import MallocLayer.Proofs.Contract

/-!
# The header heap keeps the contract

The header heap is a primitive within its contract whenever the system allocator
below is within its own, `SystemContract`: regions that are out do not overlap, and
their bytes are left alone.

To say which regions are out, and which requests were refused, the system allocator
is watched (`Watched`). The live blocks of the header heap are then the regions that
are out, each without the header in front. The header has to survive all that goes
on, and it does: the layer writes into blocks only, and the system allocator leaves
the bytes of a region alone while it is out.
-/

namespace MallocLayer

open Primitive (Block)

/-! ## 1. System allocators -/

/-- How a system allocator is looked at: which regions may be out, that is, were given
and not given back. -/
structure SystemView (α : Type) where
  Lent : Heap α → Set Block → Prop

/-- Now the regions in `after` are out, with the bytes of those that were in `before`. -/
structure SystemView.Leads {α : Type} (v : SystemView α) (h : Heap α) (before after : Set Block)
    (h' : Heap α) : Prop where
  lent : v.Lent h' after
  bytes : ∀ r ∈ before, r ∈ after → ∀ x, r.Holds x → h'.memory.read x = h.memory.read x

/-- The contract of a system allocator, for the alignment that is asked of it. -/
structure SystemContract (α : Type) [SystemAllocator α] extends SystemView α where
  proper : ∀ {h regions}, Lent h regions → ∀ r ∈ regions, r.Proper
  apart : ∀ {h regions}, Lent h regions →
    ∀ r ∈ regions, ∀ q ∈ regions, ∀ x, r.Holds x → q.Holds x → r = q
  refused : ∀ {h regions size h'}, Lent h regions →
    SystemAllocator.alloc h ⟨size, 16⟩ = (none, h') → toSystemView.Leads h regions regions h'
  granted : ∀ {h regions size start h'}, Lent h regions → 0 < size →
    SystemAllocator.alloc h ⟨size, 16⟩ = (some start, h') →
    ⟨start, size⟩ ∉ regions ∧ toSystemView.Leads h regions (insert ⟨start, size⟩ regions) h'
  released : ∀ {h regions r}, Lent h regions → r ∈ regions →
    toSystemView.Leads h regions (regions \ {r})
      (SystemAllocator.dealloc h r.start ⟨r.capacity, 16⟩)
  /-- The client may write into regions that are out. -/
  written : ∀ {h regions m}, Lent h regions →
    (∀ x, (∀ r ∈ regions, ¬ r.Holds x) → m.read x = h.memory.read x) →
    Lent ⟨h.state, m⟩ regions

/-- A word may be written at the start of a new region. -/
theorem SystemContract.write_header {α : Type} [SystemAllocator α] (c : SystemContract α)
    {h h' : Heap α} {regions : Set Block} {r : Block} (new : r ∉ regions)
    (leads : c.Leads h regions (insert r regions) h') (large : 8 ≤ r.capacity.toNat)
    (w : UInt64) :
    c.Leads h regions (insert r regions) ⟨h'.state, h'.memory.writeWord r.start w⟩ := by
  have proper := c.proper leads.lent r (.inl rfl)
  have room : (8 : UInt64).toNat ≤ r.room r.start := by
    rw [Block.room, Nat.add_sub_cancel_left]
    exact large
  have outside {x : Addr} (outside : ¬ r.Holds x) :
      (h'.memory.writeWord r.start w).read x = h'.memory.read x :=
    (proper.covers proper.holds_start room).read_store_outside outside
  constructor
  · exact c.written leads.lent fun x free => outside (free r (.inl rfl))
  · intro q mem still x inside
    refine (outside fun inside' => ?_).trans (leads.bytes q mem still x inside)
    obtain rfl := c.apart leads.lent r (.inl rfl) q still x inside' inside
    exact new mem

/-- A system allocator with the regions that are out and the layouts that it refused,
each from the latest on. -/
structure Watched (α : Type) where
  inner : α
  regions : List Block
  refused : List Layout

namespace Watched

variable {α : Type}

/-- The heap of the system allocator that is watched. -/
def innerHeap (h : Heap (Watched α)) : Heap α := ⟨h.state.inner, h.memory⟩

/-- Watches a system allocator from now on. -/
def ofHeap (h : Heap α) : Heap (Watched α) := ⟨⟨h.state, [], []⟩, h.memory⟩

/-- Watching changes no answer. -/
instance [SystemAllocator α] : SystemAllocator (Watched α) where
  alloc h layout :=
    match SystemAllocator.alloc (innerHeap h) layout with
    | (none, inner) =>
      (none, ⟨⟨inner.state, h.state.regions, layout :: h.state.refused⟩, inner.memory⟩)
    | (some start, inner) =>
      (some start,
        ⟨⟨inner.state, ⟨start, layout.size⟩ :: h.state.regions, h.state.refused⟩, inner.memory⟩)
  dealloc h start layout :=
    let inner := SystemAllocator.dealloc (innerHeap h) start layout
    ⟨⟨inner.state, h.state.regions.erase ⟨start, layout.size⟩, h.state.refused⟩, inner.memory⟩

section Alloc

variable [SystemAllocator α] {h : Heap (Watched α)} {layout : Layout} {start : Addr}
  {inner : Heap α}

theorem alloc_refused (answer : SystemAllocator.alloc (innerHeap h) layout = (none, inner)) :
    SystemAllocator.alloc h layout =
      (none, ⟨⟨inner.state, h.state.regions, layout :: h.state.refused⟩, inner.memory⟩) := by
  show (match SystemAllocator.alloc (innerHeap h) layout with
    | (none, _) => _
    | (some _, _) => _) = _
  rw [answer]

theorem alloc_granted (answer : SystemAllocator.alloc (innerHeap h) layout = (some start, inner)) :
    SystemAllocator.alloc h layout =
      (some start,
        ⟨⟨inner.state, ⟨start, layout.size⟩ :: h.state.regions, h.state.refused⟩,
          inner.memory⟩) := by
  show (match SystemAllocator.alloc (innerHeap h) layout with
    | (none, _) => _
    | (some _, _) => _) = _
  rw [answer]

end Alloc

end Watched

/-! ## 2. Sizes -/

namespace HeaderHeap

variable {size capacity : UInt64} {layout : Layout}

theorem toNat_capacity? (rounded : capacity? size = some capacity) :
    max size.toNat 1 ≤ capacity.toNat ∧ capacity.toNat < max size.toNat 1 + 16 := by
  obtain ⟨-, above, below⟩ := Word.nextMultiple?_eq_some rounded
  rw [UInt64.toNat_max] at above below
  exact ⟨above, below⟩

theorem layout?_eq_some (fits : layout? capacity = some layout) :
    layout.size.toNat = capacity.toNat + 16 ∧ layout = ⟨layout.size, 16⟩ := by
  obtain ⟨total, sum, fits⟩ := Option.bind_eq_some_iff.1 fits
  unfold Layout.ofSize? at fits
  split at fits
  · split at fits
    · cases fits
      exact ⟨(Word.add?_eq_some_iff.1 sum).symm, rfl⟩
    · cases fits
  · cases fits

/-- The layout of the region for a block of the given size and its header. -/
def layoutFor (size : UInt64) : Layout := ⟨UInt64.ofNat (paddedTo 16 size.toNat + 16), 16⟩

theorem capacity_eq_paddedTo (rounded : capacity? size = some capacity) :
    capacity.toNat = paddedTo 16 size.toNat := by
  rw [Word.toNat_nextMultiple? rounded, UInt64.toNat_max]
  rfl

theorem size_le_of_capacity? (overflow : capacity? size = none) :
    UInt64.size ≤ paddedTo 16 size.toNat := by
  have large := Word.nextMultiple?_eq_none (by decide) overflow
  rwa [UInt64.toNat_max] at large

/-- A multiple of 16 is representable up to half of the address space. -/
theorem ofSize?_of_dvd {total : UInt64} (multiple : 16 ∣ total.toNat) :
    Layout.ofSize? total 16 = if total.toNat ≤ 2 ^ 63 - 1 then some ⟨total, 16⟩ else none := by
  have half : (0x7fffffffffffffff : UInt64).toNat = 2 ^ 63 - 1 := rfl
  have even : total % 16 = 0 := UInt64.toNat_inj.1 (Nat.mod_eq_zero_of_dvd multiple)
  have rounded : Word.nextMultiple? total 16 = some total := by
    unfold Word.nextMultiple?
    rw [if_neg (by decide), if_pos even]
  unfold Layout.ofSize?
  simp only [rounded, UInt64.le_iff_toNat_le, half]

/-- A rounded size has a layout unless, with the header, it is larger than half of the
address space. -/
theorem layout?_of_capacity? (rounded : capacity? size = some capacity) :
    layout? capacity =
      if paddedTo 16 size.toNat + 16 ≤ 2 ^ 63 - 1 then some (layoutFor size) else none := by
  have multiple : 16 ∣ capacity.toNat := (Word.nextMultiple?_eq_some rounded).1
  have header : headerSize.toNat = 16 := rfl
  unfold layout? layoutFor
  rw [← capacity_eq_paddedTo rounded]
  rcases sum : Word.add? capacity headerSize with _ | total
  · unfold Word.add? at sum
    split at sum
    · cases sum
    · next large =>
      simp only [UInt64.size] at large
      rw [if_neg (by omega)]
      rfl
  · have word := Word.add?_eq_some_iff.1 sum
    rw [header] at word
    rw [Option.bind_some, ofSize?_of_dvd (by omega), word, UInt64.ofNat_toNat]

end HeaderHeap

/-! ## 3. Headers -/

/-- The block behind the header of a region. -/
def Primitive.Block.behind (r : Block) : Block := ⟨r.start + 16, r.capacity - 16⟩

/-- The region starts with a word that tells its size. -/
structure Headed (m : Memory) (r : Block) : Prop where
  layout : HeaderHeap.layout? (m.readWord r.start) = some ⟨r.capacity, 16⟩
  capacity_pos : 0 < (m.readWord r.start).toNat

namespace Headed

variable {m m' : Memory} {r q : Block} {x : Addr}

theorem toNat_capacity (h : Headed m r) : r.capacity.toNat = (m.readWord r.start).toNat + 16 :=
  (HeaderHeap.layout?_eq_some h.layout).1

theorem toNat_start (h : Headed m r) (proper : r.Proper) :
    r.behind.start.toNat = r.start.toNat + 16 := by
  have := h.toNat_capacity
  have := h.capacity_pos
  have := proper.inside
  have word : (16 : UInt64).toNat = 16 := rfl
  simp only [UInt64.size] at *
  rw [Block.behind, UInt64.toNat_add, word]
  omega

theorem toNat_behind (h : Headed m r) : r.behind.capacity.toNat = (m.readWord r.start).toNat := by
  have total := h.toNat_capacity
  have word : (16 : UInt64).toNat = 16 := rfl
  have le : (16 : UInt64) ≤ r.capacity := UInt64.le_iff_toNat_le.2 (by omega)
  rw [Block.behind, UInt64.toNat_sub_of_le _ _ le, total, word]
  omega

theorem proper_behind (h : Headed m r) (proper : r.Proper) : r.behind.Proper := by
  have start := h.toNat_start proper
  have capacity := h.toNat_behind
  have total := h.toNat_capacity
  have := proper.aligned
  have := proper.inside
  have := h.capacity_pos
  constructor <;> omega

/-- The block behind the header lies in the region. -/
theorem holds_of_behind (h : Headed m r) (proper : r.Proper) (inside : r.behind.Holds x) :
    r.Holds x := by
  have start := h.toNat_start proper
  have capacity := h.toNat_behind
  have total := h.toNat_capacity
  unfold Block.Holds at *
  omega

/-- The header lies in the region and not in the block. -/
theorem holds_header (h : Headed m r) (proper : r.Proper) {i : Nat} (less : i < 8) :
    r.Holds (r.start + UInt64.ofNat i) ∧ ¬ r.behind.Holds (r.start + UInt64.ofNat i) := by
  have start := h.toNat_start proper
  have total := h.toNat_capacity
  have room : r.room r.start = r.capacity.toNat := Nat.add_sub_cancel_left ..
  have within : i < r.room r.start := by omega
  have address := proper.toNat_add proper.holds_start within
  refine ⟨proper.holds_add proper.holds_start within, ?_⟩
  unfold Block.Holds
  omega

/-- The header stays as long as its bytes do. -/
theorem congr (h : Headed m r)
    (same : ∀ i < 8, m'.read (r.start + UInt64.ofNat i) = m.read (r.start + UInt64.ofNat i)) :
    Headed m' r := by
  have word := Memory.readWord_congr same
  constructor
  · rw [word]
    exact h.layout
  · rw [word]
    exact h.capacity_pos

/-- A pointer to the block leads back to the region. -/
theorem start_eq (r : Block) : r.behind.start - 16 = r.start := UInt64.add_sub_cancel ..

end Headed

/-! ## 4. The header heap -/

namespace HeaderHeap

variable {α : Type} [SystemAllocator α] {c : SystemContract α}
  {h h' : Heap (HeaderHeap (Watched α))} {r q : Block} {size p : UInt64}

/-- The system allocator below the header heap, without the watch. -/
def below (h : Heap (HeaderHeap (Watched α))) : Heap α := Watched.innerHeap (systemHeap h)

/-- The regions that are out. -/
def regions (h : Heap (HeaderHeap (Watched α))) : List Block := h.state.system.regions

/-- The header heap has a header in front of each block, and counts its blocks. -/
structure Orderly (c : SystemContract α) (h : Heap (HeaderHeap (Watched α))) : Prop where
  /-- There may be others who have regions of the system allocator. -/
  lent : ∃ all, c.Lent (below h) all ∧ ∀ r ∈ regions h, r ∈ all
  nodup : (regions h).Nodup
  headed : ∀ r ∈ regions h, Headed h.memory r
  counted : h.state.allocations = h.state.deallocations + UInt64.ofNat (regions h).length

/-- The live blocks are those behind the headers. -/
def view (c : SystemContract α) : Primitive.View (HeaderHeap (Watched α)) where
  Valid := Orderly c
  live h := {b | ∃ r ∈ regions h, r.behind = b}

namespace Orderly

theorem proper (order : Orderly c h) (mem : r ∈ regions h) : r.Proper := by
  obtain ⟨all, lent, among⟩ := order.lent
  exact c.proper lent r (among r mem)

theorem apart (order : Orderly c h) (mem : r ∈ regions h) (mem' : q ∈ regions h) {x : Addr}
    (inside : r.Holds x) (inside' : q.Holds x) : r = q := by
  obtain ⟨all, lent, among⟩ := order.lent
  exact c.apart lent r (among r mem) q (among q mem') x inside inside'

theorem holds (order : Orderly c h) (mem : r ∈ regions h) {x : Addr} (inside : r.behind.Holds x) :
    r.Holds x :=
  (order.headed r mem).holds_of_behind (order.proper mem) inside

theorem eq_of_holds (order : Orderly c h) (mem : r ∈ regions h) (mem' : q ∈ regions h) {x : Addr}
    (inside : r.behind.Holds x) (inside' : q.behind.Holds x) : r = q :=
  order.apart mem mem' (order.holds mem inside) (order.holds mem' inside')

theorem behind_proper (order : Orderly c h) (mem : r ∈ regions h) : r.behind.Proper :=
  (order.headed r mem).proper_behind (order.proper mem)

theorem behind_inj (order : Orderly c h) (mem : r ∈ regions h) (mem' : q ∈ regions h)
    (same : r.behind = q.behind) : r = q :=
  order.eq_of_holds mem mem' (order.behind_proper mem).holds_start
    (same ▸ (order.behind_proper mem).holds_start)

/-- Headers stay when the bytes of regions do. -/
theorem headed_of_bytes (order : Orderly c h) {m : Memory} (mem : r ∈ regions h)
    (bytes : ∀ x, r.Holds x → m.read x = h.memory.read x) : Headed m r :=
  (order.headed r mem).congr fun _ less =>
    bytes _ ((order.headed r mem).holds_header (order.proper mem) less).1

end Orderly

/-- What comes of an allocation. -/
inductive Allocates (h : Heap (HeaderHeap (Watched α))) (size : UInt64) :
    Option Addr × Heap (HeaderHeap (Watched α)) → Prop
  /-- No region is as large. -/
  | tooLarge (large : (capacity? size).bind layout? = none) : Allocates h size (none, h)
  | refused {capacity total : UInt64} {inner : Heap α}
      (rounded : capacity? size = some capacity) (fits : layout? capacity = some ⟨total, 16⟩)
      (answer : SystemAllocator.alloc (below h) ⟨total, 16⟩ = (none, inner)) :
      Allocates h size
        (none, ⟨{ h.state with
          system := ⟨inner.state, regions h, ⟨total, 16⟩ :: h.state.system.refused⟩ },
          inner.memory⟩)
  | granted {capacity total : UInt64} {start : Addr} {inner : Heap α}
      (rounded : capacity? size = some capacity) (fits : layout? capacity = some ⟨total, 16⟩)
      (answer : SystemAllocator.alloc (below h) ⟨total, 16⟩ = (some start, inner)) :
      Allocates h size
        (some (start + 16), ⟨{ h.state with
          system := ⟨inner.state, ⟨start, total⟩ :: regions h, h.state.system.refused⟩
          allocations := h.state.allocations + 1 }, inner.memory.writeWord start capacity⟩)

theorem allocates (h : Heap (HeaderHeap (Watched α))) (size : UInt64) :
    Allocates h size (allocate h size) := by
  unfold allocate
  split
  · next large => exact .tooLarge (by rw [large]; rfl)
  · next capacity rounded =>
    split
    · next large => exact .tooLarge (by rw [rounded]; exact large)
    · next layout fits =>
      obtain ⟨total, rfl⟩ : ∃ total, layout = ⟨total, 16⟩ := ⟨_, (layout?_eq_some fits).2⟩
      rcases answer : SystemAllocator.alloc (below h) ⟨total, 16⟩ with ⟨_ | start, inner⟩
      · rw [Watched.alloc_refused answer]
        exact .refused rounded fits answer
      · rw [Watched.alloc_granted answer]
        exact .granted rounded fits answer

/-- From one heap to the next, regions come and go, and a region that comes has a header. -/
theorem Orderly.follow (order : Orderly c h) {all after blocks : Set Block}
    (among : ∀ r ∈ regions h, r ∈ all) (leads : c.Leads (below h) all after (below h'))
    (nodup : (regions h').Nodup)
    (members : ∀ r ∈ regions h', r ∈ after ∧ (r ∈ regions h ∨ Headed h'.memory r))
    (counted : h'.state.allocations = h'.state.deallocations + UInt64.ofNat (regions h').length)
    (live_eq : (view c).live h' = blocks)
    (still : ∀ r ∈ regions h, r.behind ∈ blocks → r ∈ after) :
    (view c).Leads h blocks h' := by
  have bytes {r : Block} (mem : r ∈ regions h) (kept : r ∈ after) {x : Addr} (inside : r.Holds x) :
      h'.memory.read x = h.memory.read x :=
    leads.bytes r (among r mem) kept x inside
  refine ⟨⟨⟨after, leads.lent, fun r mem => (members r mem).1⟩, nodup, ?_, counted⟩, live_eq, ?_⟩
  · intro r mem
    obtain ⟨kept, old | headed⟩ := members r mem
    · exact order.headed_of_bytes old fun x inside => bytes old kept inside
    · exact headed
  · rintro _ ⟨r, mem, rfl⟩ live x inside
    exact bytes mem (still r mem live) (order.holds mem inside)

theorem view_refused (order : Orderly c h) (answer : allocate h size = (none, h')) :
    (view c).Leads h ((view c).live h) h' := by
  have outcome := allocates h size
  rw [answer] at outcome
  cases outcome with
  | tooLarge => exact ⟨order, rfl, fun _ _ _ _ _ => rfl⟩
  | refused _ _ refusal =>
    obtain ⟨all, lent, among⟩ := order.lent
    exact order.follow among (c.refused lent refusal) order.nodup
      (fun r mem => ⟨among r mem, .inl mem⟩) order.counted rfl fun r mem _ => among r mem

theorem view_granted (order : Orderly c h) (answer : allocate h size = (some p, h')) :
    ∃ b, b.start = p ∧ max size.toNat 1 ≤ b.capacity.toNat ∧ b ∉ (view c).live h ∧
      (view c).Leads h (insert b ((view c).live h)) h' := by
  have outcome := allocates h size
  rw [answer] at outcome
  cases outcome with
  | @granted capacity total start inner rounded fits grant =>
    obtain ⟨all, lent, among⟩ := order.lent
    obtain ⟨large, -⟩ := toNat_capacity? rounded
    have wide : total.toNat = capacity.toNat + 16 := (layout?_eq_some fits).1
    have pos : 0 < total := UInt64.lt_iff_toNat_lt.2 (by rw [UInt64.toNat_zero]; omega)
    obtain ⟨new, given⟩ := c.granted lent pos grant
    have leads := c.write_header new given (by dsimp only; omega) capacity
    have headed : Headed (inner.memory.writeWord start capacity) ⟨start, total⟩ := by
      constructor
      · rw [Memory.readWord_writeWord]
        exact fits
      · rw [Memory.readWord_writeWord]
        omega
    have behind : (Block.behind ⟨start, total⟩).capacity.toNat = capacity.toNat := by
      rw [headed.toNat_behind, Memory.readWord_writeWord]
    have fresh : Block.behind ⟨start, total⟩ ∉ (view c).live h := by
      rintro ⟨q, mem, same⟩
      have proper := c.proper leads.lent _ (.inl rfl)
      have inside := (headed.proper_behind proper).holds_start
      obtain rfl := c.apart leads.lent q (.inr (among q mem)) _ (.inl rfl) _
        (order.holds mem (same ▸ inside)) (headed.holds_of_behind proper inside)
      exact new (among _ mem)
    refine ⟨Block.behind ⟨start, total⟩, rfl, behind ▸ large, fresh, ?_⟩
    refine order.follow among leads ?_ ?_ ?_ ?_ fun q mem _ => .inr (among q mem)
    · exact List.nodup_cons.2 ⟨fun mem => new (among _ mem), order.nodup⟩
    · exact List.forall_mem_cons.2
        ⟨⟨.inl rfl, .inr headed⟩, fun q mem => ⟨.inr (among q mem), .inl mem⟩⟩
    · show h.state.allocations + 1 = h.state.deallocations + UInt64.ofNat ((regions h).length + 1)
      rw [order.counted, UInt64.ofNat_add, UInt64.add_assoc]
      rfl
    · ext b
      show (∃ q ∈ ⟨start, total⟩ :: regions h, q.behind = b) ↔
        b = Block.behind ⟨start, total⟩ ∨ ∃ q ∈ regions h, q.behind = b
      rw [eq_comm (a := b)]
      simp

/-- The region of a block is given back as it was taken. -/
theorem deallocate_behind (order : Orderly c h) (mem : r ∈ regions h) :
    deallocate h r.behind.start =
      ⟨{ h.state with
        system := ⟨(SystemAllocator.dealloc (below h) r.start ⟨r.capacity, 16⟩).state,
          (regions h).erase r, h.state.system.refused⟩
        deallocations := h.state.deallocations + 1 },
        (SystemAllocator.dealloc (below h) r.start ⟨r.capacity, 16⟩).memory⟩ := by
  have found : layout? (capacityOf h.memory r.behind.start) = some ⟨r.capacity, 16⟩ := by
    unfold capacityOf headerSize
    rw [Headed.start_eq]
    exact (order.headed r mem).layout
  unfold deallocate headerSize
  rw [found, Headed.start_eq]
  rfl

theorem view_released (order : Orderly c h) (mem : r ∈ regions h) :
    (view c).Leads h ((view c).live h \ {r.behind}) (deallocate h r.behind.start) := by
  obtain ⟨all, lent, among⟩ := order.lent
  have leads := c.released lent (among r mem)
  have remain {q : Block} : q ∈ (regions h).erase r ↔ q ≠ r ∧ q ∈ regions h :=
    order.nodup.mem_erase_iff
  have other {q : Block} (mem' : q ∈ regions h) : q.behind ≠ r.behind ↔ q ≠ r :=
    not_congr ⟨order.behind_inj mem' mem, congrArg Block.behind⟩
  rw [deallocate_behind order mem]
  refine order.follow among leads (order.nodup.erase r) ?_ ?_ ?_ ?_
  · intro q kept
    obtain ⟨ne, mem'⟩ := remain.1 kept
    exact ⟨⟨among q mem', ne⟩, .inl mem'⟩
  · have length : ((regions h).erase r).length + 1 = (regions h).length := by
      rw [List.length_erase_of_mem mem, Nat.sub_add_cancel (List.length_pos_of_mem mem)]
    show h.state.allocations =
      h.state.deallocations + 1 + UInt64.ofNat ((regions h).erase r).length
    rw [order.counted, ← length, UInt64.ofNat_add, UInt64.add_assoc, UInt64.add_comm 1]
    rfl
  · ext b
    constructor
    · rintro ⟨q, kept, rfl⟩
      obtain ⟨ne, mem'⟩ := remain.1 kept
      exact ⟨⟨q, mem', rfl⟩, (other mem').2 ne⟩
    · rintro ⟨⟨q, mem', rfl⟩, ne⟩
      exact ⟨q, remain.2 ⟨(other mem').1 ne, mem'⟩, rfl⟩
  · rintro q mem' ⟨_, ne⟩
    exact ⟨among q mem', (other mem').1 ne⟩

theorem capacityOf_behind (order : Orderly c h) (mem : r ∈ regions h) :
    (capacityOf h.memory r.behind.start).toNat = r.behind.capacity.toNat := by
  unfold capacityOf headerSize
  rw [Headed.start_eq, (order.headed r mem).toNat_behind]

theorem view_written (order : Orderly c h) {m : Memory}
    (outside : ∀ x, (∀ b ∈ (view c).live h, ¬ b.Holds x) → m.read x = h.memory.read x) :
    Orderly c ⟨h.state, m⟩ := by
  obtain ⟨all, lent, among⟩ := order.lent
  refine ⟨⟨all, c.written lent fun x free => outside x ?_, among⟩, order.nodup, ?_, order.counted⟩
  · rintro _ ⟨r, mem, rfl⟩ inside
    exact free r (among r mem) (order.holds mem inside)
  · intro r mem
    have proper := order.proper mem
    refine (order.headed r mem).congr fun i less => outside _ ?_
    -- The header is in no block: not in the one behind it, nor in another region.
    obtain ⟨mine, header⟩ := (order.headed r mem).holds_header proper less
    rintro _ ⟨q, mem', rfl⟩ inside
    obtain rfl := order.apart mem mem' mine (order.holds mem' inside)
    exact header inside

/-- The header heap keeps the contract of a primitive. -/
def contract (c : SystemContract α) : Primitive.Contract (HeaderHeap (Watched α)) where
  toView := view c
  interior := false
  acceptsInterior_eq _ := rfl
  proper := by
    rintro h order _ ⟨r, mem, rfl⟩
    exact order.behind_proper mem
  apart := by
    rintro h order _ ⟨r, mem, rfl⟩ _ ⟨q, mem', rfl⟩ x inside inside'
    rw [order.eq_of_holds mem mem' inside inside']
  refused := view_refused
  granted := view_granted
  released := by
    rintro h _ p order ⟨r, mem, rfl⟩ (rfl | ⟨interior, -⟩)
    · exact view_released order mem
    · cases interior
  measured := by
    rintro h _ p order ⟨r, mem, rfl⟩ (rfl | ⟨interior, -⟩)
    · refine ⟨?_, order, rfl, fun _ _ _ _ _ => rfl⟩
      exact (capacityOf_behind order mem).trans (Nat.add_sub_cancel_left ..).symm
    · cases interior
  written order outside := ⟨view_written order outside, rfl⟩

end HeaderHeap

/-! ## 5. The region source -/

namespace RegionSource

/-- The regions lie below what is left, one beside the other. -/
structure Cut (h : Heap RegionSource) (regions : Set Block) : Prop where
  next_pos : 0 < h.state.next
  next_le : h.state.next ≤ limit
  proper : ∀ r ∈ regions, r.Proper
  below : ∀ r ∈ regions, r.start.toNat + r.capacity.toNat ≤ h.state.next
  apart : ∀ r ∈ regions, ∀ q ∈ regions, ∀ x, r.Holds x → q.Holds x → r = q

variable {h h' : Heap RegionSource} {regions : Set Block} {size start : UInt64}

/-- A region is cut off from what is left. -/
theorem alloc_granted (answer : alloc h ⟨size, 16⟩ = (some start, h')) :
    16 ∣ start.toNat ∧ h.state.next ≤ start.toNat ∧ start.toNat + size.toNat ≤ limit ∧
      h' = ⟨⟨start.toNat + size.toNat⟩, h.memory⟩ := by
  unfold alloc at answer
  dsimp only at answer
  split at answer
  · cases answer
  · next fits =>
    cases answer
    have step : (16 : UInt64).toNat = 16 := rfl
    rw [step] at fits ⊢
    have small : (h.state.next + 16 - 1) / 16 * 16 + size.toNat < UInt64.size :=
      Nat.lt_of_le_of_lt (Nat.not_lt.1 fits) (by decide)
    have address : (UInt64.ofNat ((h.state.next + 16 - 1) / 16 * 16)).toNat =
        (h.state.next + 16 - 1) / 16 * 16 := UInt64.toNat_ofNat_of_lt' (by omega)
    rw [address]
    exact ⟨Nat.dvd_mul_left _ _, by omega, Nat.not_lt.1 fits, rfl⟩

theorem alloc_refused (answer : alloc h ⟨size, 16⟩ = (none, h')) : h' = h := by
  unfold alloc at answer
  dsimp only at answer
  split at answer
  · cases answer
    rfl
  · cases answer

theorem Cut.granted (cut : Cut h regions) (pos : 0 < size)
    (answer : alloc h ⟨size, 16⟩ = (some start, h')) :
    ⟨start, size⟩ ∉ regions ∧ Cut h' (insert ⟨start, size⟩ regions) ∧ h'.memory = h.memory := by
  have positive : 0 < size.toNat := UInt64.lt_iff_toNat_lt.1 pos
  have next_pos := cut.next_pos
  have small : limit < UInt64.size := by decide
  obtain ⟨aligned, after, fits, rfl⟩ := alloc_granted answer
  have proper : Block.Proper ⟨start, size⟩ :=
    ⟨Nat.lt_of_lt_of_le next_pos after, aligned, positive, (fits.trans_lt small).le⟩
  have above {q : Block} (mem : q ∈ regions) {x : Addr} (inside : q.Holds x)
      (inside' : Block.Holds ⟨start, size⟩ x) : False := by
    have below := cut.below q mem
    have high := inside'.1
    have low := inside.2
    dsimp only at high
    omega
  refine ⟨fun mem => above mem proper.holds_start proper.holds_start, ?_, rfl⟩
  exact
    { next_pos := Nat.add_pos_right _ positive
      next_le := fits
      proper := Set.forall_mem_insert.2 ⟨proper, cut.proper⟩
      below := by
        refine Set.forall_mem_insert.2 ⟨Nat.le_refl _, fun q mem => ?_⟩
        have below := cut.below q mem
        dsimp only
        omega
      apart := by
        rintro r (rfl | mem) q (rfl | mem') x inside inside'
        · rfl
        · exact (above mem' inside' inside).elim
        · exact (above mem inside inside').elim
        · exact cut.apart r mem q mem' x inside inside' }

/-- The region source keeps the contract of a system allocator. -/
def contract : SystemContract RegionSource where
  Lent := Cut
  proper cut := cut.proper
  apart cut := cut.apart
  refused cut answer := by
    obtain rfl := alloc_refused answer
    exact ⟨cut, fun _ _ _ _ _ => rfl⟩
  granted cut pos answer := by
    obtain ⟨new, cut', same⟩ := cut.granted pos answer
    exact ⟨new, cut', fun _ _ _ _ _ => by rw [same]⟩
  released cut _ :=
    { lent :=
        { next_pos := cut.next_pos
          next_le := cut.next_le
          proper := fun r mem => cut.proper r mem.1
          below := fun r mem => cut.below r mem.1
          apart := fun r mem q mem' => cut.apart r mem.1 q mem'.1 }
      bytes := fun _ _ _ _ _ => rfl }
  written cut _ := ⟨cut.next_pos, cut.next_le, cut.proper, cut.below, cut.apart⟩

theorem lent_fresh (m : Memory) : contract.Lent ⟨{}, m⟩ ∅ where
  next_pos := Nat.zero_lt_succ _
  next_le := show 0x100000 ≤ limit by decide
  proper := nofun
  below := nofun
  apart := nofun

end RegionSource

end MallocLayer
