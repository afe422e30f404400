import MallocLayer.Proofs.SystemProjection
import Mathlib.Order.Bounds.Defs

/-!
# Runs of the header heap

The size of a block is kept in front of the block, where only the header heap is
meant to write, and it is read again when the block is measured and when it is
released. `Reached` has the heaps that come about when callers allocate, release what
they have, and write into it as they please. In every one of them the header heap does
what a primitive has to do (`Honours`), if the system allocator below is within its
own contract.

A block that a caller has is described by what the caller knows, its pointer and the
size that was asked for (`Lease`). The capacity, the region below and its layout follow
from these two, so that a region is given back as it was taken as soon as the header
is what it was.

The contract of the header heap is about a system allocator that is watched. Here
nothing is watched, and the watch is an assumption on the side that a heap of a run
can be had by forgetting it (`Tracks`).

The counters of the header heap are words. A run counts the blocks that it was
granted, and the number of live blocks is read off the counters as long as the count
fits a word.
-/

namespace MallocLayer.HeaderHeap

open Primitive (Block)

/-! ## 1. Leases -/

/-- A block that a caller has: its pointer, and the size that was asked for. -/
structure Lease where
  ptr : Addr
  size : UInt64
deriving DecidableEq

namespace Lease

/-- The region below the block. -/
def region (l : Lease) : Block := ⟨l.ptr - 16, (layoutFor l.size).size⟩

def header (l : Lease) : Block := ⟨l.ptr - 16, 16⟩

def block (l : Lease) : Block := ⟨l.ptr, UInt64.ofNat (paddedTo 16 l.size.toNat)⟩

theorem behind_region (l : Lease) : l.region.behind = l.block := by
  unfold Block.behind region layoutFor block
  rw [UInt64.sub_add_cancel, UInt64.ofNat_add]
  exact congrArg (Block.mk l.ptr) (UInt64.add_sub_cancel ..)

end Lease

variable {α : Type} [SystemAllocator α] {c : SystemContract α} {below : Heap α}
  {h h' : Heap (HeaderHeap α)} {w w' : Heap (HeaderHeap (Watched α))} {leases : List Lease}
  {grants : Nat} {l k : Lease} {size p : UInt64} {x : Addr}

/-- A header heap from which nothing was allocated so far. -/
def fresh (below : Heap α) : Heap (HeaderHeap α) := ⟨{ system := below.state }, below.memory⟩

/-- The heaps that callers can bring about with a number of blocks granted to them,
and the blocks that they have then. -/
inductive Reached (below : Heap α) : Nat → Heap (HeaderHeap α) → List Lease → Prop
  | fresh : Reached below 0 (fresh below) []
  | refused {grants : Nat} {h h' : Heap (HeaderHeap α)} {leases : List Lease} {size : UInt64}
      (before : Reached below grants h leases) (answer : allocate h size = (none, h')) :
      Reached below grants h' leases
  | granted {grants : Nat} {h h' : Heap (HeaderHeap α)} {leases : List Lease} {size p : UInt64}
      (before : Reached below grants h leases) (answer : allocate h size = (some p, h')) :
      Reached below (grants + 1) h' (⟨p, size⟩ :: leases)
  | released {grants : Nat} {h : Heap (HeaderHeap α)} {leases : List Lease} {l : Lease}
      (before : Reached below grants h leases) (mem : l ∈ leases) :
      Reached below grants (deallocate h l.ptr) (leases.erase l)
  /-- The caller writes into a block, as far as its usable size goes. -/
  | written {grants : Nat} {h : Heap (HeaderHeap α)} {leases : List Lease} {l : Lease}
      {m : Memory} (before : Reached below grants h leases) (mem : l ∈ leases)
      (outside : ∀ x, ¬ Block.Holds ⟨l.ptr, (Primitive.usableSize h l.ptr).1⟩ x →
        m.read x = h.memory.read x) :
      Reached below grants ⟨h.state, m⟩ leases

/-- What an allocation answers: nothing if no region is as large or the system
allocator has none, else the address behind the header of the region that it has. -/
structure Answers (h : Heap (HeaderHeap α)) (size : UInt64)
    (result : Option Addr × Heap (HeaderHeap α)) : Prop where
  null_iff : result.1 = none ↔ UInt64.size ≤ paddedTo 16 size.toNat ∨
    2 ^ 63 - 1 < paddedTo 16 size.toNat + 16 ∨
    (SystemAllocator.alloc (systemHeap h) (layoutFor size)).1 = none
  uncounted : result.1 = none → result.2.state.allocations = h.state.allocations ∧
    result.2.state.deallocations = h.state.deallocations
  region : ∀ p, result.1 = some p →
    (SystemAllocator.alloc (systemHeap h) (layoutFor size)).1 = some (p - 16)
  counted : ∀ p, result.1 = some p → result.2.state.allocations = h.state.allocations + 1 ∧
    result.2.state.deallocations = h.state.deallocations

/-- What the header heap owes to callers that have the given blocks, of a number that
they were granted. -/
structure Honours (grants : Nat) (h : Heap (HeaderHeap α)) (leases : List Lease) : Prop where
  answers : ∀ size, Answers h size (allocate h size)
  /-- The counters are the numbers of blocks granted and released, as words. -/
  allocations_eq : h.state.allocations = UInt64.ofNat grants
  deallocations_eq : ∃ releases, grants = releases + leases.length ∧
    h.state.deallocations = UInt64.ofNat releases
  live_eq : grants < UInt64.size → h.state.live.toNat = leases.length
  nodup : leases.Nodup
  aligned : ∀ l ∈ leases, 16 ∣ l.ptr.toNat
  /-- Measuring a block finds its capacity, and changes nothing. -/
  usable : ∀ l ∈ leases, Primitive.usableSize h l.ptr = (l.block.capacity, h)
  least : ∀ l ∈ leases, IsLeast {n | 16 ∣ n ∧ max l.size.toNat 1 ≤ n}
    (Primitive.usableSize h l.ptr).1.toNat
  apart : ∀ l ∈ leases, ∀ k ∈ leases, ∀ x, l.block.Holds x → k.block.Holds x → l = k
  clear : ∀ l ∈ leases, ∀ k ∈ leases, ∀ x, l.block.Holds x → ¬ k.header.Holds x
  /-- The region of a block is given back with the layout that it was asked for. -/
  returned : ∀ l ∈ leases, layout? (capacityOf h.memory l.ptr) = some (layoutFor l.size) ∧
    deallocate h l.ptr =
      let below := SystemAllocator.dealloc (systemHeap h) (l.ptr - 16) (layoutFor l.size)
      ⟨{ h.state with system := below.state, deallocations := h.state.deallocations + 1 },
        below.memory⟩

/-! ## 2. Single operations -/

theorem answers (h : Heap (HeaderHeap α)) (size : UInt64) : Answers h size (allocate h size) := by
  unfold allocate
  split
  · next overflow =>
    have large := size_le_of_capacity? overflow
    exact ⟨iff_of_true rfl (.inl large), fun _ => ⟨rfl, rfl⟩, nofun, nofun⟩
  · next capacity rounded =>
    rw [layout?_of_capacity? rounded]
    by_cases small : paddedTo 16 size.toNat + 16 ≤ 2 ^ 63 - 1
    · have below_top : paddedTo 16 size.toNat < UInt64.size := by
        simp only [UInt64.size]
        omega
      rw [if_pos small]
      dsimp only
      rcases answer : SystemAllocator.alloc (systemHeap h) (layoutFor size) with ⟨_ | start, inner⟩
      · exact ⟨iff_of_true rfl (.inr (.inr (by rw [answer]))), fun _ => ⟨rfl, rfl⟩, nofun, nofun⟩
      · refine ⟨iff_of_false nofun ?_, nofun, ?_, fun _ _ => ⟨rfl, rfl⟩⟩
        · rintro (large | large | refused)
          · exact Nat.not_lt.2 large below_top
          · exact Nat.not_le.2 large small
          · rw [answer] at refused
            cases refused
        · rintro p ⟨⟩
          rw [answer]
          exact congrArg some (UInt64.add_sub_cancel ..).symm
    · rw [if_neg small]
      have large := Nat.lt_of_not_le small
      exact ⟨iff_of_true rfl (.inr (.inl large)), fun _ => ⟨rfl, rfl⟩, nofun, nofun⟩

theorem regions_of_refused (answer : allocate w size = (none, w')) : regions w' = regions w := by
  have outcome := allocates w size
  rw [answer] at outcome
  cases outcome with
  | tooLarge => rfl
  | refused => rfl

/-- What is asked for when a block is granted is the region of its lease. -/
theorem regions_of_granted (answer : allocate w size = (some p, w')) :
    regions w' = Lease.region ⟨p, size⟩ :: regions w ∧
      paddedTo 16 size.toNat + 16 ≤ 2 ^ 63 - 1 := by
  have outcome := allocates w size
  rw [answer] at outcome
  cases outcome with
  | @granted capacity total start inner rounded fits =>
    rw [layout?_of_capacity? rounded] at fits
    split at fits
    · next small =>
      have same : layoutFor size = ⟨total, 16⟩ := Option.some.inj fits
      refine ⟨?_, small⟩
      show _ :: regions w = _
      unfold Lease.region
      rw [UInt64.add_sub_cancel, same]
    · cases fits

/-! ## 3. Runs -/

/-- With a watch on the system allocator, the heap has the regions of the leases out,
and has released those of the other blocks that were granted. -/
structure Tracks (c : SystemContract α) (w : Heap (HeaderHeap (Watched α))) (grants : Nat)
    (h : Heap (HeaderHeap α)) (leases : List Lease) : Prop where
  unwatched : w.carry (HeaderHeap.carry Watched.inner) = h
  order : Orderly c w
  regions_perm : (regions w).Perm (leases.map Lease.region)
  fits : ∀ l ∈ leases, paddedTo 16 l.size.toNat + 16 ≤ 2 ^ 63 - 1
  released_eq : ∃ releases, grants = releases + leases.length ∧
    h.state.deallocations = UInt64.ofNat releases

namespace Tracks

/-- The header heap does the same without the watch. -/
theorem allocate_eq (t : Tracks c w grants h leases) (size : UInt64) :
    allocate h size =
      (allocate w size).map id (Heap.carry (HeaderHeap.carry Watched.inner)) := by
  rw [← t.unwatched]
  exact (HeaderHeap.projects Watched.inner_projects).allocate w size

theorem deallocate_eq (t : Tracks c w grants h leases) (p : Addr) :
    deallocate h p = (deallocate w p).carry (HeaderHeap.carry Watched.inner) := by
  rw [← t.unwatched]
  exact (HeaderHeap.projects Watched.inner_projects).deallocate w p

theorem memory_eq (t : Tracks c w grants h leases) : w.memory = h.memory :=
  congrArg Heap.memory t.unwatched

theorem fresh {all : Set Block} (lent : c.Lent below all) :
    Tracks c ⟨{ system := ⟨below.state, [], []⟩ }, below.memory⟩ 0 (fresh below) [] where
  unwatched := rfl
  order := ⟨⟨all, lent, nofun⟩, List.nodup_nil, nofun, rfl⟩
  regions_perm := .refl _
  fits := nofun
  released_eq := ⟨0, rfl, rfl⟩

theorem refused (t : Tracks c w grants h leases) (answer : allocate h size = (none, h')) :
    ∃ w', Tracks c w' grants h' leases := by
  have uncounted : h'.state.deallocations = h.state.deallocations := by
    have answers := HeaderHeap.answers h size
    rw [answer] at answers
    exact (answers.uncounted rfl).2
  rw [t.allocate_eq] at answer
  rcases step : allocate w size with ⟨_ | p, w'⟩
  · rw [step] at answer
    cases answer
    refine ⟨w', rfl, (view_refused t.order step).valid, ?_, t.fits, ?_⟩
    · rw [regions_of_refused step]
      exact t.regions_perm
    · rw [uncounted]
      exact t.released_eq
  · rw [step] at answer
    cases answer

theorem granted (t : Tracks c w grants h leases) (answer : allocate h size = (some p, h')) :
    ∃ w', Tracks c w' (grants + 1) h' (⟨p, size⟩ :: leases) := by
  have uncounted : h'.state.deallocations = h.state.deallocations := by
    have answers := HeaderHeap.answers h size
    rw [answer] at answers
    exact (answers.counted p rfl).2
  rw [t.allocate_eq] at answer
  rcases step : allocate w size with ⟨_ | q, w'⟩
  · rw [step] at answer
    cases answer
  · rw [step] at answer
    cases answer
    obtain ⟨_, _, _, _, leads⟩ := view_granted t.order step
    obtain ⟨regions_eq, small⟩ := regions_of_granted step
    refine ⟨w', rfl, leads.valid, ?_, List.forall_mem_cons.2 ⟨small, t.fits⟩, ?_⟩
    · rw [regions_eq, List.map_cons]
      exact t.regions_perm.cons _
    · obtain ⟨releases, rfl, count⟩ := t.released_eq
      exact ⟨releases, Nat.add_assoc .., uncounted.trans count⟩

theorem region_mem (t : Tracks c w grants h leases) (mem : l ∈ leases) : l.region ∈ regions w :=
  t.regions_perm.mem_iff.2 (List.mem_map_of_mem mem)

theorem released (t : Tracks c w grants h leases) (mem : l ∈ leases) :
    ∃ w', Tracks c w' grants (deallocate h l.ptr) (leases.erase l) := by
  have out := t.region_mem mem
  have start : l.region.behind.start = l.ptr := by rw [Lease.behind_region]; rfl
  have gone := deallocate_behind t.order out
  rw [start] at gone
  refine ⟨deallocate w l.ptr, (t.deallocate_eq l.ptr).symm, ?_, ?_, ?_, ?_⟩
  · have leads := view_released t.order out
    rw [start] at leads
    exact leads.valid
  · have rest : (leases.map Lease.region).Perm (l.region :: (leases.erase l).map Lease.region) :=
      (List.perm_cons_erase mem).map Lease.region
    have left := (t.regions_perm.trans rest).erase l.region
    rw [List.erase_cons_head] at left
    rw [gone]
    exact left
  · exact fun k kept => t.fits k (List.mem_of_mem_erase kept)
  · obtain ⟨releases, total, count⟩ := t.released_eq
    have length := List.length_erase_of_mem mem
    have pos := List.length_pos_of_mem mem
    refine ⟨releases + 1, by omega, ?_⟩
    rw [t.deallocate_eq, gone, UInt64.ofNat_add, ← count, ← t.unwatched]
    rfl

/-- The header of a block that is out tells its capacity. -/
theorem headed (t : Tracks c w grants h leases) (mem : l ∈ leases) : Headed h.memory l.region := by
  rw [← t.memory_eq]
  exact t.order.headed _ (t.region_mem mem)

theorem toNat_region (t : Tracks c w grants h leases) (mem : l ∈ leases) :
    l.region.capacity.toNat = paddedTo 16 l.size.toNat + 16 := by
  have small := t.fits l mem
  exact UInt64.toNat_ofNat_of_lt' (by simp only [UInt64.size]; omega)

theorem capacityOf_eq (t : Tracks c w grants h leases) (mem : l ∈ leases) :
    capacityOf h.memory l.ptr = l.block.capacity := by
  have total := (t.headed mem).toNat_capacity
  rw [t.toNat_region mem, Nat.add_right_cancel_iff] at total
  show h.memory.readWord l.region.start = UInt64.ofNat _
  rw [total, UInt64.ofNat_toNat]

theorem usableSize_eq (t : Tracks c w grants h leases) (mem : l ∈ leases) :
    Primitive.usableSize h l.ptr = (l.block.capacity, h) :=
  congrArg (·, h) (t.capacityOf_eq mem)

theorem written (t : Tracks c w grants h leases) (mem : l ∈ leases) {m : Memory}
    (outside : ∀ x, ¬ Block.Holds ⟨l.ptr, (Primitive.usableSize h l.ptr).1⟩ x →
      m.read x = h.memory.read x) :
    ∃ w', Tracks c w' grants ⟨h.state, m⟩ leases := by
  obtain rfl := t.unwatched
  refine ⟨⟨w.state, m⟩, rfl, view_written t.order fun x free => outside x fun inside => ?_,
    t.regions_perm, t.fits, t.released_eq⟩
  refine free l.block ⟨l.region, t.region_mem mem, l.behind_region⟩ ?_
  rwa [t.usableSize_eq mem] at inside

end Tracks

theorem Reached.tracks {all : Set Block} (lent : c.Lent below all)
    (run : Reached below grants h leases) : ∃ w, Tracks c w grants h leases := by
  induction run with
  | fresh => exact ⟨_, .fresh lent⟩
  | refused _ answer ih =>
    obtain ⟨w, t⟩ := ih
    exact t.refused answer
  | granted _ answer ih =>
    obtain ⟨w, t⟩ := ih
    exact t.granted answer
  | released _ mem ih =>
    obtain ⟨w, t⟩ := ih
    exact t.released mem
  | written _ mem outside ih =>
    obtain ⟨w, t⟩ := ih
    exact t.written mem outside

/-! ## 4. The promise -/

theorem isLeast_paddedTo (size : Nat) :
    IsLeast {n | 16 ∣ n ∧ max size 1 ≤ n} (paddedTo 16 size) := by
  refine ⟨⟨Nat.dvd_mul_left _ _, le_paddedTo (by decide) size⟩, ?_⟩
  rintro n ⟨multiple, above⟩
  exact paddedTo_le (by decide) multiple above

namespace Tracks

theorem apart (t : Tracks c w grants h leases) (mem : l ∈ leases) (mem' : k ∈ leases)
    (inside : l.region.Holds x) (inside' : k.region.Holds x) : l.region = k.region :=
  t.order.apart (t.region_mem mem) (t.region_mem mem') inside inside'

/-- The block is in its region, behind the header. -/
theorem toNat_ptr (t : Tracks c w grants h leases) (mem : l ∈ leases) :
    l.ptr.toNat = l.region.start.toNat + 16 := by
  have start := (t.headed mem).toNat_start (t.order.proper (t.region_mem mem))
  rwa [Lease.behind_region] at start

theorem holds_region (t : Tracks c w grants h leases) (mem : l ∈ leases)
    (inside : l.block.Holds x) : l.region.Holds x := by
  rw [← Lease.behind_region] at inside
  exact t.order.holds (t.region_mem mem) inside

theorem holds_region_of_header (t : Tracks c w grants h leases) (mem : l ∈ leases)
    (inside : l.header.Holds x) : l.region.Holds x := by
  have large := t.toNat_region mem
  have width : l.header.capacity.toNat = 16 := rfl
  have start : l.header.start = l.region.start := rfl
  unfold Block.Holds at *
  rw [width, start] at inside
  omega

theorem nodup (t : Tracks c w grants h leases) : (leases.map Lease.region).Nodup :=
  t.regions_perm.nodup_iff.1 t.order.nodup

theorem allocations_eq (t : Tracks c w grants h leases) :
    h.state.allocations = UInt64.ofNat grants := by
  obtain ⟨releases, rfl, count⟩ := t.released_eq
  obtain rfl := t.unwatched
  have counted := t.order.counted
  rw [t.regions_perm.length_eq, List.length_map] at counted
  rw [UInt64.ofNat_add, ← count]
  exact counted

/-- The counters tell the blocks that are out, as long as they do not wrap. -/
theorem live_eq (t : Tracks c w grants h leases) (few : grants < UInt64.size) :
    h.state.live.toNat = leases.length := by
  obtain ⟨releases, rfl, count⟩ := t.released_eq
  unfold HeaderHeap.live
  rw [Word.toNat_subSaturating, t.allocations_eq, count, UInt64.toNat_ofNat_of_lt' few,
    UInt64.toNat_ofNat_of_lt' (Nat.lt_of_add_right_lt few), Nat.add_sub_cancel_left]

theorem keeps_promise (t : Tracks c w grants h leases) : Honours grants h leases where
  answers := HeaderHeap.answers h
  allocations_eq := t.allocations_eq
  deallocations_eq := t.released_eq
  live_eq := t.live_eq
  nodup := t.nodup.of_map _
  aligned l mem := by
    have proper := (t.order.proper (t.region_mem mem)).aligned
    rw [t.toNat_ptr mem]
    exact Nat.dvd_add proper (Nat.dvd_refl 16)
  usable _ := t.usableSize_eq
  least l mem := by
    have small := t.fits l mem
    have word : l.block.capacity.toNat = paddedTo 16 l.size.toNat :=
      UInt64.toNat_ofNat_of_lt' (by simp only [UInt64.size]; omega)
    rw [t.usableSize_eq mem, word]
    exact isLeast_paddedTo l.size.toNat
  apart l mem k mem' x inside inside' :=
    List.inj_on_of_nodup_map t.nodup mem mem'
      (t.apart mem mem' (t.holds_region mem inside) (t.holds_region mem' inside'))
  clear l mem k mem' x inside inside' := by
    have same := t.apart mem mem' (t.holds_region mem inside)
      (t.holds_region_of_header mem' inside')
    have behind := t.toNat_ptr mem
    have first : k.region.start.toNat ≤ x.toNat ∧ x.toNat < k.region.start.toNat + 16 := inside'
    have after : l.ptr.toNat ≤ x.toNat := inside.1
    rw [same] at behind
    omega
  returned l mem := by
    have found : layout? (capacityOf h.memory l.ptr) = some (layoutFor l.size) :=
      (t.headed mem).layout
    refine ⟨found, ?_⟩
    unfold deallocate
    rw [found]
    rfl

end Tracks

/-- Whatever callers do with what they have, the header heap keeps its promise. -/
theorem Reached.honours (c : SystemContract α) {all : Set Block} (lent : c.Lent below all)
    (run : Reached below grants h leases) : Honours grants h leases := by
  obtain ⟨w, t⟩ := run.tracks lent
  exact t.keeps_promise

/-- Two blocks side by side, the first of them full. -/
def fullHeap : Heap (HeaderHeap RegionSource) :=
  (allocate (allocate (fresh ⟨{}, .empty⟩) 20).2 0).2.mapMemory (·.fill 0x100010 32 0xff)

theorem reached_fullHeap : Reached ⟨{}, .empty⟩ 2 fullHeap [⟨0x100040, 0⟩, ⟨0x100010, 20⟩] := by
  have first : Reached _ 1 (allocate (fresh ⟨({} : RegionSource), .empty⟩) 20).2
      [⟨0x100010, 20⟩] :=
    .granted .fresh (Prod.ext (by decide +kernel) rfl)
  have both : Reached _ 2 (allocate (allocate (fresh ⟨({} : RegionSource), .empty⟩) 20).2 0).2
      [⟨0x100040, 0⟩, ⟨0x100010, 20⟩] :=
    .granted first (Prod.ext (by decide +kernel) rfl)
  refine .written (l := ⟨0x100010, 20⟩) both (by decide) fun x outside => ?_
  have covers : Block.Covers ⟨0x100010, 32⟩ 0x100010 32 :=
    Block.Proper.covers ⟨by decide, by decide, by decide, by decide⟩ (by decide) (by decide)
  obtain ⟨w, t⟩ := both.tracks (RegionSource.lent_fresh .empty)
  rw [t.usableSize_eq (l := ⟨0x100010, 20⟩) (by decide)] at outside
  exact covers.read_store_outside outside

/-- The header behind the full block is what it was, and the full block goes back with the
48 bytes of its region. -/
theorem Reached.honours_fullHeap :
    RegionSource.contract.Lent ⟨{}, .empty⟩ ∅ ∧
      Reached ⟨{}, .empty⟩ 2 (deallocate fullHeap 0x100010) [⟨0x100040, 0⟩] ∧
      Honours 2 (deallocate fullHeap 0x100010) [⟨0x100040, 0⟩] ∧
      (Primitive.usableSize (deallocate fullHeap 0x100010) 0x100040).1 = 16 ∧
      (deallocate fullHeap 0x100010).state.live.toNat = 1 ∧
      layout? (capacityOf fullHeap.memory 0x100010) = some ⟨48, 16⟩ := by
  have lent := RegionSource.lent_fresh .empty
  have run : Reached ⟨{}, .empty⟩ 2 (deallocate fullHeap 0x100010) [⟨0x100040, 0⟩] :=
    .released (l := ⟨0x100010, 20⟩) reached_fullHeap (by decide)
  have honours := run.honours RegionSource.contract lent
  have full := reached_fullHeap.honours RegionSource.contract lent
  refine ⟨lent, run, honours, ?_, honours.live_eq (by decide), ?_⟩
  · rw [honours.usable ⟨0x100040, 0⟩ (by decide)]
    decide
  · exact (full.returned ⟨0x100010, 20⟩ (by decide)).1

end MallocLayer.HeaderHeap
