import MallocLayer.Fork
import MallocLayer.Layer.Aligned
import MallocLayer.Layer.Realloc
import MallocLayer.Primitive.HeaderHeap
import MallocLayer.SelfCheck.Detail
import MallocLayer.Zone

/-!
# Scenarios

Each scenario drives a layer over the header heap and checks one rule that
callers rely on. A scenario works for every system allocator: nothing is
assumed about addresses except what the layer promises.
-/

namespace MallocLayer.SelfCheck

/-- Why a scenario failed. -/
structure Failure where
  detail : String
  /-- The errno of the allocation that failed the scenario, if one did. -/
  errno : Option Errno := none
deriving DecidableEq, Repr

namespace Failure

/-- An allocation failed that the scenario needs. -/
def ofAlloc (call : String) (err : AllocError) : Failure where
  detail := call ++ ": " ++ err.message
  errno := some err.errno

end Failure

/-- A part of a scenario: it uses the layer, and may fail. -/
abbrev Check (α β : Type) := ExceptT Failure (StateM (Layer (HeaderHeap α))) β

/-- A scenario, with the entry point that it exercises. -/
structure Scenario (α : Type) where
  name : String
  symbol : String
  check : Check α Unit

namespace Check

variable {α β : Type}

/-- Uses the layer. -/
def use (f : Layer (HeaderHeap α) → β × Layer (HeaderHeap α)) : Check α β :=
  ExceptT.lift (modifyGet f)

/-- Looks at the layer. -/
def look (f : Layer (HeaderHeap α) → β) : Check α β := use fun s => (f s, s)

/-- Uses the layer for an allocation that has to succeed. -/
def need (call : String) (f : Layer (HeaderHeap α) → Except AllocError β × Layer (HeaderHeap α)) :
    Check α β := do
  match ← use f with
  | .ok b => return b
  | .error err => throw (.ofAlloc call err)

/-- Fails unless a condition holds. -/
def ensure (condition : Bool) (detail : String) : Check α Unit :=
  if condition then return else throw { detail }

/-- The blocks that are live now. -/
def live : Check α UInt64 := look (·.heap.state.live)

/-- Whether a range of memory holds one value throughout. -/
def holds (ptr : Addr) (n : Nat) (byte : UInt8) : Check α Bool :=
  look fun s => (s.heap.memory.readRange ptr n).all (· == byte)

/-- Sets a range of memory to one value. -/
def fill (ptr : Addr) (n : UInt64) (byte : UInt8) : Check α Unit :=
  use fun s => ((), s.mapMemory (·.fill ptr n byte))

variable [SystemAllocator α]

def malloc (size : UInt64) : Check α Addr := need s!"malloc({size})" (·.malloc size)

def realloc (ptr : Option Addr) (size : UInt64) : Check α Reallocated :=
  need s!"realloc(_, {size})" (·.realloc ptr size)

def usable (ptr : Option Addr) : Check α UInt64 := use (·.usableSize ptr)

def release (ptr : Option Addr) : Check α Unit := use fun s => ((), s.free ptr)

end Check

namespace Scenario

open Check

variable {α : Type} [SystemAllocator α]

/-- A block that shrinks to just above half stays where it is. -/
def shrinkStaysInPlace : Check α Unit := do
  let p ← malloc 200
  let u ← usable (some p)
  let target := u / 2 + 1
  let r ← realloc (some p) target
  release r.pointer
  ensure (r == .inPlace p) s!"shrink {u} -> {target} gave {Detail.reallocated r}"

/-- A block that shrinks below half moves to a smaller one. -/
def deepShrinkMoves : Check α Unit := do
  let p ← malloc 1024
  let r ← realloc (some p) 16
  let u ← usable r.pointer
  release r.pointer
  let moved := match r with
    | .moved _ => true
    | _ => false
  ensure (moved && u < 1024) s!"deep shrink kept {u} bytes ({Detail.reallocated r})"

/-- A block that grows by one byte gets a quarter more, and keeps its bytes. -/
def growthIsAmortized : Check α Unit := do
  let p ← malloc 256
  let u ← usable (some p)
  fill p u 0x5a
  let r ← realloc (some p) (u + 1)
  let grown ← usable r.pointer
  let kept ← holds (r.pointer.getD p) u.toNat 0x5a
  release r.pointer
  ensure (u + u / 4 ≤ grown && kept) s!"grew {u} -> {grown}, contents kept: {kept}"

/-- Under the null convention nothing replaces a block of size zero. The layer
here is a second one over the same system allocator. -/
def zeroReleasesUnderNullConvention : Check α Unit := do
  let outer ← look id
  let heap : Heap (HeaderHeap α) := ⟨{ system := outer.heap.state.system }, outer.heap.memory⟩
  let inner : Layer (HeaderHeap α) := .ofHeap heap outer.page { zeroSize := .returnNull }
  let (p, inner) := inner.malloc 64
  let (r, inner) : Except Failure Reallocated × Layer (HeaderHeap α) := match p with
    | .error err => (.error (.ofAlloc "malloc(64)" err), inner)
    | .ok p =>
      let (r, inner) := inner.realloc (some p) 0
      (r.mapError (.ofAlloc "realloc(p, 0)"), inner)
  use fun s => ((), { s with
    heap := ⟨{ s.heap.state with system := inner.heap.state.system }, inner.heap.memory⟩ })
  match r with
  | .ok r =>
    ensure (r == .released && inner.heap.state.live == 0)
      s!"null convention gave {Detail.reallocated r}"
  | .error failure => throw failure

/-- Reallocation to size zero leaves a minimal object. -/
def zeroReturnsMinimalObject : Check α Unit := do
  let p ← malloc 64
  let r ← realloc (some p) 0
  let u ← usable r.pointer
  release r.pointer
  let moved := match r with
    | .moved _ => true
    | _ => false
  ensure (moved && 1 ≤ u) s!"realloc(p, 0) gave {Detail.reallocated r}"
  zeroReleasesUnderNullConvention

/-- Reallocation of null allocates. -/
def nullIsMalloc : Check α Unit := do
  let r ← realloc none 48
  let u ← usable r.pointer
  release r.pointer
  let moved := match r with
    | .moved _ => true
    | _ => false
  ensure (moved && 48 ≤ u)
    s!"realloc(null, 48) gave {Detail.reallocated r} with {u} usable"

/-- A product that overflows is refused before the primitive is asked. -/
def callocRejectsOverflow : Check α Unit := do
  let before ← look (·.heap.state.allocations)
  let result ← use (·.calloc (Word.top / 2) 3)
  let after ← look (·.heap.state.allocations)
  let overflows := match result with
    | .error (.overflow _ _) => true
    | _ => false
  ensure (overflows && after == before)
    s!"calloc overflow gave {Detail.result Detail.allocError Detail.address result}"

/-- Zeroed memory is zero, also where a released block was. -/
def callocZeroFills : Check α Unit := do
  let dirty ← malloc 4096
  fill dirty 4096 0xff
  release (some dirty)
  let p ← need "calloc(64, 64)" (·.calloc 64 64)
  let zeroed ← holds p 4096 0
  release (some p)
  ensure zeroed "calloc returned dirty memory"

/-- The alignments and sizes that `memalign` is tried with. -/
def alignedRequests : List (UInt64 × UInt64) :=
  (List.range 17).flatMap fun shift =>
    let alignment : UInt64 := 1 <<< UInt64.ofNat shift
    [1, 24, alignment, 3 * alignment + 5].map fun size => (alignment, size)

/-- Tries one alignment and size. -/
def honorsAlignment (alignment size : UInt64) : Check α Unit := do
  let p ← need s!"memalign({alignment}, {size})" (·.memalign alignment size)
  let u ← usable (some p)
  release (some p)
  ensure (p % max alignment naturalAlignment == 0)
    s!"memalign({alignment}, {size}) = {Detail.address p}"
  ensure (size ≤ u) s!"memalign({alignment}, {size}) usable {u}"

/-- Aligned blocks are aligned and large enough, and leave nothing in the side
table. -/
def memalignHonorsAlignment : Check α Unit := do
  alignedRequests.forM fun (alignment, size) => honorsAlignment alignment size
  let tracked ← look (·.trackedAlignedBlocks)
  ensure (tracked == 0) "aligned side table not empty"

/-- `posix_memalign` reports alignments that are no power of two, and then leaves the caller's
variable as it was. -/
def posixMemalignReportsEinval : Check α Unit := do
  let sentinel : Addr := 1
  let result ← use (·.posixMemalign 24 64)
  let out := result.toOption.getD sentinel
  let refused := match result with
    | .error (.invalidAlignment _) => true
    | _ => false
  ensure (refused && out == sentinel)
    (s!"posix_memalign(24) gave {Detail.result Detail.allocError Detail.unit result}, " ++
      s!"out changed: {out != sentinel}")
  let result ← use (·.posixMemalign 64 100)
  let out := result.toOption.getD out
  ensure (result.isOk && out % 64 == 0)
    (s!"posix_memalign(64) gave {Detail.result Detail.allocError Detail.unit result} " ++
      s!"at {Detail.address out}")
  release (some out)

/-- `aligned_alloc` reports sizes that cannot be rounded up. -/
def alignedAllocRejectsOverflow : Check α Unit := do
  let result ← use (·.alignedAlloc 4096 (Word.top - 10))
  let refused := match result with
    | .error (.overflow _ _) => true
    | _ => false
  ensure refused
    s!"aligned_alloc overflow gave {Detail.result Detail.allocError Detail.address result}"

/-- `valloc` aligns to a page. -/
def vallocIsPageAligned : Check α Unit := do
  let page ← look (·.page.bytes)
  let p ← need "valloc(100)" (·.valloc 100)
  release (some p)
  ensure (p % page == 0) s!"valloc gave {Detail.address p} for page {page}"

/-- A copy of a string holds its bytes and its terminator. -/
def strdupCopiesTerminator : Check α Unit := do
  let source := CString.ofBytes "heapwrap".toUTF8.toList
  let p ← need "strdup" (·.strdup source)
  let u ← usable (some p)
  let copy ← look fun s => CString.ofBytes (s.heap.memory.readRange p u.toNat)
  release (some p)
  ensure (copy.bytes == source.bytes) s!"strdup gave {Detail.cString copy}"

/-- The good size is a capacity, and asking for it keeps nothing. -/
def goodSizeReportsCapacity : Check α Unit := do
  let before ← live
  let good ← use (·.goodSize 100)
  let after ← live
  ensure (100 ≤ good && after == before) s!"good_size(100) = {good}"

/-- One resume hook of a coordinator. -/
def resume (c : Fork.Coordinator) (side : Fork.Side) : Check α Fork.Coordinator :=
  use (c.resume side)

/-- The hook of a coordinator before duplication. -/
def prepare (c : Fork.Coordinator) : Check α Fork.Coordinator := do
  match ← use (fun s => match c.prepare s with
    | some (c, s) => (some c, s)
    | none => (none, s)) with
  | some c => return c
  | none => throw { detail := "fork_prepare waits" }

/-- Each prepare is matched by one resume, and one too many is only counted. -/
def forkBracketPairsLock : Check α Unit := do
  let c ← prepare {}
  let c ← resume c .parent
  let c ← prepare c
  let c ← resume c .child
  let c ← resume c .parent
  let p ← malloc 32
  release (some p)
  ensure (c == ⟨.idle, 2, 1, 1, 1⟩)
    (s!"phase {c.phase.label}, prepares {c.prepares}, parent {c.parentResumes}, " ++
      s!"child {c.childResumes}, unmatched {c.unmatchedResumes}")

/-- Whether every entry is a block of at least the given size. -/
def allUsable (blocks : List (Option Addr)) (size : UInt64) : Check α Bool :=
  blocks.allM fun block => do return block.isSome && size ≤ (← usable block)

/-- A batch of blocks is complete, and releasing it leaves nothing. -/
def zoneBatchRoundTrip : Check α Unit := do
  let before ← live
  let (filled, blocks) ← use fun s =>
    let (filled, blocks, s) := Zone.batchMalloc s 40 (List.replicate 16 none)
    ((filled, blocks), s)
  let allLive ← allUsable blocks 40
  use fun s => ((), Zone.batchFree s (blocks.take filled))
  let after ← live
  ensure (filled == 16 && allLive && after == before)
    s!"batch_malloc filled {filled}, all live: {allLive}"

/-- A zone becomes the default once. -/
def zoneRegistersOnce : Check α Unit := do
  let zone : Zone := ⟨0x1000, false⟩
  let (first, zone, registry) ← use fun s =>
    let (result, zone, registry, s) := zone.installAsDefault {} s
    ((result, zone, registry), s)
  let (again, zone, registry) ← use fun s =>
    let (result, zone, registry, s) := zone.installAsDefault registry s
    ((result, zone, registry), s)
  let onlyFirst := match first, again with
    | .ok (), .error .alreadyRegistered => true
    | _, _ => false
  ensure (onlyFirst && registry.registrations == 1 && registry.default == some zone.address)
    (s!"install gave {Detail.result Detail.registrationError Detail.unit first} " ++
      s!"then {Detail.result Detail.registrationError Detail.unit again}")

/-- All scenarios, in the order in which they run. -/
def all (α : Type) [SystemAllocator α] : List (Scenario α) :=
  [⟨"realloc_shrink_stays_in_place", "realloc", shrinkStaysInPlace⟩,
    ⟨"realloc_deep_shrink_moves", "realloc", deepShrinkMoves⟩,
    ⟨"realloc_growth_is_amortized", "realloc", growthIsAmortized⟩,
    ⟨"realloc_zero_returns_minimal_object", "realloc", zeroReturnsMinimalObject⟩,
    ⟨"realloc_null_is_malloc", "realloc", nullIsMalloc⟩,
    ⟨"calloc_rejects_overflow", "calloc", callocRejectsOverflow⟩,
    ⟨"calloc_zero_fills", "calloc", callocZeroFills⟩,
    ⟨"memalign_honors_alignment", "memalign", memalignHonorsAlignment⟩,
    ⟨"posix_memalign_reports_einval", "posix_memalign", posixMemalignReportsEinval⟩,
    ⟨"aligned_alloc_rejects_overflow", "aligned_alloc", alignedAllocRejectsOverflow⟩,
    ⟨"valloc_is_page_aligned", "valloc", vallocIsPageAligned⟩,
    ⟨"strdup_copies_terminator", "strdup", strdupCopiesTerminator⟩,
    ⟨"good_size_reports_capacity", "malloc_good_size", goodSizeReportsCapacity⟩,
    ⟨"fork_bracket_pairs_lock", "fork_prepare", forkBracketPairsLock⟩,
    ⟨"zone_batch_round_trip", "batch_malloc", zoneBatchRoundTrip⟩,
    ⟨"zone_registers_once", "zone_register", zoneRegistersOnce⟩]

end Scenario

end MallocLayer.SelfCheck
