import MallocLayer.Word
import MallocLayer.AllocError

/-!
# Alignment arithmetic

Sizes and alignments of the aligned entry points. An alignment that has
passed `normalizeAlignment` or `validateAlignment` is a power of two, and
`isAligned` and `alignUp` are meant for powers of two only: they work on the
low bits.
-/

namespace MallocLayer

/-- The alignment that every primitive block already has. -/
def naturalAlignment : UInt64 := 16

/-- The size of the platform's pages, to which `valloc` aligns. -/
structure PageSize where
  bytes : UInt64
  power : Word.isPowerOfTwo bytes = true
  natural_le : naturalAlignment ≤ bytes
deriving DecidableEq, Repr

namespace PageSize

/-- The page size where the platform reports none. -/
def fallback : PageSize := ⟨4096, by decide, by decide⟩

/-- The page size that the platform reports. A negative number, or one that is no power of two, is
no page size. No platform has pages smaller than the natural alignment. -/
def ofReport (report : Int64)
    (large : Word.isPowerOfTwo report.toUInt64 → naturalAlignment ≤ report.toUInt64) : PageSize :=
  if usable : 0 ≤ report ∧ Word.isPowerOfTwo report.toUInt64 then
    ⟨report.toUInt64, usable.2, large usable.2⟩
  else fallback

end PageSize

/-- The alignment of a `memalign` request: raised to the natural alignment and
then to a power of two. Above the largest power of two it is refused. -/
def normalizeAlignment (alignment : UInt64) : Except AllocError UInt64 :=
  let power := Word.leastPowerOfTwo (max alignment naturalAlignment).toNat
  if power < UInt64.size then .ok (UInt64.ofNat power)
  else .error (.invalidAlignment alignment)

/-- The strict rule of `posix_memalign` and `aligned_alloc`: powers of two
only. -/
def validateAlignment (alignment : UInt64) : Except AllocError UInt64 :=
  if Word.isPowerOfTwo alignment then .ok alignment else .error (.invalidAlignment alignment)

/-- Whether the low bits below `alignment` are clear. -/
def isAligned (addr : Addr) (alignment : UInt64) : Bool :=
  addr &&& (alignment - 1) == 0

/-- Rounds up to a multiple of `alignment`. The sums wrap, as they do in a release build; a build
that checks for overflow aborts where `addr + alignment` is 2^64 or more. -/
def alignUp (addr : Addr) (alignment : UInt64) : Addr :=
  (addr + alignment - 1) &&& ~~~(alignment - 1)

/-- The size of the second `memalign` attempt: a positive multiple of the
alignment. -/
def paddedSize (size alignment : UInt64) : Except AllocError UInt64 :=
  if size ≤ alignment then .ok alignment
  else match Word.nextMultiple? size alignment with
    | some padded => .ok padded
    | none => .error (.overflow size alignment)

/-- The size of the third `memalign` attempt: room for an aligned address with
`size` bytes behind it, wherever the block starts. -/
def overAllocation (size alignment : UInt64) : Except AllocError UInt64 :=
  match (Word.mul? alignment 2).bind (Word.add? · size) with
  | some total => .ok total
  | none => .error (.overflow alignment size)

end MallocLayer
