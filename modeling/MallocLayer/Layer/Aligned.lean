import MallocLayer.Layer

/-!
# Aligned allocation

Three attempts, each released before the next: the exact size, the size padded
to a multiple of the alignment, and an over-allocation with an aligned address
inside it. Only the third can return an address that is not a block start; for
primitives that know block starts only, that address goes into the side table.
-/

namespace MallocLayer.Layer

variable {σ : Type} [Primitive σ]

/-- The outcome of an attempt: a pointer to return, or the next attempt. -/
inductive Attempt where
  | done (ptr : Addr)
  | misaligned
deriving DecidableEq, Repr

/-- Allocates `size` bytes and keeps the block only if it is aligned. -/
def attempt (s : Layer σ) (alignment size : UInt64) : Except AllocError Attempt × Layer σ :=
  match s.malloc size with
  | (.error err, s) => (.error err, s)
  | (.ok block, s) =>
    if isAligned block alignment then (.ok (.done block), s)
    else (.ok .misaligned, s.deallocate block)

/-- The third attempt: a block of `total` bytes and an aligned address in it. -/
def attemptInside (s : Layer σ) (alignment total : UInt64) : Except AllocError Addr × Layer σ :=
  match s.malloc total with
  | (.error err, s) => (.error err, s)
  | (.ok block, s) =>
    let aligned := alignUp block alignment
    if aligned = block then (.ok block, s)
    else
      let (tracked, origins) :=
        if s.acceptsInterior then (true, s.origins) else s.origins.insert aligned block
      let s := { s with origins }
      if tracked then
        (.ok aligned, s.trace
          { level := .trace, symbol := "memalign", event := "memalign_over_allocate",
            outcome := "success", ptr := some aligned, size := some total,
            alignment := some alignment })
      else
        let err := AllocError.outOfMemory total
        (.error err, (s.deallocate block).trace
          { level := .warn, symbol := "memalign", event := "memalign_origin_table_full",
            outcome := err.outcome, size := some total, alignment := some alignment })

/-- The attempts after the exact one. -/
def memalignPadded (s : Layer σ) (alignment size : UInt64) : Except AllocError Addr × Layer σ :=
  match paddedSize size alignment with
  | .error err => (.error err, s)
  | .ok padded =>
    match s.attempt alignment padded with
    | (.error err, s) => (.error err, s)
    | (.ok (.done block), s) =>
      (.ok block, s.trace
        { level := .trace, symbol := "memalign", event := "memalign_padded", outcome := "success",
          ptr := some block, size := some padded, alignment := some alignment })
    | (.ok .misaligned, s) =>
      match overAllocation padded alignment with
      | .error err => (.error err, s)
      | .ok total => s.attemptInside alignment total

/-- Allocates `size` bytes at an alignment, which is raised to a power of two. -/
def memalign (s : Layer σ) (alignment size : UInt64) : Except AllocError Addr × Layer σ :=
  match normalizeAlignment alignment with
  | .error err => (.error err, s)
  | .ok alignment =>
    match s.attempt alignment size with
    | (.error err, s) => (.error err, s)
    | (.ok (.done block), s) => (.ok block, s)
    | (.ok .misaligned, s) => s.memalignPadded alignment size

/-- The strict C11 form: the alignment must be a power of two, and the size is
rounded up to a multiple of it. -/
def alignedAlloc (s : Layer σ) (alignment size : UInt64) : Except AllocError Addr × Layer σ :=
  match validateAlignment alignment with
  | .error err => (.error err, s)
  | .ok alignment =>
    match Word.nextMultiple? size alignment with
    | none => (.error (.overflow size alignment), s)
    | some rounded => s.memalign alignment rounded

/-- The POSIX form: the alignment must be a power of two. The pointer goes to
the caller's variable on success only. -/
def posixMemalign (s : Layer σ) (alignment size : UInt64) : Except AllocError Addr × Layer σ :=
  let result : Except AllocError Addr × Layer σ := match validateAlignment alignment with
    | .error err => (.error err, s)
    | .ok alignment => s.memalign alignment size
  match result with
  | (.ok block, s) => (.ok block, s)
  | (.error err, s) =>
    (.error err, s.trace
      { level := .warn, symbol := "posix_memalign", event := "posix_memalign_failed",
        outcome := err.outcome, size := some size, alignment := some alignment })

/-- Allocates `size` bytes at the start of a page. -/
def valloc (s : Layer σ) (size : UInt64) : Except AllocError Addr × Layer σ :=
  s.memalign s.page.bytes size

end MallocLayer.Layer
