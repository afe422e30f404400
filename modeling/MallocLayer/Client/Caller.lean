import MallocLayer.CSurface
import MallocLayer.Client.Contents
import MallocLayer.Client.Registers

/-!
# C callers

A C caller uses the entry points, with an errno of its choosing before each
call, and looks at errno afterwards. While the fork hook before duplication is
in force, everything but the two resume hooks waits.
-/

namespace MallocLayer.Client

/-- A call of an entry point. -/
inductive EntryCall where
  | malloc (size : UInt64) (dest : Option Register)
  | calloc (count size : UInt64) (dest : Option Register)
  /-- The result goes back to `ptr` when `dest` is not given. -/
  | realloc (ptr : Option Register) (size : UInt64) (dest : Option Register)
  | reallocf (ptr : Option Register) (size : UInt64) (dest : Option Register)
  /-- Without a text the argument is null. -/
  | strdup (text : Option CString) (dest : Option Register)
  | memalign (alignment size : UInt64) (dest : Option Register)
  | alignedAlloc (alignment size : UInt64) (dest : Option Register)
  | valloc (size : UInt64) (dest : Option Register)
  | posixMemalign (hasVariable : Bool) (alignment size : UInt64) (dest : Option Register)
  | free (ptr : Option Register)
  | vfree (ptr : Option Register)
  | mallocUsableSize (ptr : Option Register)
  | mallocSize (ptr : Option Register)
  | mallocGoodSize (size : UInt64)
  | fill (ptr : Option Register) (length : UInt64) (seed : UInt8)
  | read (ptr : Option Register) (length : UInt64)
  | forkPrepare
  | forkResume (side : Fork.Side)

/-- What the caller gets back. -/
inductive EntryAnswer where
  | nothing
  | number (n : Nat)
  | pointer (ptr : Option Addr)
  /-- The error code, and the pointer that was written, if one was. -/
  | code (code : Errno) (written : Option Addr)
  | bytes (bytes : List UInt8)
  /-- A fork hook ran. -/
  | hook
  | wouldBlock

/-- A C caller of a process. -/
structure Caller (σ : Type) where
  process : CSurface σ
  registers : Registers := {}

namespace Caller

variable {σ : Type}

/-- Puts a pointer into a register. Null leaves the register as it was. -/
def put (c : Caller σ) (name : Option Register) : Option Addr → Caller σ
  | none => c
  | some ptr => { c with registers := c.registers.write name (some ptr) }

/-- Empties a register. -/
def drop (c : Caller σ) (name : Option Register) : Caller σ :=
  { c with registers := c.registers.clear name }

/-- Keeps the result of a call. -/
def keep (c : Caller σ) (dest : Option Register) (result : Option Addr × CSurface σ) :
    EntryAnswer × Caller σ :=
  (.pointer result.1, { c with process := result.2 }.put dest result.1)

variable [Primitive σ]

/-- The bytes usable behind the pointer of a register. -/
def usable (c : Caller σ) (ptr : Option Register) : UInt64 × Caller σ :=
  let (usable, process) := c.process.mallocUsableSize (c.registers.read ptr)
  (usable, { c with process })

/-- Runs a call that the process is free for. -/
def run (c : Caller σ) : EntryCall → EntryAnswer × Caller σ
  | .malloc size dest => c.keep dest (c.process.malloc size)
  | .calloc count size dest => c.keep dest (c.process.calloc count size)
  | .realloc ptr size dest =>
    let result := c.process.realloc (c.registers.read ptr) size
    let c := if result.1.isSome || size == 0 then c.drop ptr else c
    c.keep (dest <|> ptr) result
  | .reallocf ptr size dest =>
    let result := c.process.reallocf (c.registers.read ptr) size
    (c.drop ptr).keep (dest <|> ptr) result
  | .strdup text dest => c.keep dest (c.process.strdup text)
  | .memalign alignment size dest => c.keep dest (c.process.memalign alignment size)
  | .alignedAlloc alignment size dest => c.keep dest (c.process.alignedAlloc alignment size)
  | .valloc size dest => c.keep dest (c.process.valloc size)
  | .posixMemalign hasVariable alignment size dest =>
    let (code, written, process) := c.process.posixMemalign hasVariable alignment size
    (.code code written, { c with process }.put dest written)
  | .free ptr => (.nothing, { c with process := c.process.free (c.registers.read ptr) }.drop ptr)
  | .vfree ptr => (.nothing, { c with process := c.process.vfree (c.registers.read ptr) }.drop ptr)
  | .mallocUsableSize ptr =>
    let (size, process) := c.process.mallocUsableSize (c.registers.read ptr)
    (.number size.toNat, { c with process })
  | .mallocSize ptr =>
    let (size, process) := c.process.mallocSize (c.registers.read ptr)
    (.number size.toNat, { c with process })
  | .mallocGoodSize size =>
    let (good, process) := c.process.mallocGoodSize size
    (.number good.toNat, { c with process })
  | .fill ptr length seed =>
    let (usable, c) := c.usable ptr
    match c.registers.read ptr with
    | none => (.number 0, c)
    | some a =>
      let n := min length usable
      let layer := c.process.layer.mapMemory (writePattern · a n seed)
      (.number n.toNat, { c with process.layer := layer })
  | .read ptr length =>
    let (usable, c) := c.usable ptr
    match c.registers.read ptr with
    | none => (.bytes [], c)
    | some a =>
      (.bytes (readWithin c.process.layer.heap.memory a 0 length.toNat usable.toNat), c)
  | .forkPrepare =>
    match c.process.forkPrepare with
    | none => (.wouldBlock, c)
    | some process => (.hook, { c with process })
  | .forkResume side => (.hook, { c with process := c.process.forkResume side })

/-- Makes a call with errno set before it, if the call need not wait. -/
def call (c : Caller σ) (errno : Errno) (request : EntryCall) : EntryAnswer × Caller σ :=
  let goesThrough : Bool := match request with
    | .forkResume _ => true
    | _ => c.process.fork.phase == .idle
  if goesThrough then { c with process.errno := errno }.run request else (.wouldBlock, c)

end Caller

end MallocLayer.Client
