import MallocLayer.Client.Registers
import MallocLayer.Layer.Realloc
import MallocLayer.Fork
import MallocLayer.Zone

/-!
# Programs of a client

What a client can ask of a layer, of the two zones on it and of the two fork
coordinators on it, and what it is answered. Pointers are named by registers: a command reads
its pointer from `ptr` and puts its result into `dest`.
-/

namespace MallocLayer.Client

/-- One request. -/
inductive Command where
  | malloc (size : UInt64) (dest : Option Register)
  | calloc (count size : UInt64) (dest : Option Register)
  | strdup (text : CString) (dest : Option Register)
  | memalign (alignment size : UInt64) (dest : Option Register)
  | alignedAlloc (alignment size : UInt64) (dest : Option Register)
  | posixMemalign (alignment size : UInt64) (dest : Option Register)
  | valloc (size : UInt64) (dest : Option Register)
  /-- Reallocation. The result goes back to `ptr` when `dest` is not given. -/
  | realloc (ptr : Option Register) (size : UInt64) (onFailure : OnFailure)
      (dest : Option Register)
  | free (ptr : Option Register)
  | vfree (ptr : Option Register)
  | usable (ptr : Option Register)
  | goodSize (size : UInt64)
  | config
  /-- Writes a pattern into a block, as far as it is usable. -/
  | fill (ptr : Option Register) (length : UInt64) (seed : UInt8)
  /-- Compares a block with a pattern, as far as it is usable. -/
  | check (ptr : Option Register) (length : UInt64) (seed : UInt8)
  | read (ptr : Option Register) (offset length : UInt64)
  | drainLog
  | snapshotLog
  | droppedRecords
  | record (event : Lifecycle.Event)
  | tryRecord (event : Lifecycle.Event)
  | zoneSize (ptr : Option Register)
  | zoneMalloc (size : UInt64) (dest : Option Register)
  | zoneCalloc (count size : UInt64) (dest : Option Register)
  | zoneValloc (size : UInt64) (dest : Option Register)
  | zoneMemalign (alignment size : UInt64) (dest : Option Register)
  | zoneRealloc (ptr : Option Register) (size : UInt64) (dest : Option Register)
  | zoneFree (ptr : Option Register)
  | zoneFreeDefiniteSize (ptr : Option Register) (size : UInt64)
  | zoneGoodSize (size : UInt64)
  /-- Asks for `count` blocks. They go to registers numbered from zero. Without an
  array for the results nothing is allocated. -/
  | zoneBatchMalloc (size : UInt64) (count : Nat) (hasArray : Bool) (dest : Option Register)
  /-- Releases the blocks of the first `count` registers, or of all. -/
  | zoneBatchFree (ptrs : List Register) (count : Option Nat) (hasArray : Bool)
  | zoneFacts (zone : Fin 2) (size : UInt64) (ptr : Option Register)
  | installZone (zone : Fin 2)
  | forkPrepare (fork : Fin 2)
  | forkResume (fork : Fin 2) (side : Fork.Side)
  | forkState (fork : Fin 2)

/-- A request, or a loop. -/
inductive Step where
  | command (c : Command)
  | repeated (count : Nat) (body : List Step)

/-- What the slots of a zone say about it. -/
structure ZoneFacts where
  name : String
  version : Nat
  pressureRelief : UInt64
  check : Nat
  locked : Nat
  enumerator : Nat
  statistics : ZoneStatistics
  dischargeSlots : DischargeSlots
  fromPointer : Addr
  registered : Bool
deriving DecidableEq, Repr

/-- An entry of an array of results. -/
inductive BatchSlot where
  | block (ptr : Addr)
  | null
  /-- The entry holds what it held before. -/
  | untouched
deriving DecidableEq, Repr

/-- The answer to a request. -/
inductive Answer where
  /-- Null, or no result. -/
  | nothing
  | number (n : Nat)
  | pointer (ptr : Addr) (usable : UInt64)
  /-- A pointer from an aligned request: whether it is aligned, and whether the
  size asked for fits. -/
  | alignedPointer (ptr : Addr) (usable : UInt64) (isAligned fits : Bool)
  | reallocated (result : Reallocated) (usable : UInt64)
  | failed (err : AllocError)
  /-- The caller's variable for the pointer is as it was. -/
  | failedUntouched (err : AllocError)
  | config (c : Config)
  | compared (length : UInt64) (firstMismatch : Option Nat)
  | bytes (bytes : List UInt8)
  | records (records : List Lifecycle.Record)
  | batch (filled : Nat) (slots : List BatchSlot)
  | zone (facts : ZoneFacts)
  | installed (result : Except RegistrationError Unit) (calls : List RegistryCall)
      (default : Option Addr)
  | fork (coordinator : Fork.Coordinator)
  /-- A prepared coordinator holds what the request needs. -/
  | wouldBlock

namespace Answer

/-- Whether the answer reports an error. -/
def isError : Answer → Bool
  | .failed _ | .failedUntouched _ | .wouldBlock | .installed (.error _) _ _ => true
  | _ => false

end Answer

end MallocLayer.Client
