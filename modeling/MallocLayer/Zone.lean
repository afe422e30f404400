import MallocLayer.Layer.Realloc
import MallocLayer.Layer.Aligned

/-!
# Zones

A zone is the layer in the form in which allocator discovery knows allocators:
a descriptor with a table of functions, version 8 of the record. All slots route into the
layer. Failures have no errno here, they are null pointers.

A registry holds the default zone of the process. A zone can be made the
default once.
-/

namespace MallocLayer

/-- A zone, known by the address of its descriptor. -/
structure Zone where
  address : Addr
  registered : Bool := false
deriving DecidableEq, Repr

/-- The four counters of the statistics slot. -/
structure ZoneStatistics where
  blocksInUse : UInt32 := 0
  sizeInUse : UInt64 := 0
  maxSizeInUse : UInt64 := 0
  sizeAllocated : UInt64 := 0
deriving DecidableEq, Repr

/-- The optional slots of the table that deal with discharge checking. -/
structure DischargeSlots where
  enable : Bool := false
  disable : Bool := false
  discharge : Bool := false
deriving DecidableEq, Repr

/-- A call of the registry. -/
inductive RegistryCall where
  | unregister (zone : Addr)
  | register (zone : Addr)
deriving DecidableEq, Repr

/-- The registry of zones: the default zone, and the calls made so far, oldest
first. -/
structure ZoneRegistry where
  default : Option Addr := none
  calls : List RegistryCall := []
deriving DecidableEq, Repr

namespace ZoneRegistry

/-- Removes a zone. If it was the default, there is none now. -/
def unregister (r : ZoneRegistry) (zone : Addr) : ZoneRegistry where
  default := if r.default = some zone then none else r.default
  calls := r.calls ++ [.unregister zone]

/-- Adds a zone, which becomes the default. -/
def register (r : ZoneRegistry) (zone : Addr) : ZoneRegistry where
  default := some zone
  calls := r.calls ++ [.register zone]

/-- The registrations made so far. -/
def registrations (r : ZoneRegistry) : Nat :=
  r.calls.countP fun
    | .register _ => true
    | .unregister _ => false

end ZoneRegistry

namespace Zone

/-- The display name. -/
def name : String := "DefaultMallocZone"

/-- The version of the descriptor record. -/
def version : Nat := 8

/-- The zone that a pointer belongs to: this one, whatever the pointer. -/
def fromPointer (z : Zone) (_ : Option Addr) : Addr := z.address

/-- Bytes given back under memory pressure: none. -/
def pressureRelief (_ : UInt64) : UInt64 := 0

/-- The consistency check always passes. -/
def check : Nat := 1

/-- Fork locking is up to the fork coordinator, so a zone is never locked. -/
def locked : Nat := 0

/-- The status of enumeration: success, with nothing enumerated. -/
def enumerate : Nat := 0

/-- The statistics slot clears whatever the record held. -/
def statistics (_ : ZoneStatistics) : ZoneStatistics := {}

/-- No discharge checking. -/
def dischargeSlots : DischargeSlots := {}

variable {σ : Type}

/-- Makes the zone the default one, in place of the one before it. Succeeds
once. -/
def installAsDefault (z : Zone) (r : ZoneRegistry) (s : Layer σ) :
    Except RegistrationError Unit × Zone × ZoneRegistry × Layer σ :=
  if z.registered then
    (.error .alreadyRegistered, z, r, s.record
      { level := .warn, symbol := "zone_register", event := "zone_register_repeat",
        outcome := "already_registered" })
  else
    let r := match r.default with
      | some previous => if previous = z.address then r else r.unregister previous
      | none => r
    (.ok (), { z with registered := true }, r.register z.address, s.record
      { level := .info, symbol := "zone_register", event := "zone_registered",
        outcome := "success", ptr := some z.address })

/-- The pointer of a result, null for an error. -/
def orNull (result : Except AllocError Addr × Layer σ) : Option Addr × Layer σ :=
  (result.1.toOption, result.2)

variable [Primitive σ]

def size (s : Layer σ) (ptr : Option Addr) : UInt64 × Layer σ := s.usableSize ptr

def malloc (s : Layer σ) (size : UInt64) : Option Addr × Layer σ := orNull (s.malloc size)

def calloc (s : Layer σ) (count size : UInt64) : Option Addr × Layer σ :=
  orNull (s.calloc count size)

def valloc (s : Layer σ) (size : UInt64) : Option Addr × Layer σ := orNull (s.valloc size)

def memalign (s : Layer σ) (alignment size : UInt64) : Option Addr × Layer σ :=
  orNull (s.memalign alignment size)

def free (s : Layer σ) (ptr : Option Addr) : Layer σ := s.free ptr

/-- The size that the caller states is not used. -/
def freeDefiniteSize (s : Layer σ) (ptr : Option Addr) (_ : UInt64) : Layer σ := s.free ptr

def realloc (s : Layer σ) (ptr : Option Addr) (size : UInt64) : Option Addr × Layer σ :=
  match s.realloc ptr size with
  | (.ok result, s) => (result.pointer, s)
  | (.error _, s) => (none, s)

def goodSize (s : Layer σ) (size : UInt64) : UInt64 × Layer σ := s.goodSize size

/-- Fills an array of pointers with blocks of `size` bytes, up to the first
failure, which leaves null. Returns how many were filled. Blocks already made
stay with the caller, and entries after the failure keep what they held. -/
def batchMalloc (s : Layer σ) (size : UInt64) :
    (results : List (Option Addr)) → Nat × List (Option Addr) × Layer σ
  | [] => (0, [], s)
  | _ :: rest =>
    match s.malloc size with
    | (.error _, s) => (0, none :: rest, s)
    | (.ok block, s) =>
      let (filled, rest, s) := batchMalloc s size rest
      (filled + 1, some block :: rest, s)

/-- Releases every block of a list, in order. -/
def batchFree (s : Layer σ) (blocks : List (Option Addr)) : Layer σ := blocks.foldl Layer.free s

end Zone

end MallocLayer
