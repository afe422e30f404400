import MallocLayer.Client.Command
import MallocLayer.Client.Contents
import MallocLayer.Layer.Aligned

/-!
# Sessions

A session runs the programs of one client over one layer. While a fork
coordinator is prepared, whatever needs the layer waits; only the resume hooks,
a look at a coordinator and an attempt to record go through.
-/

namespace MallocLayer.Client

/-- A layer with its client. -/
structure Session (σ : Type) where
  layer : Layer σ
  registers : Registers := {}
  /-- The two zones on the layer. -/
  zones : Vector Zone 2 := #v[⟨0x1000, false⟩, ⟨0x2000, false⟩]
  registry : ZoneRegistry := {}
  /-- The two fork coordinators on the layer. -/
  forks : Vector Fork.Coordinator 2 := #v[{}, {}]

namespace Session

/-- The address of a zone that belongs to somebody else. -/
def foreignZone : Addr := 0x3000

/-- What entries of an array of results hold before the zone writes them. No
block has this address. -/
def untouched : Addr := 1

variable {σ : Type}

/-- Whether some coordinator is prepared. -/
def isHeld (s : Session σ) : Bool := s.forks.any (·.phase == .prepared)

/-- Changes the layer. -/
def withLayer (s : Session σ) (layer : Layer σ) : Session σ := { s with layer }

/-- Puts a pointer into a register. -/
def put (s : Session σ) (name : Option Register) (ptr : Option Addr) : Session σ :=
  { s with registers := s.registers.write name ptr }

/-- Empties a register. -/
def drop (s : Session σ) (name : Option Register) : Session σ := s.put name none

variable [Primitive σ]

/-- The bytes usable behind a pointer. -/
def usable (s : Session σ) (ptr : Option Addr) : UInt64 × Session σ :=
  let (usable, layer) := s.layer.usableSize ptr
  (usable, s.withLayer layer)

/-- Keeps a fresh pointer. -/
def keep (s : Session σ) (dest : Option Register) (ptr : Addr) : Answer × Session σ :=
  let (usable, s) := (s.put dest (some ptr)).usable (some ptr)
  (.pointer ptr usable, s)

/-- Keeps a fresh pointer of an aligned request. -/
def keepAligned (s : Session σ) (alignment size : UInt64) (dest : Option Register) (ptr : Addr) :
    Answer × Session σ :=
  let (usable, s) := (s.put dest (some ptr)).usable (some ptr)
  let alignment := (normalizeAlignment alignment).toOption.getD naturalAlignment
  (.alignedPointer ptr usable (isAligned ptr alignment) (size ≤ usable), s)

/-- Answers with a result of the layer. -/
def answer (s : Session σ) (keep : Session σ → Addr → Answer × Session σ)
    (result : Except AllocError Addr × Layer σ) : Answer × Session σ :=
  match result with
  | (.ok ptr, layer) => keep (s.withLayer layer) ptr
  | (.error err, layer) => (.failed err, s.withLayer layer)

/-- Answers with a result of a zone slot. -/
def answerSlot (s : Session σ) (keep : Session σ → Addr → Answer × Session σ)
    (result : Option Addr × Layer σ) : Answer × Session σ :=
  match result with
  | (some ptr, layer) => keep (s.withLayer layer) ptr
  | (none, layer) => (.nothing, s.withLayer layer)

/-- Reallocates the block of a register. After a success the register is empty
until the result is written; after a failure it is empty if the block is
gone. -/
def realloc (s : Session σ) (ptr : Option Register) (size : UInt64) (onFailure : OnFailure)
    (dest : Option Register) : Answer × Session σ :=
  match s.layer.reallocWith (s.registers.read ptr) size onFailure with
  | (.ok result, layer) =>
    let s := ((s.withLayer layer).drop ptr).put (dest <|> ptr) result.pointer
    let (usable, s) := s.usable result.pointer
    (.reallocated result usable, s)
  | (.error err, layer) =>
    let s := s.withLayer layer
    (.failed err, if onFailure = .releaseBlock ∨ size = 0 then s.drop ptr else s)

/-- Reallocates through the zone. -/
def zoneRealloc (s : Session σ) (ptr : Option Register) (size : UInt64)
    (dest : Option Register) : Answer × Session σ :=
  match Zone.realloc s.layer (s.registers.read ptr) size with
  | (some block, layer) => ((s.withLayer layer).drop ptr).keep (dest <|> ptr) block
  | (none, layer) =>
    let s := s.withLayer layer
    (.nothing, if size = 0 then s.drop ptr else s)

/-- An entry of an array of results, as the client finds it. -/
def slot (entry : Option Addr) : BatchSlot :=
  match entry with
  | none => .null
  | some ptr => if ptr = untouched then .untouched else .block ptr

/-- Asks the zone for several blocks. -/
def zoneBatchMalloc (s : Session σ) (size : UInt64) (count : Nat) (hasArray : Bool)
    (dest : Option Register) : Answer × Session σ :=
  let array := List.replicate count (some untouched)
  if hasArray then
    let (filled, array, layer) := Zone.batchMalloc s.layer size array
    let s := (array.take filled).zipIdx.foldl
      (fun s (entry, i) => s.put (dest.map (· ++ toString i)) entry) (s.withLayer layer)
    (.batch filled (array.map slot), s)
  else (.batch 0 (array.map slot), s)

/-- Releases several blocks through the zone. -/
def zoneBatchFree (s : Session σ) (ptrs : List Register) (count : Option Nat)
    (hasArray : Bool) : Answer × Session σ :=
  if hasArray then
    let ptrs := ptrs.take (count.getD ptrs.length)
    let layer := Zone.batchFree s.layer (ptrs.map fun ptr => s.registers.read (some ptr))
    (.nothing, ptrs.foldl (fun s ptr => s.drop (some ptr)) (s.withLayer layer))
  else (.nothing, s)

/-- Asks a zone about itself. -/
def zoneFacts (s : Session σ) (zone : Fin 2) (size : UInt64) (ptr : Option Addr) : ZoneFacts where
  name := Zone.name
  version := Zone.version
  pressureRelief := Zone.pressureRelief size
  check := Zone.check
  locked := Zone.locked
  enumerator := Zone.enumerate
  statistics := Zone.statistics ⟨7, 8, 9, 10⟩
  dischargeSlots := Zone.dischargeSlots
  fromPointer := s.zones[zone].fromPointer ptr
  registered := s.zones[zone].registered

/-- Makes a zone the default one. -/
def installZone (s : Session σ) (zone : Fin 2) : Answer × Session σ :=
  let (result, installed, registry, layer) :=
    s.zones[zone].installAsDefault { s.registry with calls := [] } s.layer
  (.installed result registry.calls registry.default,
    { s with layer, registry, zones := s.zones.set zone installed })

/-- Runs a request that the layer is free for. -/
def run (s : Session σ) : Command → Answer × Session σ
  | .malloc size dest => s.answer (keep · dest) (s.layer.malloc size)
  | .calloc count size dest => s.answer (keep · dest) (s.layer.calloc count size)
  | .strdup text dest => s.answer (keep · dest) (s.layer.strdup text)
  | .memalign alignment size dest =>
    s.answer (keepAligned · alignment size dest) (s.layer.memalign alignment size)
  | .alignedAlloc alignment size dest =>
    s.answer (keepAligned · alignment size dest) (s.layer.alignedAlloc alignment size)
  | .posixMemalign alignment size dest =>
    match s.answer (keepAligned · alignment size dest) (s.layer.posixMemalign alignment size) with
    | (.failed err, s) => (.failedUntouched err, s)
    | answered => answered
  | .valloc size dest =>
    s.answer (keepAligned · s.layer.page.bytes size dest) (s.layer.valloc size)
  | .realloc ptr size onFailure dest => s.realloc ptr size onFailure dest
  | .free ptr => (.nothing, (s.withLayer (s.layer.free (s.registers.read ptr))).drop ptr)
  | .vfree ptr => (.nothing, (s.withLayer (s.layer.vfree (s.registers.read ptr))).drop ptr)
  | .usable ptr =>
    let (usable, s) := s.usable (s.registers.read ptr)
    (.number usable.toNat, s)
  | .goodSize size =>
    let (good, layer) := s.layer.goodSize size
    (.number good.toNat, s.withLayer layer)
  | .config => (.config s.layer.config, s)
  | .fill ptr length seed =>
    let (usable, s) := s.usable (s.registers.read ptr)
    let n := min length usable
    match s.registers.read ptr with
    | none => (.number 0, s)
    | some a => (.number n.toNat, s.withLayer (s.layer.mapMemory (writePattern · a n seed)))
  | .check ptr length seed =>
    let (usable, s) := s.usable (s.registers.read ptr)
    let n := min length usable
    match s.registers.read ptr with
    | none => (.compared 0 none, s)
    | some a => (.compared n (firstMismatch s.layer.heap.memory a n.toNat seed), s)
  | .read ptr offset length =>
    let (usable, s) := s.usable (s.registers.read ptr)
    match s.registers.read ptr with
    | none => (.bytes [], s)
    | some a =>
      (.bytes (readWithin s.layer.heap.memory a offset.toNat length.toNat usable.toNat), s)
  | .drainLog =>
    let (records, log) := s.layer.log.drain
    (.records records, s.withLayer { s.layer with log })
  | .snapshotLog => (.records s.layer.log.snapshot, s)
  | .droppedRecords => (.number s.layer.log.dropped, s)
  | .record event =>
    let (id, log) := s.layer.log.record event
    (.number id.toNat, s.withLayer { s.layer with log })
  | .tryRecord event =>
    let (id, log) := s.layer.log.tryRecord event
    (id.elim .nothing (.number ·.toNat), s.withLayer { s.layer with log })
  | .zoneSize ptr =>
    let (size, layer) := Zone.size s.layer (s.registers.read ptr)
    (.number size.toNat, s.withLayer layer)
  | .zoneMalloc size dest => s.answerSlot (keep · dest) (Zone.malloc s.layer size)
  | .zoneCalloc count size dest => s.answerSlot (keep · dest) (Zone.calloc s.layer count size)
  | .zoneValloc size dest =>
    s.answerSlot (keepAligned · s.layer.page.bytes size dest) (Zone.valloc s.layer size)
  | .zoneMemalign alignment size dest =>
    s.answerSlot (keepAligned · alignment size dest) (Zone.memalign s.layer alignment size)
  | .zoneRealloc ptr size dest => s.zoneRealloc ptr size dest
  | .zoneFree ptr => (.nothing, (s.withLayer (Zone.free s.layer (s.registers.read ptr))).drop ptr)
  | .zoneFreeDefiniteSize ptr size =>
    (.nothing, (s.withLayer (Zone.freeDefiniteSize s.layer (s.registers.read ptr) size)).drop ptr)
  | .zoneGoodSize size =>
    let (good, layer) := Zone.goodSize s.layer size
    (.number good.toNat, s.withLayer layer)
  | .zoneBatchMalloc size count hasArray dest => s.zoneBatchMalloc size count hasArray dest
  | .zoneBatchFree ptrs count hasArray => s.zoneBatchFree ptrs count hasArray
  | .zoneFacts zone size ptr => (.zone (s.zoneFacts zone size (s.registers.read ptr)), s)
  | .installZone zone => s.installZone zone
  | .forkPrepare fork =>
    match s.forks[fork].prepare s.layer with
    | none => (.wouldBlock, s)
    | some (coordinator, layer) =>
      (.fork coordinator, { s with layer, forks := s.forks.set fork coordinator })
  | .forkResume fork side =>
    let (coordinator, layer) := s.forks[fork].resume side s.layer
    (.fork coordinator, { s with layer, forks := s.forks.set fork coordinator })
  | .forkState fork => (.fork s.forks[fork], s)

/-- Whether a request goes through while a coordinator is prepared. -/
def passesWhileHeld : Command → Bool
  | .forkResume _ _ | .forkState _ | .tryRecord _ => true
  | _ => false

/-- Runs a request, if it need not wait. -/
def request (s : Session σ) (c : Command) : Answer × Session σ :=
  if s.isHeld && !passesWhileHeld c then (.wouldBlock, s) else s.run c

end Session

end MallocLayer.Client
