import MallocLayer.Proofs.HeaderHeapContract
import MallocLayer.Proofs.Tracing
import MallocLayer.SelfCheck.Run

/-!
# Checks over a projected system allocator

A self-check reaches its system allocator through the layer and the header heap
only. If the state of the system allocator is projected to another one that answers
alike, then the checks do over the second what they do over the first (`all_follow`).

There are two uses. A watched system allocator is projected to the one that is
watched, so watching makes no difference to a self-check. And a watched system
allocator that remembers earlier refusals is projected from one that does not, so
refusals are never forgotten (`refused_suffix`).
-/

namespace MallocLayer

variable {α β γ : Type}

/-! ## 1. Projected system allocators -/

/-- The heap with another state of the system allocator. -/
def Heap.carry (g : α → β) (h : Heap α) : Heap β := ⟨g h.state, h.memory⟩

/-- The function commutes with the system allocator. -/
structure SystemAllocator.Projects [SystemAllocator α] [SystemAllocator β] (g : α → β) : Prop where
  alloc : ∀ h layout, alloc (Heap.carry g h) layout = (alloc h layout).map id (Heap.carry g)
  dealloc : ∀ h start layout,
    dealloc (Heap.carry g h) start layout = (dealloc h start layout).carry g

/-- The header heap over the projected system allocator. -/
def HeaderHeap.carry (g : α → β) (s : HeaderHeap α) : HeaderHeap β :=
  ⟨g s.system, s.locked, s.allocations, s.deallocations⟩

/-- The layer over the projected system allocator. -/
def Layer.over (g : α → β) (s : Layer (HeaderHeap α)) : Layer (HeaderHeap β) :=
  s.along (Heap.carry (HeaderHeap.carry g))

/-- Earlier refusals are remembered. -/
def Watched.withPast (past : List Layout) (w : Watched α) : Watched α :=
  { w with refused := w.refused ++ past }

section Projected

variable [SystemAllocator α] [SystemAllocator β] {g : α → β}

theorem HeaderHeap.projects (proj : SystemAllocator.Projects g) :
    Primitive.Projects (Heap.carry (HeaderHeap.carry g)) where
  allocate h size := by
    show allocate _ size = (allocate h size).map id _
    unfold allocate
    rcases capacity? size with _ | capacity
    · rfl
    · dsimp only
      rcases layout? capacity with _ | layout
      · rfl
      · have answer := proj.alloc (systemHeap h) layout
        dsimp only
        rw [show systemHeap (Heap.carry (HeaderHeap.carry g) h) = (systemHeap h).carry g from rfl,
          answer]
        rcases SystemAllocator.alloc (systemHeap h) layout with ⟨_ | start, below⟩
        · rfl
        · rfl
  deallocate h p := by
    show deallocate _ p = Heap.carry _ (deallocate h p)
    unfold deallocate
    rw [show (Heap.carry (HeaderHeap.carry g) h).memory = h.memory from rfl]
    rcases layout? (capacityOf h.memory p) with _ | layout
    · rfl
    · dsimp only
      rw [show systemHeap (Heap.carry (HeaderHeap.carry g) h) = (systemHeap h).carry g from rfl,
        proj.dealloc (systemHeap h)]
      rfl
  usableSize _ _ := rfl
  acceptsInterior _ := rfl
  mapMemory _ _ := rfl

/-- The layer over the projected system allocator is a projected layer. -/
def Layer.carried (proj : SystemAllocator.Projects g) :
    Layer.Projection (HeaderHeap α) (HeaderHeap β) :=
  .ofHeaps (HeaderHeap.projects proj)

end Projected

namespace Watched

variable [SystemAllocator α]

/-- Without the watch, the system allocator is the one that was watched. -/
theorem inner_projects : SystemAllocator.Projects (Watched.inner (α := α)) where
  alloc h layout := by
    rcases answer : SystemAllocator.alloc (innerHeap h) layout with ⟨_ | start, inner⟩
    · rw [alloc_refused answer]
      exact answer
    · rw [alloc_granted answer]
      exact answer
  dealloc _ _ _ := rfl

theorem withPast_projects (past : List Layout) :
    SystemAllocator.Projects (withPast (α := α) past) where
  alloc h layout := by
    rcases answer : SystemAllocator.alloc (innerHeap h) layout with ⟨_ | start, inner⟩
    · rw [alloc_refused answer]
      exact alloc_refused (h := h.carry (withPast past)) answer
    · rw [alloc_granted answer]
      exact alloc_granted (h := h.carry (withPast past)) answer
  dealloc _ _ _ := rfl

end Watched

/-! ## 2. Projected checks -/

namespace SelfCheck

/-- The second check does over the projected system allocator what the first does. -/
def Check.Follows (g : α → β) (x : Check α γ) (y : Check β γ) : Prop :=
  ∀ s, y.run (s.over g) = Prod.map id (Layer.over g) (x.run s)

theorem Check.run_bind {δ : Type} (x : Check α γ) (k : γ → Check α δ) (s : Layer (HeaderHeap α)) :
    (x >>= k).run s = match x.run s with
      | (.ok c, t) => (k c).run t
      | (.error failure, t) => (.error failure, t) := by
  show (match x.run s with | (result, t) => ExceptT.bindCont k result t) = _
  rcases x.run s with ⟨_ | _, t⟩
  · rfl
  · rfl

namespace Check.Follows

variable {δ : Type} {g : α → β} {x : Check α γ} {y : Check β γ}

theorem pure (c : γ) : Follows g (Pure.pure c : Check α γ) (Pure.pure c : Check β γ) := fun _ => rfl

theorem throw (failure : Failure) :
    Follows g (throwThe Failure failure : Check α γ) (throwThe Failure failure : Check β γ) :=
  fun _ => rfl

theorem bind {k : γ → Check α δ} {l : γ → Check β δ} (first : Follows g x y)
    (later : ∀ c, Follows g (k c) (l c)) : Follows g (x >>= k) (y >>= l) := by
  intro s
  rw [run_bind, run_bind, first s]
  rcases x.run s with ⟨_ | c, t⟩
  · rfl
  · exact later c t

theorem use {f : Layer (HeaderHeap α) → γ × Layer (HeaderHeap α)}
    {f' : Layer (HeaderHeap β) → γ × Layer (HeaderHeap β)}
    (alike : ∀ s, f' (s.over g) = Prod.map id (Layer.over g) (f s)) :
    Follows g (Check.use f) (Check.use f') :=
  fun s => congrArg (Prod.map Except.ok id) (alike s)

theorem look {f : Layer (HeaderHeap α) → γ} {f' : Layer (HeaderHeap β) → γ}
    (alike : ∀ s, f' (s.over g) = f s) : Follows g (Check.look f) (Check.look f') :=
  use fun s => congrArg (·, s.over g) (alike s)

theorem need {call : String}
    {f : Layer (HeaderHeap α) → Except AllocError γ × Layer (HeaderHeap α)}
    {f' : Layer (HeaderHeap β) → Except AllocError γ × Layer (HeaderHeap β)}
    (alike : ∀ s, f' (s.over g) = Prod.map id (Layer.over g) (f s)) :
    Follows g (Check.need call f) (Check.need call f') := by
  refine (use alike).bind fun result => ?_
  cases result with
  | ok c => exact pure c
  | error err => exact throw _

theorem ensure (condition : Bool) (detail : String) :
    Follows g (Check.ensure condition detail) (Check.ensure condition detail) := by
  cases condition with
  | true => exact pure ()
  | false => exact throw _

theorem holds (ptr : Addr) (n : Nat) (byte : UInt8) :
    Follows g (Check.holds ptr n byte) (Check.holds ptr n byte) :=
  look fun s =>
    have same : (s.over g).heap.memory = s.heap.memory := rfl
    congrArg (fun m : Memory => (m.readRange ptr n).all (· == byte)) same

theorem live : Follows g (Check.live (α := α)) (Check.live (α := β)) := look fun _ => rfl

variable [SystemAllocator α] [SystemAllocator β]

section Operations

variable (proj : SystemAllocator.Projects g)
include proj

theorem malloc (size : UInt64) : Follows g (Check.malloc size) (Check.malloc size) :=
  need fun s => Layer.project_malloc (Layer.carried proj) s size

theorem realloc (ptr : Option Addr) (size : UInt64) :
    Follows g (Check.realloc ptr size) (Check.realloc ptr size) :=
  need fun s => Layer.project_reallocWith (Layer.carried proj) s ptr size .keepBlock

theorem usable (ptr : Option Addr) : Follows g (Check.usable ptr) (Check.usable ptr) :=
  use fun s => Layer.project_usableSize (Layer.carried proj) s ptr

theorem release (ptr : Option Addr) : Follows g (Check.release ptr) (Check.release ptr) :=
  use fun s => congrArg ((), ·) (Layer.project_free (Layer.carried proj) s ptr)

theorem fill (ptr : Addr) (n : UInt64) (byte : UInt8) :
    Follows g (Check.fill ptr n byte) (Check.fill ptr n byte) :=
  use fun s => congrArg ((), ·) (Layer.project_mapMemory (Layer.carried proj) s (·.fill ptr n byte))

end Operations

end Check.Follows

/-! ## 3. The scenarios -/

end SelfCheck

namespace Layer

/-- A layer under the null convention over the system allocator below another layer. -/
def beside (s : Layer (HeaderHeap α)) : Layer (HeaderHeap α) :=
  .ofHeap ⟨{ system := s.heap.state.system }, s.heap.memory⟩ s.page { zeroSize := .returnNull }

/-- The layer with the system allocator and the memory that another one left. -/
def adopt (s inner : Layer (HeaderHeap α)) : Layer (HeaderHeap α) :=
  { s with heap := ⟨{ s.heap.state with system := inner.heap.state.system }, inner.heap.memory⟩ }

/-- A block is allocated, and reallocated to size zero. -/
def zeroRound [SystemAllocator α] (s : Layer (HeaderHeap α)) :
    Except SelfCheck.Failure Reallocated × Layer (HeaderHeap α) :=
  let (p, s) := s.malloc 64
  match p with
  | .error err => (.error (.ofAlloc "malloc(64)" err), s)
  | .ok p =>
    let (r, s) := s.realloc (some p) 0
    (r.mapError (.ofAlloc "realloc(p, 0)"), s)

end Layer

namespace SelfCheck

/-- The check of the null convention, once it has looked at the layer. -/
def nullConvention [SystemAllocator α] (outer : Layer (HeaderHeap α)) : Check α Unit := do
  Check.use fun s => ((), s.adopt outer.beside.zeroRound.2)
  match outer.beside.zeroRound.1 with
  | .ok r =>
    Check.ensure (r == .released && outer.beside.zeroRound.2.heap.state.live == 0)
      s!"null convention gave {Detail.reallocated r}"
  | .error failure => throw failure

namespace Scenario

open Check

/-- The check looks at the layer first. -/
theorem zeroReleasesUnderNullConvention_run [SystemAllocator α]
    (s : Layer (HeaderHeap α)) : zeroReleasesUnderNullConvention.run s = (nullConvention s).run s := by
  have looked : (Check.look (α := α) id).run s = (.ok s, s) := rfl
  unfold zeroReleasesUnderNullConvention
  rw [Check.run_bind, looked]
  unfold nullConvention
  dsimp only [id]
  rfl

variable {g : α → β}

theorem zoneRegistersOnce_follows :
    Follows g (zoneRegistersOnce (α := α)) (zoneRegistersOnce (α := β)) := by
  have install (zone : Zone) (registry : ZoneRegistry) (s : Layer (HeaderHeap α)) :
      zone.installAsDefault registry (s.over g) =
        (zone.installAsDefault registry s).map id (Prod.map id (Prod.map id (Layer.over g))) := by
    unfold Zone.installAsDefault
    cases zone.registered with
    | true => rfl
    | false => rfl
  refine (Follows.use fun s => ?_).bind fun first => (Follows.use fun s => ?_).bind fun again => ?_
  · rw [install]
    rfl
  · rw [install]
    rfl
  · exact Follows.ensure _ _

variable [SystemAllocator α] [SystemAllocator β]

theorem resume_follows (c : Fork.Coordinator) (side : Fork.Side) :
    Follows g (resume (α := α) c side) (resume (α := β) c side) := by
  refine Follows.use fun s => ?_
  unfold Fork.Coordinator.resume
  cases c.phase with
  | idle => rfl
  | prepared => rfl

theorem prepare_follows (c : Fork.Coordinator) :
    Follows g (prepare (α := α) c) (prepare (α := β) c) := by
  refine (Follows.use fun s => ?_).bind fun result => ?_
  · unfold Fork.Coordinator.prepare
    have same : (s.over g).log = s.log := rfl
    rw [same]
    cases s.log.frozen with
    | true => rfl
    | false => rfl
  · cases result with
    | none => exact Follows.throw _
    | some c => exact Follows.pure c

variable (proj : SystemAllocator.Projects g)
include proj

theorem shrinkStaysInPlace_follows :
    Follows g (shrinkStaysInPlace (α := α)) (shrinkStaysInPlace (α := β)) := by
  refine (Follows.malloc proj 200).bind fun p => ?_
  refine (Follows.usable proj (some p)).bind fun u => ?_
  refine (Follows.realloc proj (some p) _).bind fun r => ?_
  refine (Follows.release proj r.pointer).bind fun _ => ?_
  exact Follows.ensure _ _

theorem deepShrinkMoves_follows :
    Follows g (deepShrinkMoves (α := α)) (deepShrinkMoves (α := β)) := by
  refine (Follows.malloc proj 1024).bind fun p => ?_
  refine (Follows.realloc proj (some p) 16).bind fun r => ?_
  refine (Follows.usable proj r.pointer).bind fun u => ?_
  refine (Follows.release proj r.pointer).bind fun _ => ?_
  exact Follows.ensure _ _

theorem growthIsAmortized_follows :
    Follows g (growthIsAmortized (α := α)) (growthIsAmortized (α := β)) := by
  refine (Follows.malloc proj 256).bind fun p => ?_
  refine (Follows.usable proj (some p)).bind fun u => ?_
  refine (Follows.fill proj p u 0x5a).bind fun _ => ?_
  refine (Follows.realloc proj (some p) (u + 1)).bind fun r => ?_
  refine (Follows.usable proj r.pointer).bind fun grown => ?_
  refine (Follows.holds _ _ _).bind fun kept => ?_
  refine (Follows.release proj r.pointer).bind fun _ => ?_
  exact Follows.ensure _ _

theorem nullIsMalloc_follows : Follows g (nullIsMalloc (α := α)) (nullIsMalloc (α := β)) := by
  refine (Follows.realloc proj none 48).bind fun r => ?_
  refine (Follows.usable proj r.pointer).bind fun u => ?_
  refine (Follows.release proj r.pointer).bind fun _ => ?_
  exact Follows.ensure _ _

theorem callocRejectsOverflow_follows :
    Follows g (callocRejectsOverflow (α := α)) (callocRejectsOverflow (α := β)) := by
  refine (Follows.look fun _ => rfl).bind fun before => ?_
  refine (Follows.use fun s => Layer.project_calloc (Layer.carried proj) s _ 3).bind
    fun result => ?_
  refine (Follows.look fun _ => rfl).bind fun after => ?_
  exact Follows.ensure _ _

theorem callocZeroFills_follows :
    Follows g (callocZeroFills (α := α)) (callocZeroFills (α := β)) := by
  refine (Follows.malloc proj 4096).bind fun dirty => ?_
  refine (Follows.fill proj dirty 4096 0xff).bind fun _ => ?_
  refine (Follows.release proj (some dirty)).bind fun _ => ?_
  refine (Follows.need fun s => Layer.project_calloc (Layer.carried proj) s 64 64).bind fun p => ?_
  refine (Follows.holds p 4096 0).bind fun zeroed => ?_
  refine (Follows.release proj (some p)).bind fun _ => ?_
  exact Follows.ensure _ _

theorem honorsAlignment_follows (alignment size : UInt64) :
    Follows g (honorsAlignment (α := α) alignment size)
      (honorsAlignment (α := β) alignment size) := by
  refine (Follows.need fun s =>
    Layer.project_memalign (Layer.carried proj) s alignment size).bind fun p => ?_
  refine (Follows.usable proj (some p)).bind fun u => ?_
  refine (Follows.release proj (some p)).bind fun _ => ?_
  exact (Follows.ensure _ _).bind fun _ => Follows.ensure _ _

theorem forM_honorsAlignment_follows (requests : List (UInt64 × UInt64)) :
    Follows g (requests.forM fun (alignment, size) => honorsAlignment (α := α) alignment size)
      (requests.forM fun (alignment, size) => honorsAlignment (α := β) alignment size) := by
  induction requests with
  | nil => exact Follows.pure _
  | cons request rest ih =>
    exact (honorsAlignment_follows proj request.1 request.2).bind fun _ => ih

theorem memalignHonorsAlignment_follows :
    Follows g (memalignHonorsAlignment (α := α)) (memalignHonorsAlignment (α := β)) := by
  refine (forM_honorsAlignment_follows proj alignedRequests).bind fun _ => ?_
  refine (Follows.look fun _ => rfl).bind fun tracked => ?_
  exact Follows.ensure _ _

theorem posixMemalignReportsEinval_follows :
    Follows g (posixMemalignReportsEinval (α := α)) (posixMemalignReportsEinval (α := β)) := by
  refine (Follows.use fun s => Layer.project_posixMemalign (Layer.carried proj) s 24 64).bind
    fun refused => ?_
  refine (Follows.ensure _ _).bind fun _ => ?_
  refine (Follows.use fun s => Layer.project_posixMemalign (Layer.carried proj) s 64 100).bind
    fun result => ?_
  exact (Follows.ensure _ _).bind fun _ => Follows.release proj _

theorem alignedAllocRejectsOverflow_follows :
    Follows g (alignedAllocRejectsOverflow (α := α)) (alignedAllocRejectsOverflow (α := β)) := by
  refine (Follows.use fun s => Layer.project_alignedAlloc (Layer.carried proj) s 4096 _).bind
    fun refused => ?_
  exact Follows.ensure _ _

theorem vallocIsPageAligned_follows :
    Follows g (vallocIsPageAligned (α := α)) (vallocIsPageAligned (α := β)) := by
  refine (Follows.look fun _ => rfl).bind fun page => ?_
  refine (Follows.need fun s =>
    Layer.project_memalign (Layer.carried proj) s s.page.bytes 100).bind fun p => ?_
  refine (Follows.release proj (some p)).bind fun _ => ?_
  exact Follows.ensure _ _

theorem strdupCopiesTerminator_follows :
    Follows g (strdupCopiesTerminator (α := α)) (strdupCopiesTerminator (α := β)) := by
  refine (Follows.need fun s => Layer.project_strdup (Layer.carried proj) s _).bind fun p => ?_
  refine (Follows.usable proj (some p)).bind fun u => ?_
  refine (Follows.look fun _ => rfl).bind fun copy => ?_
  refine (Follows.release proj (some p)).bind fun _ => ?_
  exact Follows.ensure _ _

theorem goodSizeReportsCapacity_follows :
    Follows g (goodSizeReportsCapacity (α := α)) (goodSizeReportsCapacity (α := β)) := by
  refine Follows.live.bind fun before => ?_
  refine (Follows.use fun s => Layer.project_goodSize (Layer.carried proj) s 100).bind
    fun good => ?_
  refine Follows.live.bind fun after => ?_
  exact Follows.ensure _ _

theorem forkBracketPairsLock_follows :
    Follows g (forkBracketPairsLock (α := α)) (forkBracketPairsLock (α := β)) := by
  refine (prepare_follows {}).bind fun c => ?_
  refine (resume_follows c .parent).bind fun c => ?_
  refine (prepare_follows c).bind fun c => ?_
  refine (resume_follows c .child).bind fun c => ?_
  refine (resume_follows c .parent).bind fun c => ?_
  refine (Follows.malloc proj 32).bind fun p => ?_
  refine (Follows.release proj (some p)).bind fun _ => ?_
  exact Follows.ensure _ _

theorem allUsable_follows (blocks : List (Option Addr)) (size : UInt64) :
    Follows g (allUsable (α := α) blocks size) (allUsable (α := β) blocks size) := by
  induction blocks with
  | nil => exact Follows.pure _
  | cons block rest ih =>
    refine Follows.bind (x := do return block.isSome && size ≤ (← usable block)) ?_ fun large => ?_
    · exact (Follows.usable proj block).bind fun u => Follows.pure _
    · cases large with
      | true => exact ih
      | false => exact Follows.pure _

theorem zoneBatchRoundTrip_follows :
    Follows g (zoneBatchRoundTrip (α := α)) (zoneBatchRoundTrip (α := β)) := by
  refine Follows.live.bind fun before => ?_
  refine (Follows.use fun s => ?_).bind fun batch => ?_
  · have batch := Layer.project_batchMalloc (Layer.carried proj) s 40 (List.replicate 16 none)
    exact congrArg (fun r : Nat × List (Option Addr) × Layer (HeaderHeap β) =>
      ((r.1, r.2.1), r.2.2)) batch
  refine (allUsable_follows proj _ 40).bind fun allLive => ?_
  refine (Follows.use fun s => ?_).bind fun _ => ?_
  · exact congrArg ((), ·) (Layer.project_batchFree (Layer.carried proj) s (batch.2.take batch.1))
  refine Follows.live.bind fun after => ?_
  exact Follows.ensure _ _

theorem zeroRound_over (s : Layer (HeaderHeap α)) :
    (s.over g).zeroRound = s.zeroRound.map id (Layer.over g) := by
  have allocated : (s.over g).malloc 64 = (s.malloc 64).map id (Layer.over g) :=
    Layer.project_malloc (Layer.carried proj) s 64
  unfold Layer.zeroRound
  rw [allocated]
  rcases s.malloc 64 with ⟨err | p, t⟩
  · rfl
  · have resized : (t.over g).realloc (some p) 0 = (t.realloc (some p) 0).map id (Layer.over g) :=
      Layer.project_reallocWith (Layer.carried proj) t (some p) 0 .keepBlock
    dsimp only [Prod.map, id]
    rw [resized]
    rfl

theorem nullConvention_follows (outer : Layer (HeaderHeap α)) :
    Follows g (nullConvention outer) (nullConvention (outer.over g)) := by
  have round : (outer.over g).beside.zeroRound = outer.beside.zeroRound.map id (Layer.over g) :=
    zeroRound_over proj outer.beside
  unfold nullConvention
  rw [round]
  refine (Follows.use fun s => rfl).bind fun _ => ?_
  dsimp only [Prod.map, id]
  cases outer.beside.zeroRound.1 with
  | error failure => exact Follows.throw failure
  | ok r => exact Follows.ensure _ _

theorem zeroReturnsMinimalObject_follows :
    Follows g (zeroReturnsMinimalObject (α := α)) (zeroReturnsMinimalObject (α := β)) := by
  refine (Follows.malloc proj 64).bind fun p => ?_
  refine (Follows.realloc proj (some p) 0).bind fun r => ?_
  refine (Follows.usable proj r.pointer).bind fun u => ?_
  refine (Follows.release proj r.pointer).bind fun _ => ?_
  refine (Follows.ensure _ _).bind fun _ => ?_
  intro s
  rw [zeroReleasesUnderNullConvention_run s, zeroReleasesUnderNullConvention_run (s.over g)]
  exact nullConvention_follows proj s s

end Scenario

/-! ## 4. Many scenarios -/

/-- The same scenario over a projected system allocator. -/
structure Scenario.Matches (g : α → β) (x : Scenario α) (y : Scenario β) : Prop where
  name : x.name = y.name
  symbol : x.symbol = y.symbol
  check : Check.Follows g x.check y.check

/-- The results of scenarios that run one after the other, and the layer after them. -/
def checkAll : List (Scenario α) → Layer (HeaderHeap α) →
    List (Except Failure Unit) × Layer (HeaderHeap α)
  | [], s => ([], s)
  | scenario :: rest, s =>
    let (result, s) := scenario.check.run s
    (checkAll rest s).map (result :: ·) id

theorem checkAll_over {g : α → β} {xs : List (Scenario α)} {ys : List (Scenario β)}
    (same : List.Forall₂ (Scenario.Matches g) xs ys) (s : Layer (HeaderHeap α)) :
    checkAll ys (s.over g) = (checkAll xs s).map id (Layer.over g) := by
  induction same generalizing s with
  | nil => rfl
  | @cons x y xs ys first rest ih =>
    have answer := first.check s
    unfold checkAll
    rw [answer]
    exact congrArg (Prod.map ((x.check.run s).1 :: ·) id) (ih (x.check.run s).2)

section Selected

variable [SystemAllocator α] [SystemAllocator β] {g : α → β}

/-- All scenarios are the same over both. -/
theorem all_follow (proj : SystemAllocator.Projects g) :
    List.Forall₂ (Scenario.Matches g) (Scenario.all α) (Scenario.all β) := by
  open Scenario in
  exact
    .cons ⟨rfl, rfl, shrinkStaysInPlace_follows proj⟩ <|
    .cons ⟨rfl, rfl, deepShrinkMoves_follows proj⟩ <|
    .cons ⟨rfl, rfl, growthIsAmortized_follows proj⟩ <|
    .cons ⟨rfl, rfl, zeroReturnsMinimalObject_follows proj⟩ <|
    .cons ⟨rfl, rfl, nullIsMalloc_follows proj⟩ <|
    .cons ⟨rfl, rfl, callocRejectsOverflow_follows proj⟩ <|
    .cons ⟨rfl, rfl, callocZeroFills_follows proj⟩ <|
    .cons ⟨rfl, rfl, memalignHonorsAlignment_follows proj⟩ <|
    .cons ⟨rfl, rfl, posixMemalignReportsEinval_follows proj⟩ <|
    .cons ⟨rfl, rfl, alignedAllocRejectsOverflow_follows proj⟩ <|
    .cons ⟨rfl, rfl, vallocIsPageAligned_follows proj⟩ <|
    .cons ⟨rfl, rfl, strdupCopiesTerminator_follows proj⟩ <|
    .cons ⟨rfl, rfl, goodSizeReportsCapacity_follows proj⟩ <|
    .cons ⟨rfl, rfl, forkBracketPairsLock_follows proj⟩ <|
    .cons ⟨rfl, rfl, zoneBatchRoundTrip_follows proj⟩ <|
    .cons ⟨rfl, rfl, zoneRegistersOnce_follows⟩ .nil

theorem selected_follow (proj : SystemAllocator.Projects g) (filter : Option String) :
    List.Forall₂ (Scenario.Matches g) (selected α filter) (selected β filter) := by
  refine List.rel_filter (fun x y same => ?_) (all_follow proj)
  dsimp only
  rw [same.name]

end Selected

end SelfCheck

/-! ## 5. Refusals are remembered -/

namespace Watched

/-- What was refused before was refused after, if earlier refusals make no difference to what is
done in between. -/
theorem refused_suffix
    {f : Layer (HeaderHeap (Watched α)) → γ × Layer (HeaderHeap (Watched α))}
    (blind : ∀ past s, f (s.over (withPast past)) = (f s).map id (Layer.over (withPast past)))
    (s : Layer (HeaderHeap (Watched α))) :
    s.heap.state.system.refused <:+ (f s).2.heap.state.system.refused := by
  have answer := blind s.heap.state.system.refused
    (s.over fun w : Watched α => { w with refused := [] })
  exact ⟨_, (congrArg (fun r => r.2.heap.state.system.refused) answer).symm⟩

end Watched

end MallocLayer
