import MallocLayer.Proofs.Program

/-!
# Projections

A layer may carry more than its answers depend on. Its primitive may keep an account of
the calls that were made to it, and the layer itself keeps a log. A projection forgets
such a surplus: it takes the layer to another one so that whatever the operations do
to a layer, they do the same to its projection. The projected layer then answers every
request as the layer does, and ends up as the projection of where the layer ends up.
-/

namespace MallocLayer

variable {σ τ : Type}

/-- The function commutes with what a layer does to its heap. -/
structure Primitive.Projects [Primitive σ] [Primitive τ] (f : Heap σ → Heap τ) : Prop where
  allocate : ∀ h size, allocate (f h) size = (allocate h size).map id f
  deallocate : ∀ h p, deallocate (f h) p = f (deallocate h p)
  usableSize : ∀ h p, usableSize (f h) p = (usableSize h p).map id f
  acceptsInterior : ∀ h, acceptsInterior (f h).state = acceptsInterior h.state
  mapMemory : ∀ h g, (f h).mapMemory g = f (h.mapMemory g)

theorem Primitive.Projects.refl [Primitive σ] : Primitive.Projects (id : Heap σ → Heap σ) :=
  ⟨fun _ _ => rfl, fun _ _ => rfl, fun _ _ => rfl, fun _ => rfl, fun _ _ => rfl⟩

namespace Layer

/-- What a projection does to the parts of a layer, all but the side table, which it
keeps. -/
structure Projection (σ τ : Type) [Primitive σ] [Primitive τ] where
  heap : Heap σ → Heap τ
  log : LifecycleLog → LifecycleLog
  config : Config → Config
  projects : Primitive.Projects heap
  zeroSize : ∀ c, (config c).zeroSize = c.zeroSize
  /-- What is traced, if anything is, makes no difference that the projection keeps. -/
  trace : ∀ c l e, (if (config c).trace then ((log l).record e).2 else log l) =
    log (if c.trace then (l.record e).2 else l)

variable [Primitive σ] [Primitive τ]

/-- A projection of heaps is one of layers. -/
def Projection.ofHeaps {f : Heap σ → Heap τ} (proj : Primitive.Projects f) :
    Projection σ τ where
  heap := f
  log := id
  config := id
  projects := proj
  zeroSize _ := rfl
  trace _ _ _ := rfl

/-- The projected layer. -/
def project (π : Projection σ τ) (s : Layer σ) : Layer τ where
  heap := π.heap s.heap
  page := s.page
  origins := s.origins
  log := π.log s.log
  config := π.config s.config

variable (π : Projection σ τ) (s : Layer σ)

@[simp] theorem project_origins : (s.project π).origins = s.origins := rfl

theorem project_zeroSize : (s.project π).config.zeroSize = s.config.zeroSize :=
  π.zeroSize s.config

omit [Primitive σ] in
theorem trace_eq (e : Lifecycle.Event) :
    s.trace e = { s with log := if s.config.trace then (s.log.record e).2 else s.log } := by
  unfold trace
  split <;> rfl

theorem project_trace (e : Lifecycle.Event) : (s.project π).trace e = (s.trace e).project π := by
  rw [trace_eq, trace_eq]
  exact congrArg (Layer.mk _ _ _ · _) (π.trace s.config s.log e)

/-! ## 1. The operations without a policy -/

theorem project_mapMemory (g : Memory → Memory) :
    (s.project π).mapMemory g = (s.mapMemory g).project π := by
  simp only [mapMemory, project, π.projects.mapMemory]

theorem project_deallocate (block : Addr) :
    (s.project π).deallocate block = (s.deallocate block).project π := by
  simp only [deallocate, project, π.projects.deallocate]

theorem project_malloc (size : UInt64) :
    (s.project π).malloc size = (s.malloc size).map id (project π) := by
  simp only [malloc, project, π.projects.allocate]
  rcases Primitive.allocate s.heap size with ⟨_ | block, heap⟩ <;> rfl

theorem project_free (ptr : Option Addr) : (s.project π).free ptr = (s.free ptr).project π := by
  cases ptr with
  | none => rfl
  | some p => exact project_deallocate π { s with origins := (s.origins.take p).2 } _

theorem project_usableSize (ptr : Option Addr) :
    (s.project π).usableSize ptr = (s.usableSize ptr).map id (project π) := by
  cases ptr with
  | none => rfl
  | some p =>
    simp only [usableSize, project, π.projects.usableSize]
    rfl

theorem project_goodSize (size : UInt64) :
    (s.project π).goodSize size = (s.goodSize size).map id (project π) := by
  unfold goodSize
  rw [project_malloc π]
  rcases s.malloc size with ⟨_ | probe, s'⟩
  · rfl
  · simp only [Prod.map, id, project, π.projects.usableSize, deallocate, π.projects.deallocate]

theorem project_calloc (count size : UInt64) :
    (s.project π).calloc count size = (s.calloc count size).map id (project π) := by
  unfold calloc
  rcases Word.mul? count size with _ | total
  · exact Prod.ext rfl (project_trace π s _)
  · simp only [project_malloc π]
    rcases s.malloc total with ⟨_ | block, s'⟩
    · rfl
    · exact Prod.ext rfl (project_mapMemory π s' _)

theorem project_strdup (text : CString) :
    (s.project π).strdup text = (s.strdup text).map id (project π) := by
  unfold strdup
  rw [project_malloc π]
  rcases s.malloc (UInt64.ofNat text.stored.size) with ⟨_ | block, s'⟩
  · rfl
  · exact Prod.ext rfl (project_mapMemory π s' _)

/-! ## 2. Aligned allocation -/

theorem project_attempt (alignment size : UInt64) :
    (s.project π).attempt alignment size = (s.attempt alignment size).map id (project π) := by
  unfold attempt
  rw [project_malloc π]
  rcases s.malloc size with ⟨_ | block, s'⟩
  · rfl
  · by_cases aligned : isAligned block alignment
    · simp [aligned]
    · simp [aligned, project_deallocate π]

theorem project_attemptInside (alignment total : UInt64) :
    (s.project π).attemptInside alignment total =
      (s.attemptInside alignment total).map id (project π) := by
  unfold attemptInside
  rw [project_malloc π]
  rcases s.malloc total with ⟨_ | block, s'⟩
  · rfl
  · by_cases same : alignUp block alignment = block
    · simp [same]
    · have accepts : (s'.project π).acceptsInterior = s'.acceptsInterior :=
        π.projects.acceptsInterior s'.heap
      simp only [Prod.map, id, same, if_false, accepts, project_origins]
      generalize (if s'.acceptsInterior then (true, s'.origins)
        else s'.origins.insert (alignUp block alignment) block) = answer
      rcases answer with ⟨_ | _, origins⟩
      · simp only [Bool.false_eq_true, if_false, ← project_trace, ← project_deallocate π]
        rfl
      · simp only [if_true, ← project_trace]
        rfl

theorem project_memalignPadded (alignment size : UInt64) :
    (s.project π).memalignPadded alignment size =
      (s.memalignPadded alignment size).map id (project π) := by
  unfold memalignPadded
  rcases paddedSize size alignment with err | padded
  · rfl
  · simp only [project_attempt π]
    rcases s.attempt alignment padded with ⟨_ | _ | _, s'⟩
    · rfl
    · exact Prod.ext rfl (project_trace π s' _)
    · simp only [Prod.map, id]
      rcases overAllocation padded alignment with err | total
      · rfl
      · exact project_attemptInside π s' alignment total

theorem project_memalign (alignment size : UInt64) :
    (s.project π).memalign alignment size = (s.memalign alignment size).map id (project π) := by
  unfold memalign
  rcases normalizeAlignment alignment with err | power
  · rfl
  · simp only [project_attempt π]
    rcases s.attempt power size with ⟨_ | _ | _, s'⟩
    · rfl
    · rfl
    · exact project_memalignPadded π s' power size

theorem project_alignedAlloc (alignment size : UInt64) :
    (s.project π).alignedAlloc alignment size =
      (s.alignedAlloc alignment size).map id (project π) := by
  unfold alignedAlloc
  rcases validateAlignment alignment with err | power
  · rfl
  · dsimp only
    rcases Word.nextMultiple? size power with _ | rounded
    · rfl
    · exact project_memalign π s power rounded

theorem project_posixMemalign (alignment size : UInt64) :
    (s.project π).posixMemalign alignment size =
      (s.posixMemalign alignment size).map id (project π) := by
  unfold posixMemalign
  rcases validateAlignment alignment with err | power
  · exact Prod.ext rfl (project_trace π s _)
  · simp only [project_memalign π]
    rcases s.memalign power size with ⟨_ | block, s'⟩
    · exact Prod.ext rfl (project_trace π s' _)
    · rfl

/-! ## 3. Reallocation -/

theorem project_reallocZero (ptr : Addr) :
    (s.project π).reallocZero ptr = (s.reallocZero ptr).map id (project π) := by
  simp only [reallocZero, project_free π, project_trace]
  generalize (s.free (some ptr)).trace _ = t
  rw [project_zeroSize]
  rcases t.config.zeroSize with _ | _
  · simp only [project_malloc π]
    rcases t.malloc 1 with ⟨_ | block, t'⟩ <;> rfl
  · rfl

theorem project_reallocMove (ptr : Addr) (old size : UInt64) (onFailure : OnFailure) :
    (s.project π).reallocMove ptr old size onFailure =
      (s.reallocMove ptr old size onFailure).map id (project π) := by
  simp only [reallocMove, project_malloc π]
  rcases s.malloc (moveTarget old size) with ⟨_ | fresh, s'⟩
  · simp only [Prod.map, id]
    split
    · rw [project_free π, project_trace]
    · rw [project_trace]
  · simp only [Prod.map, id, project_mapMemory π, project_free π, project_trace]

theorem project_reallocWith (ptr : Option Addr) (size : UInt64) (onFailure : OnFailure) :
    (s.project π).reallocWith ptr size onFailure =
      (s.reallocWith ptr size onFailure).map id (project π) := by
  cases ptr with
  | none =>
    rw [reallocWith_none, reallocWith_none, project_malloc π]
    rfl
  | some p =>
    simp only [reallocWith, project_usableSize π]
    split
    · exact project_reallocZero π s p
    · simp only [Prod.map, id]
      split
      · rw [project_trace]
      · exact project_reallocMove π _ p _ size onFailure

/-! ## 4. Programs -/

/-- The projected layer answers every request alike. -/
theorem project_serve (r : Request) : (s.project π).serve r = (s.serve r).map id (project π) := by
  cases r with
  | malloc size => exact congrArg (Prod.map Reply.pointer id) (project_malloc π s size)
  | calloc count size => exact congrArg (Prod.map Reply.pointer id) (project_calloc π s count size)
  | strdup text => exact congrArg (Prod.map Reply.pointer id) (project_strdup π s text)
  | memalign alignment size =>
    exact congrArg (Prod.map Reply.pointer id) (project_memalign π s alignment size)
  | alignedAlloc alignment size =>
    exact congrArg (Prod.map Reply.pointer id) (project_alignedAlloc π s alignment size)
  | posixMemalign alignment size =>
    exact congrArg (Prod.map Reply.pointer id) (project_posixMemalign π s alignment size)
  | valloc size =>
    exact congrArg (Prod.map Reply.pointer id) (project_memalign π s s.page.bytes size)
  | realloc ptr size =>
    exact congrArg (Prod.map Reply.resized id) (project_reallocWith π s ptr size .keepBlock)
  | reallocf ptr size =>
    exact congrArg (Prod.map Reply.resized id) (project_reallocWith π s ptr size .releaseBlock)
  | free ptr => exact congrArg (Prod.mk Reply.done) (project_free π s ptr)
  | vfree ptr => exact congrArg (Prod.mk Reply.done) (project_free π s ptr)
  | usableSize ptr => exact congrArg (Prod.map Reply.size id) (project_usableSize π s ptr)
  | goodSize size => exact congrArg (Prod.map Reply.size id) (project_goodSize π s size)
  | write ptr offset bytes => exact congrArg (Prod.mk Reply.done) (project_mapMemory π s _)

theorem project_legal (owned : Ledger) (r : Request) :
    r.Legal (s.project π) owned ↔ r.Legal s owned := by
  cases r with
  | write ptr offset bytes =>
    simp only [Request.Legal, project_usableSize π]
    rfl
  | _ => exact Iff.rfl

/-- The same programs are legal for both layers, however the ledger is kept. -/
theorem project_legalBy {settle : Settlement} {owned : Ledger} {program : List Request} :
    (s.project π).LegalBy settle owned program ↔ s.LegalBy settle owned program := by
  induction program generalizing s owned with
  | nil => exact Iff.rfl
  | cons r rest ih =>
    simp only [LegalBy, project_legal π, project_serve π]
    exact and_congr_right fun _ => ih _

/-- The layer over another heap. -/
def along (f : Heap σ → Heap τ) (s : Layer σ) : Layer τ := { s with heap := f s.heap }

/-- The same programs are legal over a projected heap. -/
theorem along_legalBy {f : Heap σ → Heap τ} (proj : Primitive.Projects f) (s : Layer σ)
    {settle : Settlement} {owned : Ledger} {program : List Request} :
    (s.along f).LegalBy settle owned program ↔ s.LegalBy settle owned program :=
  project_legalBy (.ofHeaps proj) s

end Layer

end MallocLayer
