import MallocLayer.Proofs.Projection
import MallocLayer.Proofs.Surfaces

/-!
# Tracing

With tracing on, the operations leave records in the lifecycle log. They never look at
them again, so the log may be forgotten: a muted layer traces nothing, its log is a given
one, and muting a layer is a projection.

Two runs start from one state, one with tracing on and one with tracing off. The state of
the second is that of the first, muted, with the log that both start from. Hence its run is
the muted run of the first (`actAll_tracing`), and the log is all that the two can differ in.
-/

namespace MallocLayer

/-- What a program does with a layer: it asks for an operation, or it calls a slot of a
zone over the layer. The slots that are not among these do not reach the layer. -/
inductive Action where
  | request (request : Request)
  | slot (slot : Zone.Slot)
  | batchMalloc (size : UInt64) (results : List (Option Addr))
  | batchFree (blocks : List (Option Addr))

/-- What comes of an action. -/
inductive Action.Outcome where
  | reply (reply : Reply)
  | returned (returned : Returned)
  /-- How many entries of the array were filled, and the array. -/
  | filled (count : Nat) (results : List (Option Addr))
  | freed

namespace Layer

variable {σ : Type}

/-- The layer with tracing on or off. -/
def tracing (s : Layer σ) (on : Bool) : Layer σ :=
  { s with config := { s.config with trace := on } }

section Actions

variable [Primitive σ]

/-- Takes an action. -/
def act (s : Layer σ) : Action → Action.Outcome × Layer σ
  | .request request => (s.serve request).map .reply id
  | .slot slot => (s.callSlot slot).map .returned id
  | .batchMalloc size results =>
    let (count, results, s) := Zone.batchMalloc s size results
    (.filled count results, s)
  | .batchFree blocks => (.freed, Zone.batchFree s blocks)

/-- Takes actions one after the other. -/
def actAll (s : Layer σ) : List Action → List Action.Outcome × Layer σ
  | [] => ([], s)
  | action :: rest =>
    let (outcome, s) := s.act action
    (actAll s rest).map (outcome :: ·) id

end Actions

/-! ## 1. Projected programs -/

section Projected

variable {τ : Type} [Primitive σ] [Primitive τ] (π : Projection σ τ) (s : Layer σ)

theorem project_callSlot (slot : Zone.Slot) :
    (s.project π).callSlot slot = (s.callSlot slot).map id (project π) := by
  rw [callSlot_eq, callSlot_eq, project_serve]
  rfl

theorem project_batchMalloc (size : UInt64) (results : List (Option Addr)) :
    Zone.batchMalloc (s.project π) size results =
      (Zone.batchMalloc s size results).map id (Prod.map id (project π)) := by
  induction results generalizing s with
  | nil => rfl
  | cons entry rest ih =>
    unfold Zone.batchMalloc
    rw [project_malloc]
    rcases s.malloc size with ⟨_ | block, s'⟩
    · rfl
    · simp only [Prod.map, id, ih]

theorem project_batchFree (blocks : List (Option Addr)) :
    Zone.batchFree (s.project π) blocks = (Zone.batchFree s blocks).project π :=
  List.foldl_hom _ fun s block => project_free π s block

theorem project_act (action : Action) :
    (s.project π).act action = (s.act action).map id (project π) := by
  cases action with
  | request request => exact congrArg (Prod.map Action.Outcome.reply id) (project_serve π s request)
  | slot slot => exact congrArg (Prod.map Action.Outcome.returned id) (project_callSlot π s slot)
  | batchMalloc size results =>
    simp only [act, project_batchMalloc]
    rfl
  | batchFree blocks => exact congrArg (Prod.mk Action.Outcome.freed) (project_batchFree π s blocks)

theorem project_actAll (program : List Action) :
    (s.project π).actAll program = (s.actAll program).map id (project π) := by
  induction program generalizing s with
  | nil => rfl
  | cons action rest ih =>
    simp only [actAll, project_act, Prod.map, id, ih]

end Projected

/-! ## 2. Muted layers -/

section Muted

variable [Primitive σ]

/-- Forgets the log in favour of a given one, to which nothing is added. -/
def Projection.mute (log : LifecycleLog) : Projection σ σ where
  heap := id
  log _ := log
  config c := { c with trace := false }
  projects := ⟨fun _ _ => rfl, fun _ _ => rfl, fun _ _ => rfl, fun _ => rfl, fun _ _ => rfl⟩
  zeroSize _ := rfl
  trace _ _ _ := rfl

/-- With tracing off, a program does what it does with tracing on, muted. -/
theorem actAll_tracing (s : Layer σ) (on : Bool) (program : List Action) :
    (s.tracing false).actAll program =
      ((s.tracing on).actAll program).map id (project (.mute s.log)) :=
  project_actAll (.mute s.log) (s.tracing on) program

/-- The two layers differ in nothing but what they log and have logged. -/
structure AgreeButLog (s t : Layer (Recorded σ)) : Prop where
  calls : s.primitiveCalls = t.primitiveCalls
  primitive : s.heap.state.inner = t.heap.state.inner
  memory : s.heap.memory = t.heap.memory
  table : s.origins = t.origins
  zeroSize : s.config.zeroSize = t.config.zeroSize

/-- Tracing changes nothing but the log: a program has the same outcomes with and without
it, makes the same primitive calls, and leaves the same memory and side table behind.
Without tracing the log stays as it is. -/
theorem actAll_inert (s : Layer (Recorded σ)) (program : List Action) :
    let traced := (s.tracing true).actAll program
    let untraced := (s.tracing false).actAll program
    traced.1 = untraced.1 ∧ traced.2.AgreeButLog untraced.2 ∧ untraced.2.log = s.log := by
  intro traced untraced
  -- Muting keeps all but the log, and puts the log that both runs start from in its place.
  have muted : untraced = traced.map id (project (.mute s.log)) := actAll_tracing s true program
  rw [muted]
  refine ⟨rfl, ?_, rfl⟩
  constructor <;> rfl

end Muted

end Layer

end MallocLayer
