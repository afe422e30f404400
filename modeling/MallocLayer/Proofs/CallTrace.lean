import MallocLayer.Proofs.Ownership

/-!
# What was called

The calls that a layer has made to its primitive, oldest first, as the audit has
them, and what each operation without a policy adds to them. Between two calls
the layer may do one thing that the primitive cannot see, which is to log.
-/

namespace MallocLayer

open Primitive (Block Contract)

namespace Layer

variable {σ : Type}

/-! ## 1. Logging -/

/-- From `s` to `s'` there is no change but to the log. -/
def OnlyLogs (s s' : Layer σ) : Prop := s' = { s with log := s'.log }

namespace OnlyLogs

variable {s s' s'' : Layer σ} {own : Tenancy}

theorem refl (s : Layer σ) : s.OnlyLogs s := rfl

theorem heap (h : s.OnlyLogs s') : s'.heap = s.heap := by
  unfold OnlyLogs at h
  rw [h]

theorem origins (h : s.OnlyLogs s') : s'.origins = s.origins := by
  unfold OnlyLogs at h
  rw [h]

theorem config (h : s.OnlyLogs s') : s'.config = s.config := by
  unfold OnlyLogs at h
  rw [h]

theorem page (h : s.OnlyLogs s') : s'.page = s.page := by
  unfold OnlyLogs at h
  rw [h]

theorem trans (first : s.OnlyLogs s') (second : s'.OnlyLogs s'') : s.OnlyLogs s'' := by
  unfold OnlyLogs at *
  rw [second, first]

theorem trace (h : s.OnlyLogs s') (e : Lifecycle.Event) : s.OnlyLogs (s'.trace e) := by
  refine h.trans ?_
  unfold Layer.trace
  split
  · rfl
  · rfl

theorem kept (h : s.OnlyLogs s') (own : Tenancy) : s.Kept own s' where
  bytes _ _ _ := by rw [h.heap]
  config := h.config
  page := h.page

theorem backs [Primitive σ] {c : Contract σ} (h : s.OnlyLogs s') (backs : s.Backs c own) :
    s'.Backs c own :=
  backs.congr h.heap h.origins

end OnlyLogs

end Layer

/-! ## 2. Calls -/

/-- A block that the primitive granted: the size asked for, and the start. -/
structure Grant where
  size : UInt64
  start : Addr

namespace Grant

/-- The calls for a block that goes back at once. -/
def passing (g : Grant) : List PrimitiveCall :=
  [.allocate g.size (some g.start), .deallocate g.start]

/-- The grant that a call is the answer to. -/
def ofCall? : PrimitiveCall → Option Grant
  | .allocate size (some start) => some ⟨size, start⟩
  | _ => none

end Grant

/-- What was granted in a list of calls. -/
def grants (made : List PrimitiveCall) : List Grant := made.filterMap Grant.ofCall?

@[simp] theorem grants_append (made made' : List PrimitiveCall) :
    grants (made ++ made') = grants made ++ grants made' := List.filterMap_append

@[simp] theorem grants_passing (passing : List Grant) :
    grants (passing.flatMap Grant.passing) = passing := by
  induction passing with
  | nil => rfl
  | cons g rest ih => exact congrArg (g :: ·) ih

namespace Layer

/-- The calls that the audit has noted, oldest first. -/
def calls (s : Layer (Audited σ)) : List PrimitiveCall := (s.heap.state.calls.map Prod.snd).reverse

/-- A call that was noted is the last one. -/
theorem calls_after {s s' : Layer (Audited σ)} {inner : Heap σ} {call : PrimitiveCall}
    (noted : s'.heap = Audited.after s.heap inner call) : s'.calls = s.calls ++ [call] := by
  rw [calls, noted, Audited.after, List.map_cons, List.reverse_cons, calls]

theorem OnlyLogs.calls {s s' : Layer (Audited σ)} (h : s.OnlyLogs s') : s'.calls = s.calls := by
  rw [Layer.calls, h.heap, Layer.calls]

@[simp] theorem calls_trace (s : Layer (Audited σ)) (e : Lifecycle.Event) :
    (s.trace e).calls = s.calls :=
  ((OnlyLogs.refl s).trace e).calls

@[simp] theorem calls_mapMemory (s : Layer (Audited σ)) (f : Memory → Memory) :
    (s.mapMemory f).calls = s.calls := rfl

variable [Primitive σ] {s t : Layer (Audited σ)} {size : UInt64} {p b : Addr} {err : AllocError}

/-- The one error of plain allocation. -/
theorem malloc_error {τ : Type} [Primitive τ] {s t : Layer τ}
    (refused : s.malloc size = (.error err, t)) : err = .outOfMemory size := by
  unfold malloc at refused
  split at refused
  · cases refused
  · cases refused
    rfl

@[simp] theorem calls_deallocate (s : Layer (Audited σ)) (b : Addr) :
    (s.deallocate b).calls = s.calls ++ [.deallocate b] :=
  calls_after rfl

theorem calls_usableSize (s : Layer (Audited σ)) (p : Addr) :
    ∃ a n, (s.usableSize (some p)).2.calls = s.calls ++ [.usableSize a n] :=
  ⟨_, _, calls_after rfl⟩

/-- What is released is named to the primitive as it wants it. -/
theorem Backs.calls_free {c : Contract σ} {own : Tenancy} {block : Block}
    (h : s.Backs c.audited own) (held : own p = some block) :
    ∃ a, block.Named c.interior a ∧ (s.free (some p)).calls = s.calls ++ [.deallocate a] :=
  ⟨_, h.named held, calls_after (h.free_heap held)⟩

theorem calls_of_granted (granted : s.malloc size = (.ok b, t)) :
    t.calls = s.calls ++ [.allocate size (some b)] := by
  unfold malloc at granted
  split at granted
  · next answer =>
    rw [Audited.allocate_eq, Prod.mk.injEq] at answer
    cases granted
    exact calls_after (answer.1 ▸ answer.2.symm)
  · cases granted

/-- A block that was granted goes back. -/
theorem calls_of_passing (granted : s.malloc size = (.ok b, t)) :
    (t.deallocate b).calls = s.calls ++ Grant.passing ⟨size, b⟩ := by
  rw [calls_deallocate, calls_of_granted granted, List.append_assoc]
  rfl

theorem calls_of_refused (refused : s.malloc size = (.error err, t)) :
    t.calls = s.calls ++ [.allocate size none] := by
  unfold malloc at refused
  split at refused
  · cases refused
  · next answer =>
    rw [Audited.allocate_eq, Prod.mk.injEq] at answer
    cases refused
    exact calls_after (answer.1 ▸ answer.2.symm)

end Layer

end MallocLayer
