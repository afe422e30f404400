import MallocLayer.Layer.Realloc
import MallocLayer.Proofs.Allocation

/-!
# Reallocation

What becomes of a pointer that is reallocated, and of the bytes behind it. There
are five outcomes, and `Resizes` has one case for each: the block stays, its
contents move, it is released for nothing, or no block is found for it and it is
lost or kept.

A request for size zero releases the block before anything else, so it is lost
even if the object in its place cannot be had.
-/

namespace MallocLayer.Layer

open Primitive (Block Contract)

variable {σ : Type} [Primitive σ]

/-- Whether a failure to reallocate leaves the caller without the block. -/
def Forfeits (size : UInt64) (onFailure : OnFailure) : Prop :=
  size = 0 ∨ onFailure = .releaseBlock

instance (size : UInt64) (onFailure : OnFailure) : Decidable (Forfeits size onFailure) :=
  inferInstanceAs (Decidable (_ ∨ _))

/-- The outcomes of a request to resize the pointer `p` into the block `b`. -/
inductive Resizes (s : Layer σ) (c : Contract σ) (own : Tenancy) (p : Addr) (b : Block)
    (size : UInt64) (onFailure : OnFailure) : Except AllocError Reallocated × Layer σ → Prop
  | inPlace {s' : Layer σ} (nonzero : size ≠ 0) (fits : size.toNat ≤ b.room p)
      (backs : s'.Backs c own) (kept : s.Kept own s') :
      Resizes s c own p b size onFailure (.ok (.inPlace p), s')
  | moved {q : Addr} {d : Block} {s' : Layer σ} (new : own.drop p q = none)
      (elsewhere : size ≠ 0 → q ≠ p) (room : max size.toNat 1 ≤ d.room q)
      (backs : s'.Backs c ((own.drop p).give q d)) (kept : s.Kept (own.drop p) s')
      (copied : (s'.heap.memory.readRange q (d.room q)).take (min (b.room p) size.toNat) =
        (s.heap.memory.readRange p (b.room p)).take (min (b.room p) size.toNat)) :
      Resizes s c own p b size onFailure (.ok (.moved q), s')
  | released {s' : Layer σ} (zero : size = 0) (backs : s'.Backs c (own.drop p))
      (kept : s.Kept (own.drop p) s') :
      Resizes s c own p b size onFailure (.ok .released, s')
  | lost {err : AllocError} {s' : Layer σ} (forfeits : Forfeits size onFailure)
      (backs : s'.Backs c (own.drop p)) (kept : s.Kept (own.drop p) s') :
      Resizes s c own p b size onFailure (.error err, s')
  | failed {err : AllocError} {s' : Layer σ} (keeps : ¬ Forfeits size onFailure)
      (backs : s'.Backs c own) (kept : s.Kept own s') :
      Resizes s c own p b size onFailure (.error err, s')

variable {s s' : Layer σ} {c : Contract σ} {own : Tenancy} {p : Addr} {b : Block}
  {size : UInt64} {onFailure : OnFailure}

/-- An event may be traced at the end. -/
theorem Resizes.trace {result : Except AllocError Reallocated × Layer σ}
    (h : s.Resizes c own p b size onFailure result) (e : Lifecycle.Event) :
    s.Resizes c own p b size onFailure (result.1, result.2.trace e) := by
  cases h with
  | inPlace nonzero fits backs kept => exact .inPlace nonzero fits (backs.trace e) (kept.trace e)
  | moved new elsewhere room backs kept copied =>
    refine .moved new elsewhere room (backs.trace e) (kept.trace e) ?_
    rwa [trace_heap]
  | released zero backs kept => exact .released zero (backs.trace e) (kept.trace e)
  | lost forfeits backs kept => exact .lost forfeits (backs.trace e) (kept.trace e)
  | failed keeps backs kept => exact .failed keeps (backs.trace e) (kept.trace e)

/-- A step that lost nothing may come first. -/
theorem Resizes.after {result : Except AllocError Reallocated × Layer σ}
    (h : s'.Resizes c own p b size onFailure result) (h' : s.Backs c own) (held : own p = some b)
    (kept : s.Kept own s') : s.Resizes c own p b size onFailure result := by
  cases h with
  | inPlace nonzero fits backs kept' => exact .inPlace nonzero fits backs (kept.trans kept')
  | moved new elsewhere room backs kept' copied =>
    rw [kept.readRange held (h'.proper held) (h'.holds held)] at copied
    exact .moved new elsewhere room backs ((kept.drop p).trans kept') copied
  | released zero backs kept' => exact .released zero backs ((kept.drop p).trans kept')
  | lost forfeits backs kept' => exact .lost forfeits backs ((kept.drop p).trans kept')
  | failed keeps backs kept' => exact .failed keeps backs (kept.trans kept')

/-! ## 1. Size zero -/

theorem Backs.reallocZero_resizes (h : s.Backs c own) (held : own p = some b) :
    s.Resizes c own p b 0 onFailure (s.reallocZero p) := by
  obtain ⟨backs, kept⟩ := h.free held
  simp only [Layer.reallocZero]
  generalize ({ level := .trace, symbol := "realloc", event := "realloc_zero_size",
                outcome := "released", ptr := some p } : Lifecycle.Event) = e
  have backs' := backs.trace e
  have kept' := kept.trace e
  split
  · exact .released rfl backs' kept'
  · have delivers := backs'.malloc_delivers 1
    split
    · next outcome =>
      rw [outcome] at delivers
      cases delivers with
      | delivered new room backs'' kept'' good =>
        refine .moved new (fun nonzero => absurd rfl nonzero) room backs'' (kept'.trans kept'') ?_
        simp
    · next outcome =>
      rw [outcome] at delivers
      cases delivers with
      | failed backs'' kept'' => exact .lost (.inl rfl) backs'' (kept'.trans kept'')

/-! ## 2. Moving -/

/-- A block that moves gets at least the size asked for. -/
theorem le_moveTarget (old size : UInt64) : size.toNat ≤ (moveTarget old size).toNat := by
  unfold moveTarget
  split
  · rw [UInt64.toNat_max]
    exact Nat.le_max_left _ _
  · exact Nat.le_refl _

/-- A block takes the place of another: the contents go over, and the pointer to
the old block goes. -/
theorem Backs.replace {d : Block} {n : UInt64} (h : s.Backs c (own.give d.start d))
    (new : own d.start = none) (held : own p = some b) (fits : n.toNat ≤ d.capacity.toNat)
    (within : n.toNat ≤ b.room p) :
    ((s.mapMemory (·.copy d.start p n)).free (some p)).Backs c ((own.drop p).give d.start d) ∧
      s.Kept (own.drop p) ((s.mapMemory (·.copy d.start p n)).free (some p)) ∧
      (((s.mapMemory (·.copy d.start p n)).free (some p)).heap.memory.readRange d.start
          (d.room d.start)).take n.toNat =
        (s.heap.memory.readRange p (b.room p)).take n.toNat := by
  have ne : d.start ≠ p := Tenancy.ne_of_held new held
  rw [← room_start] at fits
  -- The copy writes to the new block only, and the release writes to no block that stays.
  have fresh : own.give d.start d d.start = some d := Tenancy.give_self
  have contents : (s.mapMemory (·.copy d.start p n)).heap.memory.readRange d.start n.toNat =
      s.heap.memory.readRange p n.toNat :=
    Memory.readRange_copy s.heap.memory d.start p n
  obtain ⟨backs, kept⟩ := h.copy fresh (h.covers fresh fits) p
  rw [Tenancy.drop_give new] at kept
  generalize s.mapMemory (·.copy d.start p n) = copied at *
  have old : own.give d.start d p = some b := by rwa [Tenancy.give_of_ne ne.symm]
  obtain ⟨backs', kept'⟩ := backs.free old
  rw [Tenancy.give_drop_comm ne] at backs' kept'
  have there : (own.drop p).give d.start d d.start = some d := Tenancy.give_self
  have after := kept'.readRange there (backs'.proper there) (backs'.holds there)
  refine ⟨backs', (kept.drop p).trans (kept'.of_give (by rwa [Tenancy.drop_of_ne ne])), ?_⟩
  rw [after, Memory.take_readRange fits, Memory.take_readRange within, contents]

/-- The contents move to the block that was granted. -/
theorem Backs.reallocMove_granted {t : Layer σ} {q : Addr} {old : UInt64} (h : s.Backs c own)
    (held : own p = some b) (measured : old.toNat = b.room p)
    (answer : s.malloc (moveTarget old size) = (.ok q, t)) :
    ∃ d s', d.start = q ∧ s.reallocMove p old size onFailure = (.ok (.moved q), s') ∧ q ≠ p ∧
      own q = none ∧ max size.toNat 1 ≤ d.room q ∧ t.Backs c (own.give q d) ∧
      s'.Backs c ((own.drop p).give q d) ∧ s.Kept (own.drop p) s' ∧
      (s'.heap.memory.readRange q (d.room q)).take (min (b.room p) size.toNat) =
        (s.heap.memory.readRange p (b.room p)).take (min (b.room p) size.toNat) := by
  obtain ⟨d, rfl, room, new, backs, kept, -⟩ := h.granted answer
  have large := le_moveTarget old size
  -- What is copied is bounded by both sizes, so it is read and written inside the blocks.
  have amount : (min old size).toNat = min (b.room p) size.toNat := by
    rw [UInt64.toNat_min, measured]
  obtain ⟨backs', kept', copied⟩ :=
    backs.replace (n := min old size) new held (by omega) (by omega)
  rw [amount, kept.readRange held (h.proper held) (h.holds held)] at copied
  rcases moved : s.reallocMove p old size onFailure with ⟨result, s'⟩
  simp only [Layer.reallocMove, answer] at moved
  cases moved
  refine ⟨d, _, rfl, rfl, Tenancy.ne_of_held new held, new, ?_, backs, backs'.trace _,
    ((kept.drop p).trans kept').trace _, ?_⟩
  · rw [room_start]
    omega
  · rw [trace_heap]
    exact copied

theorem Backs.reallocMove_resizes (h : s.Backs c own) (held : own p = some b) {old : UInt64}
    (measured : old.toNat = b.room p) (nonzero : size ≠ 0) :
    s.Resizes c own p b size onFailure (s.reallocMove p old size onFailure) := by
  rcases h.malloc (moveTarget old size) with ⟨s', outcome, backs, kept⟩ | ⟨d, t, outcome, -⟩
  · simp only [Layer.reallocMove, outcome]
    by_cases forfeits : onFailure = .releaseBlock
    · obtain ⟨backs', kept'⟩ := backs.free held
      simp only [forfeits, if_true]
      exact (Resizes.lost (.inr rfl) backs' ((kept.drop p).trans kept')).trace _
    · simp only [forfeits, if_false]
      have keeps : ¬ Forfeits size onFailure := fun either => either.elim nonzero forfeits
      exact (Resizes.failed keeps backs kept).trace _
  · obtain ⟨d, s', -, moved, ne, new, room, -, backs, kept, copied⟩ :=
      h.reallocMove_granted held measured outcome
    rw [moved]
    exact .moved (by rwa [Tenancy.drop_of_ne ne]) (fun _ => ne) room backs kept copied

/-! ## 3. Reallocation -/

theorem reallocWith_none :
    s.reallocWith none size onFailure = (s.malloc size).map (Except.map .moved) id := by
  unfold reallocWith
  rcases s.malloc size with ⟨_ | _, _⟩ <;> rfl

theorem Backs.reallocWith_resizes (h : s.Backs c own) (held : own p = some b) :
    s.Resizes c own p b size onFailure (s.reallocWith (some p) size onFailure) := by
  simp only [Layer.reallocWith]
  split
  · next zero =>
    subst zero
    exact h.reallocZero_resizes held
  · next nonzero =>
    obtain ⟨measured, backs, kept⟩ := h.usableSize held
    split
    · next within =>
      have fits := UInt64.le_iff_toNat_le.1 within.2
      rw [measured] at fits
      exact (Resizes.inPlace nonzero fits backs kept).trace _
    · exact (backs.reallocMove_resizes held measured nonzero).after h held kept

end MallocLayer.Layer
