import MallocLayer.Proofs.Ownership

/-!
# Growth

What it costs to let a block grow. A block that is outgrown moves to one with at
least a quarter more room, whatever the primitive adds to what it is asked for. So
the number of moves is logarithmic in the size that is reached in the end
(`ofHeap_amortizes`), each move is one allocation, and no call takes room away.

A lease is a layer together with one pointer that is out. `Lease.resize` calls
`realloc` on the pointer and goes on with the pointer that comes back.
-/

namespace MallocLayer

open Primitive (Block Contract)

namespace Layer

/-! ## 1. Moving to more room -/

section Moving

variable {σ : Type} [Primitive σ] {s s' : Layer σ} {c : Contract σ} {own : Tenancy} {p : Addr}
  {b : Block} {old size : UInt64} {onFailure : OnFailure} {result : Reallocated}

theorem toNat_moveTarget (grows : old < size) :
    (moveTarget old size).toNat =
      max size.toNat (min (old.toNat + old.toNat / 4) Word.top.toNat) := by
  have quarter : (old / 4).toNat = old.toNat / 4 := UInt64.toNat_div old 4
  rw [moveTarget, if_pos grows, UInt64.toNat_max, Word.toNat_addSaturating, quarter]

/-- A block that grows moves as if the room that it gets had been asked for. -/
theorem reallocMove_moveTarget (s : Layer σ) (p : Addr) (grows : old < size)
    (onFailure : OnFailure) :
    s.reallocMove p old (moveTarget old size) onFailure = s.reallocMove p old size onFailure := by
  have less := UInt64.lt_iff_toNat_lt.1 grows
  have room := toNat_moveTarget grows
  have grows' : old < moveTarget old size := UInt64.lt_iff_toNat_lt.2 (by omega)
  have target : moveTarget old (moveTarget old size) = moveTarget old size := by
    rw [← UInt64.toNat_inj, toNat_moveTarget grows']
    omega
  have amount : min old (moveTarget old size) = min old size := by
    rw [← UInt64.toNat_inj, UInt64.toNat_min, UInt64.toNat_min]
    omega
  simp only [reallocMove, target, amount]

/-- A request for more than half of the usable size that succeeds leaves the block
where it is, or moves it to at least a quarter more room because it was outgrown. -/
theorem Backs.realloc_above_half (h : s.Backs c own) (held : own p = some b)
    (above : b.room p / 2 < size.toNat) (done : s.realloc (some p) size = (.ok result, s')) :
    result = .inPlace p ∧ s'.Backs c own ∨
      ∃ q d, result = .moved q ∧ b.room p < size.toNat ∧
        b.room p + b.room p / 4 ≤ d.room q ∧ s'.Backs c ((own.drop p).give q d) := by
  have nonzero : size ≠ 0 := by
    rintro rfl
    exact absurd above (Nat.not_lt_zero _)
  obtain ⟨measured, backs, -⟩ := h.usableSize held
  simp only [realloc, reallocWith, if_neg nonzero] at done
  split at done
  · cases done
    exact .inl ⟨rfl, backs.trace _⟩
  · next outside =>
    generalize (s.usableSize (some p)).1 = old at measured done outside
    generalize (s.usableSize (some p)).2 = measuredLayer at backs done
    have half : (old / 2).toNat = old.toNat / 2 := UInt64.toNat_div old 2
    have outgrown : old < size := by
      rw [UInt64.lt_iff_toNat_lt, half, UInt64.le_iff_toNat_le, measured] at outside
      rw [UInt64.lt_iff_toNat_lt, measured]
      omega
    have room := toNat_moveTarget outgrown
    have larger := UInt64.lt_iff_toNat_lt.1 outgrown
    have nonzero' : moveTarget old size ≠ 0 := by
      intro zero
      rw [zero, UInt64.toNat_zero] at room
      omega
    -- Seen as a request for the target, the call gets all of the target, not just `size`.
    have resizes : measuredLayer.Resizes c own p b (moveTarget old size) .keepBlock _ :=
      backs.reallocMove_resizes held measured nonzero'
    rw [reallocMove_moveTarget _ _ outgrown, done] at resizes
    cases resizes with
    | inPlace _ fits => omega
    | released zero => exact absurd zero nonzero'
    | @moved q d _ _ _ fits backs' =>
      have there : (own.drop p).give q d q = some d := Tenancy.give_self
      have below := (backs'.proper there).room_lt_top (backs'.holds there)
      exact .inr ⟨q, d, rfl, by omega, by omega, backs'⟩

end Moving

/-! ## 2. Counting allocations -/

/-- The number of blocks that an answer was moved to: one or none. -/
def moveCount : Except AllocError Reallocated → Nat
  | .ok (.moved _) => 1
  | _ => 0

section Counting

variable {σ : Type}

/-- The number of calls of `allocate` that the audit has noted. -/
def allocations (s : Layer (Audited σ)) : Nat :=
  s.heap.state.calls.countP fun call => call.2 matches .allocate ..

@[simp] theorem allocations_trace (s : Layer (Audited σ)) (e : Lifecycle.Event) :
    (s.trace e).allocations = s.allocations := by
  rw [allocations, trace_heap, allocations]

@[simp] theorem allocations_mapMemory (s : Layer (Audited σ)) (f : Memory → Memory) :
    (s.mapMemory f).allocations = s.allocations := rfl

variable [Primitive σ] {s s' : Layer (Audited σ)} {p : Addr} {old size : UInt64}
  {onFailure : OnFailure} {result : Reallocated}

@[simp] theorem allocations_usableSize (s : Layer (Audited σ)) (ptr : Option Addr) :
    (s.usableSize ptr).2.allocations = s.allocations := by
  cases ptr with
  | none => rfl
  | some p => exact List.countP_cons_of_neg nofun

@[simp] theorem allocations_free (s : Layer (Audited σ)) (ptr : Option Addr) :
    (s.free ptr).allocations = s.allocations := by
  cases ptr with
  | none => rfl
  | some p => exact List.countP_cons_of_neg nofun

theorem allocations_malloc {answer : Except AllocError Addr}
    (asked : s.malloc size = (answer, s')) : s'.allocations = s.allocations + 1 := by
  have noted : allocations { s with heap := (Primitive.allocate s.heap size).2 } =
      s.allocations + 1 := List.countP_cons_of_pos rfl
  unfold malloc at asked
  rcases outcome : Primitive.allocate s.heap size with ⟨_ | block, heap⟩
  · rw [outcome] at asked noted
    cases asked
    exact noted
  · rw [outcome] at asked noted
    cases asked
    exact noted

theorem allocations_reallocZero (done : s.reallocZero p = (.ok result, s')) :
    s'.allocations = s.allocations + moveCount (.ok result) := by
  simp only [reallocZero] at done
  split at done
  · cases done
    simp [moveCount]
  · split at done
    · next asked =>
      cases done
      rw [allocations_malloc asked]
      simp [moveCount]
    · cases done

theorem allocations_reallocMove (done : s.reallocMove p old size onFailure = (.ok result, s')) :
    s'.allocations = s.allocations + moveCount (.ok result) := by
  simp only [reallocMove] at done
  split at done
  · cases done
  · next asked =>
    cases done
    simp [allocations_malloc asked, moveCount]

/-- A reallocation that succeeds asks for a block exactly if it moves. -/
theorem allocations_reallocWith {ptr : Option Addr}
    (done : s.reallocWith ptr size onFailure = (.ok result, s')) :
    s'.allocations = s.allocations + moveCount (.ok result) := by
  cases ptr with
  | none =>
    simp only [reallocWith] at done
    split at done
    · next asked =>
      cases done
      exact allocations_malloc asked
    · cases done
  | some p =>
    simp only [reallocWith] at done
    split at done
    · exact allocations_reallocZero done
    · split at done
      · cases done
        simp [moveCount]
      · rw [allocations_reallocMove done, allocations_usableSize]

end Counting

end Layer

/-! ## 3. Leases -/

/-- A pointer that a layer has handed out. -/
structure Lease (σ : Type) where
  layer : Layer σ
  ptr : Addr

namespace Lease

open Layer (moveCount)

section Runs

variable {σ : Type} [Primitive σ]

/-- The usable size behind the pointer. -/
def usable (l : Lease σ) : Nat := (l.layer.usableSize (some l.ptr)).1.toNat

/-- What a call of `realloc` answers. -/
def answer (l : Lease σ) (size : UInt64) : Except AllocError Reallocated :=
  (l.layer.realloc (some l.ptr) size).1

/-- The lease after a call of `realloc`. It goes on with the pointer that comes
back, if one does. -/
def resize (l : Lease σ) (size : UInt64) : Lease σ where
  layer := (l.layer.realloc (some l.ptr) size).2
  ptr := ((l.answer size).toOption.bind Reallocated.pointer).getD l.ptr

/-- The lease after calls with these sizes. -/
def resizeAll (l : Lease σ) (sizes : List UInt64) : Lease σ := sizes.foldl resize l

/-- How many of the calls move the block. -/
def moves : Lease σ → List UInt64 → Nat
  | _, [] => 0
  | l, size :: rest => moveCount (l.answer size) + (l.resize size).moves rest

/-- The usable sizes before the first call and after each. -/
def usables : Lease σ → List UInt64 → List Nat
  | l, [] => [l.usable]
  | l, size :: rest => l.usable :: (l.resize size).usables rest

/-- All the calls succeed, and each of them asks for more than half of the usable
size and for at most `limit`. -/
def Stretches (limit : Nat) : Lease σ → List UInt64 → Prop
  | _, [] => True
  | l, size :: rest =>
    ((l.answer size).isOk ∧ l.usable / 2 < size.toNat ∧ size.toNat ≤ limit) ∧
      (l.resize size).Stretches limit rest

instance Stretches.decidable (limit : Nat) :
    (l : Lease σ) → (sizes : List UInt64) → Decidable (l.Stretches limit sizes)
  | _, [] => inferInstanceAs (Decidable True)
  | l, size :: rest =>
    have := Stretches.decidable limit (l.resize size) rest
    inferInstanceAs (Decidable (_ ∧ _))

/-- There is a live block behind the pointer. -/
def Backed (l : Lease σ) (c : Contract σ) : Prop :=
  ∃ own b, l.layer.Backs c own ∧ own l.ptr = some b

end Runs

/-- What a client gets for its calls: moves are few and each of them costs one
allocation, and no call takes room away. -/
structure Amortized {σ : Type} [Primitive σ] (limit : Nat) (l : Lease (Audited σ))
    (sizes : List UInt64) : Prop where
  moves_lt : 1 ≤ l.moves sizes →
    5 ^ (l.moves sizes - 1) * (l.usable - 3) < 4 ^ (l.moves sizes - 1) * (limit - 3)
  allocations : (l.resizeAll sizes).layer.allocations = l.layer.allocations + l.moves sizes
  usables : (l.usables sizes).Pairwise (· ≤ ·)

variable {σ : Type} [Primitive σ] {c : Contract σ} {l : Lease σ} {size : UInt64}
  {sizes : List UInt64} {limit : Nat}

/-! ## 4. One call -/

/-- The outcomes of a call that asks for more than half of the usable size. -/
inductive Step (l : Lease σ) (size : UInt64) : Prop
  | stays (answer : l.answer size = .ok (.inPlace l.ptr))
    (same : (l.resize size).usable = l.usable)
  | moves {q : Addr} (answer : l.answer size = .ok (.moved q)) (outgrown : l.usable < size.toNat)
    (quarter : l.usable + l.usable / 4 ≤ (l.resize size).usable)

theorem usable_eq {own : Tenancy} {b : Block} (backs : l.layer.Backs c own)
    (held : own l.ptr = some b) : l.usable = b.room l.ptr :=
  (backs.usableSize held).1

theorem resize_eq {result : Reallocated} {layer : Layer σ} {q : Addr}
    (done : l.layer.realloc (some l.ptr) size = (.ok result, layer))
    (back : result.pointer = some q) : l.resize size = ⟨layer, q⟩ := by
  rw [resize, answer, done]
  simp [Except.toOption, back]

theorem Backed.step (h : l.Backed c) (ok : (l.answer size).isOk)
    (above : l.usable / 2 < size.toNat) : (l.resize size).Backed c ∧ l.Step size := by
  obtain ⟨own, b, backs, held⟩ := h
  rw [usable_eq backs held] at above
  rcases done : l.layer.realloc (some l.ptr) size with ⟨_ | result, layer⟩
  · rw [answer, done] at ok
    cases ok
  · have said : l.answer size = .ok result := by rw [answer, done]
    rcases backs.realloc_above_half held above done with
      ⟨rfl, backs'⟩ | ⟨q, d, rfl, outgrown, quarter, backs'⟩
    · have next : l.resize size = ⟨layer, l.ptr⟩ := resize_eq done rfl
      rw [next]
      refine ⟨⟨own, b, backs', held⟩, .stays said ?_⟩
      rw [next, usable_eq backs held]
      exact usable_eq backs' held
    · have next : l.resize size = ⟨layer, q⟩ := resize_eq done rfl
      have held' : (own.drop l.ptr).give q d q = some d := Tenancy.give_self
      have room : (l.resize size).usable = d.room q := by
        rw [next]
        exact usable_eq backs' held'
      refine ⟨next ▸ ⟨_, d, backs', held'⟩, .moves said ?_ ?_⟩
      · rwa [usable_eq backs held]
      · rwa [usable_eq backs held, room]

/-! ## 5. Many calls -/

/-- Calls one after the other, each of which has one of the outcomes. -/
inductive Climbs (limit : Nat) : Lease σ → List UInt64 → Prop
  | nil {l : Lease σ} : Climbs limit l []
  | cons {l : Lease σ} {size : UInt64} {rest : List UInt64} (step : l.Step size)
    (within : size.toNat ≤ limit) (climbs : Climbs limit (l.resize size) rest) :
    Climbs limit l (size :: rest)

theorem Stretches.climbs (stretches : l.Stretches limit sizes) (h : l.Backed c) :
    l.Climbs limit sizes := by
  induction sizes generalizing l with
  | nil => exact .nil
  | cons size rest ih =>
    obtain ⟨⟨ok, above, within⟩, stretches⟩ := stretches
    obtain ⟨backed, step⟩ := h.step ok above
    exact .cons step within (ih stretches backed)

/-- A run of calls reaches its limit after logarithmically many moves. -/
theorem Climbs.moves_lt (climbs : l.Climbs limit sizes) (four : 4 ≤ l.usable) {k : Nat}
    (moves : l.moves sizes = k + 1) : 5 ^ k * (l.usable - 3) < 4 ^ k * (limit - 3) := by
  induction climbs generalizing k with
  | nil => cases moves
  | @cons l size rest step within _ ih =>
    cases step with
    | stays answer same =>
      have moves' : (l.resize size).moves rest = k + 1 := by
        rw [Lease.moves, answer] at moves
        exact (Nat.zero_add _).symm.trans moves
      have bound := ih (same.symm ▸ four) moves'
      rwa [same] at bound
    | moves answer outgrown quarter =>
      have moves' : (l.resize size).moves rest = k := by
        rw [Lease.moves, answer, Nat.add_comm] at moves
        exact Nat.succ.inj moves
      cases k with
      | zero => omega
      | succ k =>
        have four' : 4 ≤ (l.resize size).usable :=
          Nat.le_trans four (Nat.le_of_add_right_le quarter)
        have bound := ih four' moves'
        -- Rounding down takes at most three quarters from the growth, which is what the
        -- growth of the 3 that are set aside would have been.
        have gain : 5 * (l.usable - 3) ≤ 4 * ((l.resize size).usable - 3) := by omega
        calc
          5 ^ (k + 1) * (l.usable - 3) = 5 ^ k * (5 * (l.usable - 3)) := by
            rw [Nat.pow_succ, Nat.mul_assoc]
          _ ≤ 5 ^ k * (4 * ((l.resize size).usable - 3)) := Nat.mul_le_mul_left _ gain
          _ = 4 * (5 ^ k * ((l.resize size).usable - 3)) := Nat.mul_left_comm ..
          _ < 4 * (4 ^ k * (limit - 3)) := Nat.mul_lt_mul_of_pos_left bound (by decide)
          _ = 4 ^ (k + 1) * (limit - 3) := by rw [Nat.pow_succ', Nat.mul_assoc]

theorem Step.usable_le (step : l.Step size) : l.usable ≤ (l.resize size).usable := by
  cases step with
  | stays _ same => exact Nat.le_of_eq same.symm
  | moves _ _ quarter => exact Nat.le_of_add_right_le quarter

theorem Climbs.usable_le (climbs : l.Climbs limit sizes) : ∀ n ∈ l.usables sizes, l.usable ≤ n := by
  induction climbs with
  | nil => exact List.forall_mem_singleton.2 (Nat.le_refl _)
  | cons step _ _ ih =>
    refine List.forall_mem_cons.2 ⟨Nat.le_refl _, fun n later => ?_⟩
    exact Nat.le_trans step.usable_le (ih n later)

theorem Climbs.pairwise_usables (climbs : l.Climbs limit sizes) :
    (l.usables sizes).Pairwise (· ≤ ·) := by
  induction climbs with
  | nil => exact List.pairwise_singleton _ _
  | cons step _ climbs ih =>
    refine List.pairwise_cons.2 ⟨fun n later => ?_, ih⟩
    exact Nat.le_trans step.usable_le (climbs.usable_le n later)

/-- Each move costs one allocation. -/
theorem Stretches.allocations_resizeAll {l : Lease (Audited σ)}
    (stretches : l.Stretches limit sizes) :
    (l.resizeAll sizes).layer.allocations = l.layer.allocations + l.moves sizes := by
  induction sizes generalizing l with
  | nil => rfl
  | cons size rest ih =>
    obtain ⟨⟨ok, -⟩, stretches⟩ := stretches
    have once : (l.resize size).layer.allocations =
        l.layer.allocations + moveCount (l.answer size) := by
      rcases done : l.layer.realloc (some l.ptr) size with ⟨_ | result, layer⟩
      · rw [answer, done] at ok
        cases ok
      · rw [resize, answer, done]
        exact Layer.allocations_reallocWith done
    rw [resizeAll, List.foldl_cons, moves, ← Nat.add_assoc, ← once]
    exact ih stretches

end Lease

/-! ## 6. Programs -/

namespace Layer

variable {σ : Type} [Primitive σ]

/-- Over any primitive within its contract, and in every state that a legal program
leads to: a client that lets a block of its own grow, call by call, moves it a
logarithmic number of times. -/
theorem ofHeap_amortizes (c : Contract σ) {heap : Heap σ} (valid : c.Valid heap)
    (bare : c.live heap = ∅) (page : PageSize) (config : Config) (program : List Request)
    (legal : (ofHeap heap page config).LegalRun ∅ program) :
    (ofHeap (Audited.ofHeap heap) page config).Throughout
      (fun s owned => ∀ p ∈ owned, ∀ limit sizes, 4 ≤ (Lease.mk s p).usable →
        (Lease.mk s p).Stretches limit sizes → (Lease.mk s p).Amortized limit sizes)
      ∅ program := by
  have legal' : (ofHeap (Audited.ofHeap heap) page config).LegalRun ∅ program :=
    (along_legalBy Audited.projects _).1 legal
  have clean : c.audited.Valid (Audited.ofHeap heap) := ⟨valid, nofun⟩
  refine throughout_of_accounts clean bare page config ?_ legal'
  intro s owned own _ accounts p mine limit sizes four stretches
  obtain ⟨b, held⟩ := (accounts.lists p).1 mine
  have backed : (Lease.mk s p).Backed c.audited := ⟨own, b, accounts.backs, held⟩
  have climbs := stretches.climbs backed
  constructor
  · intro moved
    exact climbs.moves_lt four (Nat.sub_add_cancel moved).symm
  · exact stretches.allocations_resizeAll
  · exact climbs.pairwise_usables

/-- A client with one aligned block. -/
def oneAligned : List Request := [.memalign 4096 100]

/-- A layer over an arena that hands out skewed addresses, once the client has its
block. -/
def afterOneAligned : Layer (Audited Arena) :=
  ((ofHeap (Audited.ofHeap (Arena.fresh skewed)) widePages).serve (.memalign 4096 100)).2

/-- The pointer to the block, which lies inside of it. -/
def alignedPtr : Addr := 0x40002000

/-- Sizes by which the block is outgrown three times, each time by one byte. -/
def climb : List UInt64 := [8593, 10000, 10753, 13441]

theorem ofHeap_amortizes_climb :
    (Arena.contract skewed skewed_fits).Valid (Arena.fresh skewed) ∧
      (Arena.contract skewed skewed_fits).live (Arena.fresh skewed) = ∅ ∧
      (ofHeap (Arena.fresh skewed) widePages).LegalRun ∅ oneAligned ∧
      4 ≤ (Lease.mk afterOneAligned alignedPtr).usable ∧
      (Lease.mk afterOneAligned alignedPtr).Stretches 13441 climb ∧
      (Lease.mk afterOneAligned alignedPtr).moves climb = 3 ∧
      (Lease.mk afterOneAligned alignedPtr).Amortized 13441 climb := by
  have valid := Arena.valid_fresh skewed skewed_fits
  have bare := Arena.live_fresh skewed skewed_fits
  have legal : (ofHeap (Arena.fresh skewed) widePages).LegalRun ∅ oneAligned := by decide +kernel
  have gives : Request.obtains
      ((ofHeap (Audited.ofHeap (Arena.fresh skewed)) widePages).serve (.memalign 4096 100)).1 =
        some alignedPtr := by decide +kernel
  have four : 4 ≤ (Lease.mk afterOneAligned alignedPtr).usable := by decide +kernel
  have stretches : (Lease.mk afterOneAligned alignedPtr).Stretches 13441 climb := by
    decide +kernel
  have moves : (Lease.mk afterOneAligned alignedPtr).moves climb = 3 := by decide +kernel
  obtain ⟨-, after⟩ := ofHeap_amortizes _ valid bare widePages {} oneAligned legal
  rw [ThroughoutBy, Request.settle_gain rfl gives] at after
  have mine : alignedPtr ∈ (∅ ∪ {alignedPtr} : Ledger) :=
    Finset.mem_union_right _ (Finset.mem_singleton_self _)
  have amortized : (Lease.mk afterOneAligned alignedPtr).Amortized 13441 climb :=
    after alignedPtr mine 13441 climb four stretches
  exact ⟨valid, bare, legal, four, stretches, moves, amortized⟩

end Layer

end MallocLayer
