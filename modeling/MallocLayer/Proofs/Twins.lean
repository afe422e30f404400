import MallocLayer.Proofs.ArenaPolicy
import MallocLayer.Proofs.Refinement

/-!
# Twin layers

Two layers over variants of one primitive, one that accepts addresses inside a
block and one that does not. The first hands interior pointers on, the second
resolves them through its side table. Twins have the same tenancy, and each
operation keeps them twins and gives the same answer on both sides, as long as
the side table has room when an aligned allocation asks for it.
-/

namespace MallocLayer.Layer

open Primitive (Block Contract Variants)

variable {σ τ : Type} [Primitive σ] [Primitive τ]

/-- Layers over the two variants, with the same pointers into the same blocks
and the same bytes everywhere. -/
structure Twins (v : Variants σ τ) (s : Layer σ) (t : Layer τ) (own : Tenancy) : Prop where
  lenient : s.Backs v.lenient own
  strict : t.Backs v.strict own
  alike : v.Alike s.heap t.heap
  config : s.config = t.config
  page : s.page = t.page

/-- The same answer on both sides to a request for a new pointer. -/
inductive DeliverAlike (v : Variants σ τ) (own : Tenancy) :
    Except AllocError Addr × Layer σ → Except AllocError Addr × Layer τ → Prop
  | failed {err : AllocError} {s : Layer σ} {t : Layer τ} (twins : Twins v s t own) :
      DeliverAlike v own (.error err, s) (.error err, t)
  | delivered {p : Addr} {b : Block} {s : Layer σ} {t : Layer τ}
      (twins : Twins v s t (own.give p b)) : DeliverAlike v own (.ok p, s) (.ok p, t)

/-- The same answer on both sides to a request to resize `p`. -/
inductive ResizeAlike (v : Variants σ τ) (own : Tenancy) (p : Addr) (size : UInt64)
    (onFailure : OnFailure) :
    Except AllocError Reallocated × Layer σ → Except AllocError Reallocated × Layer τ → Prop
  | inPlace {s : Layer σ} {t : Layer τ} (twins : Twins v s t own) :
      ResizeAlike v own p size onFailure (.ok (.inPlace p), s) (.ok (.inPlace p), t)
  | moved {q : Addr} {d : Block} {s : Layer σ} {t : Layer τ}
      (twins : Twins v s t ((own.drop p).give q d)) :
      ResizeAlike v own p size onFailure (.ok (.moved q), s) (.ok (.moved q), t)
  | released {s : Layer σ} {t : Layer τ} (twins : Twins v s t (own.drop p)) :
      ResizeAlike v own p size onFailure (.ok .released, s) (.ok .released, t)
  | lost {err : AllocError} {s : Layer σ} {t : Layer τ} (forfeits : Forfeits size onFailure)
      (twins : Twins v s t (own.drop p)) :
      ResizeAlike v own p size onFailure (.error err, s) (.error err, t)
  | failed {err : AllocError} {s : Layer σ} {t : Layer τ} (keeps : ¬ Forfeits size onFailure)
      (twins : Twins v s t own) :
      ResizeAlike v own p size onFailure (.error err, s) (.error err, t)

variable {v : Variants σ τ} {s s' : Layer σ} {t t' : Layer τ} {own : Tenancy} {p : Addr} {b : Block}

namespace Twins

/-! ## 1. Steps -/

theorem live_eq (h : Twins v s t own) : v.lenient.live s.heap = v.strict.live t.heap := by
  ext b
  rw [h.lenient.mem_live, h.strict.mem_live]

theorem trace (h : Twins v s t own) (e : Lifecycle.Event) : Twins v (s.trace e) (t.trace e) own where
  lenient := h.lenient.trace e
  strict := h.strict.trace e
  alike := by
    rw [trace_heap, trace_heap]
    exact h.alike
  config := by
    rw [trace_config, trace_config]
    exact h.config
  page := by
    rw [trace_page, trace_page]
    exact h.page

/-- Allocation fails on both sides, or yields the same new block. -/
theorem malloc (h : Twins v s t own) (size : UInt64) :
    (∃ s' t', s.malloc size = (.error (.outOfMemory size), s') ∧
      t.malloc size = (.error (.outOfMemory size), t') ∧ Twins v s' t' own) ∨
    ∃ b s' t', s.malloc size = (.ok b.start, s') ∧ t.malloc size = (.ok b.start, t') ∧
      max size.toNat 1 ≤ b.capacity.toNat ∧ own b.start = none ∧
      Twins v s' t' (own.give b.start b) := by
  unfold Layer.malloc
  rcases h.alike.allocate h.lenient.valid h.strict.valid size with
    ⟨k, k', answer, answer', leads, leads', alike⟩ |
    ⟨b, k, k', answer, answer', large, ⟨new, leads⟩, ⟨new', leads'⟩, alike⟩
  · rw [answer, answer']
    exact .inl ⟨_, _, rfl, rfl, (h.lenient.stay leads).1, (h.strict.stay leads').1, alike, h.config, h.page⟩
  · rw [answer, answer']
    obtain ⟨unowned, backs, _⟩ := h.lenient.give new leads
    obtain ⟨_, backs', _⟩ := h.strict.give new' leads'
    exact .inr ⟨b, _, _, rfl, rfl, large, unowned, backs, backs', alike, h.config, h.page⟩

/-- A block that was just allocated goes back on both sides. -/
theorem deallocate (h : Twins v s t (own.give b.start b)) (new : own b.start = none) :
    Twins v (s.deallocate b.start) (t.deallocate b.start) own where
  lenient := (h.lenient.deallocate new).1
  strict := (h.strict.deallocate new).1
  alike := h.alike.deallocate h.lenient.valid h.strict.valid (h.lenient.mem Tenancy.give_self)
    (h.strict.mem Tenancy.give_self) (.inl rfl) (.inl rfl)
  config := h.config
  page := h.page

theorem free (h : Twins v s t own) (held : own p = some b) :
    Twins v (s.free (some p)) (t.free (some p)) (own.drop p) where
  lenient := (h.lenient.free held).1
  strict := (h.strict.free held).1
  alike := by
    rw [h.lenient.free_heap held, h.strict.free_heap held]
    exact h.alike.deallocate h.lenient.valid h.strict.valid (h.lenient.mem held)
      (h.strict.mem held) (h.lenient.named held) (h.strict.named held)
  config := h.config
  page := h.page

/-- A block is measured by its start, which both sides take. -/
theorem measure (h : Twins v s t own) (held : own b.start = some b) :
    (Primitive.usableSize s.heap b.start).1 = (Primitive.usableSize t.heap b.start).1 ∧
      Twins v { s with heap := (Primitive.usableSize s.heap b.start).2 }
        { t with heap := (Primitive.usableSize t.heap b.start).2 } own := by
  have member := h.lenient.mem held
  have member' := h.strict.mem held
  obtain ⟨room, leads⟩ := v.lenient.measured h.lenient.valid member (.inl rfl)
  obtain ⟨room', leads'⟩ := v.strict.measured h.strict.valid member' (.inl rfl)
  exact ⟨UInt64.toNat_inj.1 (room.trans room'.symm), (h.lenient.stay leads).1,
    (h.strict.stay leads').1,
    h.alike.usableSize h.lenient.valid h.strict.valid member member' (.inl rfl) (.inl rfl),
    h.config, h.page⟩

theorem usableSize (h : Twins v s t own) (held : own p = some b) :
    (s.usableSize (some p)).1 = (t.usableSize (some p)).1 ∧
      (s.usableSize (some p)).1.toNat = b.room p ∧
      Twins v (s.usableSize (some p)).2 (t.usableSize (some p)).2 own := by
  obtain ⟨room, backs, _⟩ := h.lenient.usableSize held
  obtain ⟨room', backs', _⟩ := h.strict.usableSize held
  refine ⟨UInt64.toNat_inj.1 (room.trans room'.symm), room, backs, backs', ?_, h.config, h.page⟩
  have named := h.lenient.named held
  have named' := h.strict.named held
  -- The two sides ask by different addresses, which name the same block.
  rw [← h.lenient.originOf_eq held] at named
  rw [← h.strict.originOf_eq held] at named'
  exact h.alike.usableSize h.lenient.valid h.strict.valid (h.lenient.mem held)
    (h.strict.mem held) named named'

/-- The same bytes are stored in the same block. -/
theorem store (h : Twins v s t own) (held : own p = some b) {a size : UInt64}
    (covers : b.Covers a size) (f : UInt64 → UInt8) :
    Twins v (s.mapMemory (·.store a size f)) (t.mapMemory (·.store a size f)) own where
  lenient := (h.lenient.store held covers f).1
  strict := (h.strict.store held covers f).1
  alike := by
    refine h.alike.write h.lenient.valid h.strict.valid (fun x => ?_) ?_ ?_
    · rw [Memory.read_store, Memory.read_store, h.alike.memory]
    · exact fun x free => covers.read_store_outside (free b (h.lenient.mem held))
    · exact fun x free => covers.read_store_outside (free b (h.strict.mem held))
  config := h.config
  page := h.page

/-- The same bytes are copied into the same block. -/
theorem copy (h : Twins v s t own) (held : own p = some b) {dst size : UInt64}
    (covers : b.Covers dst size) (src : Addr) :
    Twins v (s.mapMemory (·.copy dst src size)) (t.mapMemory (·.copy dst src size)) own := by
  have bytes : (fun i => t.heap.memory.read (src + i)) = fun i => s.heap.memory.read (src + i) :=
    funext fun i => (h.alike.memory (src + i)).symm
  rw [mapMemory_copy, mapMemory_copy, bytes]
  exact h.store held covers fun i => s.heap.memory.read (src + i)

/-! ## 2. Allocation -/

theorem malloc_alike (h : Twins v s t own) (size : UInt64) :
    DeliverAlike v own (s.malloc size) (t.malloc size) := by
  rcases h.malloc size with
    ⟨s', t', answer, answer', twins⟩ | ⟨b, s', t', answer, answer', _, _, twins⟩
  · rw [answer, answer']
    exact .failed twins
  · rw [answer, answer']
    exact .delivered twins

theorem calloc_alike (h : Twins v s t own) (count size : UInt64) :
    DeliverAlike v own (s.calloc count size) (t.calloc count size) := by
  unfold Layer.calloc
  rcases Word.mul? count size with _ | total
  · exact .failed (h.trace _)
  · rcases h.malloc total with
      ⟨s', t', answer, answer', twins⟩ | ⟨b, s', t', answer, answer', large, new, twins⟩
    · simp only [answer, answer']
      exact .failed twins
    · simp only [answer, answer']
      have held : own.give b.start b b.start = some b := Tenancy.give_self
      have fits : total.toNat ≤ b.room b.start := by
        rw [room_start]
        omega
      exact .delivered (twins.store held (twins.lenient.covers held fits) _)

theorem strdup_alike (h : Twins v s t own) (text : CString) :
    DeliverAlike v own (s.strdup text) (t.strdup text) := by
  unfold Layer.strdup
  rcases h.malloc (UInt64.ofNat text.stored.size) with
    ⟨s', t', answer, answer', twins⟩ | ⟨b, s', t', answer, answer', large, new, twins⟩
  · simp only [answer, answer']
    exact .failed twins
  · simp only [answer, answer']
    have held : own.give b.start b b.start = some b := Tenancy.give_self
    have fits : (UInt64.ofNat text.stored.size).toNat ≤ b.room b.start := by
      rw [room_start]
      omega
    exact .delivered (twins.store held (twins.lenient.covers held fits) _)

/-- An attempt has the same outcome on both sides, and changes no side table. -/
theorem attempt (h : Twins v s t own) (alignment size : UInt64) :
    (∃ err s' t', s.attempt alignment size = (.error err, s') ∧
      t.attempt alignment size = (.error err, t') ∧ Twins v s' t' own) ∨
    (∃ b s' t', s.attempt alignment size = (.ok (.done b.start), s') ∧
      t.attempt alignment size = (.ok (.done b.start), t') ∧
      Twins v s' t' (own.give b.start b)) ∨
    ∃ s' t', s.attempt alignment size = (.ok .misaligned, s') ∧
      t.attempt alignment size = (.ok .misaligned, t') ∧ t'.origins = t.origins ∧
      Twins v s' t' own := by
  have origins : (t.malloc size).2.origins = t.origins := malloc_origins t size
  unfold Layer.attempt
  rcases h.malloc size with
    ⟨s', t', answer, answer', twins⟩ | ⟨b, s', t', answer, answer', _, new, twins⟩
  · rw [answer, answer']
    exact .inl ⟨_, s', t', rfl, rfl, twins⟩
  · rw [answer'] at origins
    rw [answer, answer']
    by_cases aligned : isAligned b.start alignment
    · simp only [aligned, if_true]
      exact .inr (.inl ⟨b, s', t', rfl, rfl, twins⟩)
    · simp only [aligned]
      exact .inr (.inr ⟨_, _, rfl, rfl, origins, twins.deallocate new⟩)

/-- The pointer moves inside its block on both sides. The strict side enters it
into the side table, which has room. -/
theorem enter (h : Twins v s t own) (held : own b.start = some b) (inside : b.Holds p)
    (aligned : 16 ∣ p.toNat) (ne : p ≠ b.start)
    (room : t.trackedAlignedBlocks < OriginTable.capacity) :
    (t.origins.insert p b.start).1 = true ∧
      Twins v s { t with origins := (t.origins.insert p b.start).2 }
        ((own.drop b.start).give p b) := by
  -- The lenient side has an empty table before and after.
  obtain ⟨m, represents, entries⟩ := h.lenient.table
  have untracked : ∃ m, s.origins.Represents m ∧
      ∀ a, m[a]? = v.lenient.originIn ((own.drop b.start).give p b) a :=
    ⟨m, represents, fun a => (entries a).trans
      (by simp [Contract.originIn, v.lenient_interior])⟩
  rcases h.strict.insert_origin held inside aligned ne v.strict_interior with
    ⟨size, -⟩ | ⟨entered, table⟩
  · exact absurd size (Nat.ne_of_lt room)
  · refine ⟨entered, (h.lenient.move held inside aligned ne untracked).2,
      (h.strict.move held inside aligned ne table).2, h.alike, h.config, h.page⟩

theorem attemptInside_alike (h : Twins v s t own) {alignment total : UInt64} {k rest : Nat}
    (pow : alignment.toNat = 2 ^ k) (even : 16 ∣ alignment.toNat)
    (large : total.toNat = 2 * alignment.toNat + rest)
    (room : t.trackedAlignedBlocks < OriginTable.capacity) :
    DeliverAlike v own (s.attemptInside alignment total) (t.attemptInside alignment total) := by
  have origins : (t.malloc total).2.origins = t.origins := malloc_origins t total
  unfold Layer.attemptInside
  rcases h.malloc total with
    ⟨s', t', answer, answer', twins⟩ | ⟨b, s', t', answer, answer', wide, new, twins⟩
  · rw [answer, answer']
    exact .failed twins
  · rw [answer'] at origins
    rw [answer, answer']
    have held : own.give b.start b b.start = some b := Tenancy.give_self
    have capacity : 2 * alignment.toNat + rest ≤ b.capacity.toNat := by omega
    obtain ⟨inside, natural, -, -⟩ := alignUp_inside (twins.lenient.proper held) pow even capacity
    dsimp only
    by_cases same : alignUp b.start alignment = b.start
    · rw [if_pos same, if_pos same]
      exact .delivered twins
    · have accepts : s'.acceptsInterior = true :=
        (v.lenient.acceptsInterior_eq twins.lenient.valid).trans v.lenient_interior
      have accepts' : t'.acceptsInterior = false :=
        (v.strict.acceptsInterior_eq twins.strict.valid).trans v.strict_interior
      have room' : t'.trackedAlignedBlocks < OriginTable.capacity := by
        rwa [trackedAlignedBlocks, origins]
      obtain ⟨entered, moved⟩ := twins.enter held inside natural same room'
      rw [Tenancy.drop_give new] at moved
      simp only [if_neg same, accepts, accepts', entered, if_true, Bool.false_eq_true, if_false]
      exact .delivered (moved.trace _)

theorem memalignPadded_alike (h : Twins v s t own) {alignment : UInt64} {k : Nat}
    (pow : alignment.toNat = 2 ^ k) (even : 16 ∣ alignment.toNat) (size : UInt64)
    (room : t.trackedAlignedBlocks < OriginTable.capacity) :
    DeliverAlike v own (s.memalignPadded alignment size) (t.memalignPadded alignment size) := by
  unfold Layer.memalignPadded
  rcases paddedSize size alignment with err | padded
  · exact .failed h
  · dsimp only
    rcases h.attempt alignment padded with
      ⟨err, s', t', answer, answer', twins⟩ | ⟨b, s', t', answer, answer', twins⟩ |
      ⟨s', t', answer, answer', origins, twins⟩
    · rw [answer, answer']
      exact .failed twins
    · rw [answer, answer']
      exact .delivered (twins.trace _)
    · rw [answer, answer']
      dsimp only
      rcases twice : overAllocation padded alignment with err | total
      · exact .failed twins
      · have room' : t'.trackedAlignedBlocks < OriginTable.capacity := by
          rwa [trackedAlignedBlocks, origins]
        exact twins.attemptInside_alike pow even (overAllocation_ok twice) room'

theorem memalign_alike (h : Twins v s t own) (alignment size : UInt64)
    (room : t.trackedAlignedBlocks < OriginTable.capacity) :
    DeliverAlike v own (s.memalign alignment size) (t.memalign alignment size) := by
  unfold Layer.memalign
  rcases normalized : normalizeAlignment alignment with err | power
  · exact .failed h
  · obtain ⟨k, pow, -, even⟩ := normalizeAlignment_ok normalized
    dsimp only
    rcases h.attempt power size with
      ⟨err, s', t', answer, answer', twins⟩ | ⟨b, s', t', answer, answer', twins⟩ |
      ⟨s', t', answer, answer', origins, twins⟩
    · rw [answer, answer']
      exact .failed twins
    · rw [answer, answer']
      exact .delivered twins
    · rw [answer, answer']
      have room' : t'.trackedAlignedBlocks < OriginTable.capacity := by
        rwa [trackedAlignedBlocks, origins]
      exact twins.memalignPadded_alike pow even size room'

theorem alignedAlloc_alike (h : Twins v s t own) (alignment size : UInt64)
    (room : t.trackedAlignedBlocks < OriginTable.capacity) :
    DeliverAlike v own (s.alignedAlloc alignment size) (t.alignedAlloc alignment size) := by
  unfold Layer.alignedAlloc
  rcases validateAlignment alignment with err | power
  · exact .failed h
  · dsimp only
    rcases Word.nextMultiple? size power with _ | rounded
    · exact .failed h
    · exact h.memalign_alike power rounded room

theorem posixMemalign_alike (h : Twins v s t own) (alignment size : UInt64)
    (room : t.trackedAlignedBlocks < OriginTable.capacity) :
    DeliverAlike v own (s.posixMemalign alignment size) (t.posixMemalign alignment size) := by
  unfold Layer.posixMemalign
  rcases validateAlignment alignment with err | power
  · exact .failed (h.trace _)
  · have alike := h.memalign_alike power size room
    dsimp only
    generalize s.memalign power size = x, t.memalign power size = y at alike
    cases alike with
    | failed twins => exact .failed (twins.trace _)
    | delivered twins => exact .delivered twins

theorem valloc_alike (h : Twins v s t own) (size : UInt64)
    (room : t.trackedAlignedBlocks < OriginTable.capacity) :
    DeliverAlike v own (s.valloc size) (t.valloc size) := by
  unfold Layer.valloc
  rw [h.page]
  exact h.memalign_alike t.page.bytes size room

theorem goodSize (h : Twins v s t own) (size : UInt64) :
    (s.goodSize size).1 = (t.goodSize size).1 ∧
      Twins v (s.goodSize size).2 (t.goodSize size).2 own := by
  unfold Layer.goodSize
  rcases h.malloc size with
    ⟨s', t', answer, answer', twins⟩ | ⟨b, s', t', answer, answer', _, new, twins⟩
  · rw [answer, answer']
    exact ⟨rfl, twins⟩
  · rw [answer, answer']
    have held : own.give b.start b b.start = some b := Tenancy.give_self
    obtain ⟨same, measured⟩ := twins.measure held
    exact ⟨same, measured.deallocate new⟩

/-! ## 3. Reallocation -/

theorem reallocZero_alike (h : Twins v s t own) (held : own p = some b) {onFailure : OnFailure} :
    ResizeAlike v own p 0 onFailure (s.reallocZero p) (t.reallocZero p) := by
  simp only [Layer.reallocZero]
  generalize ({ level := .trace, symbol := "realloc", event := "realloc_zero_size",
                outcome := "released", ptr := some p } : Lifecycle.Event) = e
  have twins := (h.free held).trace e
  rw [twins.config]
  rcases ((t.free (some p)).trace e).config.zeroSize with _ | _
  · dsimp only
    rcases twins.malloc 1 with
      ⟨s', t', answer, answer', twins'⟩ | ⟨b, s', t', answer, answer', _, _, twins'⟩
    · rw [answer, answer']
      exact .lost (.inl rfl) twins'
    · rw [answer, answer']
      exact .moved twins'
  · exact .released twins

theorem reallocMove_alike (h : Twins v s t own) (held : own p = some b) {old size : UInt64}
    (measured : old.toNat = b.room p) (nonzero : size ≠ 0) {onFailure : OnFailure} :
    ResizeAlike v own p size onFailure (s.reallocMove p old size onFailure)
      (t.reallocMove p old size onFailure) := by
  simp only [Layer.reallocMove]
  have large := le_moveTarget old size
  generalize moveTarget old size = target at large
  rcases h.malloc target with
    ⟨s', t', answer, answer', twins⟩ | ⟨d, s', t', answer, answer', wide, new, twins⟩
  · rw [answer, answer']
    by_cases forfeits : onFailure = .releaseBlock
    · simp only [forfeits, if_true]
      exact .lost (.inr rfl) ((twins.free held).trace _)
    · simp only [forfeits, if_false]
      exact .failed (fun either => either.elim nonzero forfeits) (twins.trace _)
  · rw [answer, answer']
    have ne : d.start ≠ p := Tenancy.ne_of_held new held
    have fresh : own.give d.start d d.start = some d := Tenancy.give_self
    have fits : (min old size).toNat ≤ d.room d.start := by
      rw [room_start, UInt64.toNat_min]
      omega
    have there : own.give d.start d p = some b := by rwa [Tenancy.give_of_ne ne.symm]
    have moved := (twins.copy fresh (twins.lenient.covers fresh fits) p).free there
    rw [Tenancy.give_drop_comm ne] at moved
    exact .moved (moved.trace _)

theorem reallocWith_alike (h : Twins v s t own) (held : own p = some b) {size : UInt64}
    {onFailure : OnFailure} :
    ResizeAlike v own p size onFailure (s.reallocWith (some p) size onFailure)
      (t.reallocWith (some p) size onFailure) := by
  simp only [Layer.reallocWith]
  by_cases zero : size = 0
  · subst zero
    exact h.reallocZero_alike held
  · obtain ⟨same, room, twins⟩ := h.usableSize held
    rw [if_neg zero, if_neg zero, ← same]
    split
    · exact .inPlace (twins.trace _)
    · exact twins.reallocMove_alike held room zero

/-! ## 4. Programs -/

variable {owned : Ledger} {size : UInt64} {onFailure : OnFailure}

/-- Both sides answer the request alike and stay twins, over the pointers that
the client then has. -/
def Serve (v : Variants σ τ) (s : Layer σ) (t : Layer τ) (owned : Ledger) (r : Request) : Prop :=
  (s.serve r).1 = (t.serve r).1 ∧ ∃ own, Twins v (s.serve r).2 (t.serve r).2 own ∧
    own.Lists (r.settle owned (t.serve r).1)

/-- A request for a new pointer is answered alike. -/
theorem gain {x : Except AllocError Addr × Layer σ} {y : Except AllocError Addr × Layer τ}
    (alike : DeliverAlike v own x y) (lists : own.Lists owned) {r : Request}
    (plain : r.surrenders (.pointer y.1) = none) :
    Reply.pointer x.1 = .pointer y.1 ∧ ∃ own, Twins v x.2 y.2 own ∧
      own.Lists (r.settle owned (.pointer y.1)) := by
  cases alike with
  | failed twins =>
    rw [Request.settle_quiet plain rfl]
    exact ⟨rfl, own, twins, lists⟩
  | delivered twins =>
    rw [Request.settle_gain plain rfl]
    exact ⟨rfl, _, twins, lists.give⟩

/-- A request to resize a pointer is answered alike. -/
theorem resize {x : Except AllocError Reallocated × Layer σ}
    {y : Except AllocError Reallocated × Layer τ} (alike : ResizeAlike v own p size onFailure x y)
    (held : own p = some b) (lists : own.Lists owned) :
    Reply.resized x.1 = .resized y.1 ∧ ∃ own, Twins v x.2 y.2 own ∧
      own.Lists (Request.resettle owned (some p) size onFailure y.1) := by
  cases alike with
  | inPlace twins =>
    rw [Request.resettle_inPlace ((lists p).2 ⟨b, held⟩)]
    exact ⟨rfl, own, twins, lists⟩
  | moved twins => exact ⟨rfl, _, twins, Request.resettle_moved ▸ lists.drop.give⟩
  | released twins =>
    rw [Request.resettle_released]
    exact ⟨rfl, _, twins, lists.drop⟩
  | lost forfeits twins =>
    rw [Request.resettle_lost forfeits]
    exact ⟨rfl, _, twins, lists.drop⟩
  | failed keeps twins =>
    rw [Request.resettle_failed keeps]
    exact ⟨rfl, own, twins, lists⟩

/-- A reallocation is answered alike. -/
theorem reallocate (h : Twins v s t own) (lists : own.Lists owned) {ptr : Option Addr}
    (legal : owned.Admits ptr) :
    Reply.resized (s.reallocWith ptr size onFailure).1 =
        .resized (t.reallocWith ptr size onFailure).1 ∧
      ∃ own, Twins v (s.reallocWith ptr size onFailure).2 (t.reallocWith ptr size onFailure).2 own ∧
        own.Lists (Request.resettle owned ptr size onFailure
          (t.reallocWith ptr size onFailure).1) := by
  cases ptr with
  | some p =>
    obtain ⟨b, held⟩ := (lists p).1 legal
    exact resize (h.reallocWith_alike held) held lists
  | none =>
    have alike := h.malloc_alike size
    rw [reallocWith_none, reallocWith_none]
    generalize s.malloc size = x, t.malloc size = y at alike
    cases alike with
    | failed twins => exact ⟨rfl, own, twins, Request.resettle_none_error.symm ▸ lists⟩
    | delivered twins => exact ⟨rfl, _, twins, Request.resettle_none_moved.symm ▸ lists.give⟩

/-- A pointer, or null, is released on both sides. -/
theorem release (h : Twins v s t own) (lists : own.Lists owned) {ptr : Option Addr}
    (legal : owned.Admits ptr) :
    ∃ own, Twins v (s.free ptr) (t.free ptr) own ∧ own.Lists (owned \ ptr.toFinset ∪ ∅) := by
  rw [Finset.union_empty]
  cases ptr with
  | none => exact ⟨own, h, by simpa using lists⟩
  | some p =>
    obtain ⟨b, held⟩ := (lists p).1 legal
    exact ⟨_, h.free held, by simpa using lists.drop (p := p)⟩

/-- Every legal request is answered alike, if the side table has room when an
aligned allocation may need it. -/
theorem serve (h : Twins v s t own) (lists : own.Lists owned) (r : Request)
    (legal : r.Legal t owned)
    (room : r.Aligns → t.trackedAlignedBlocks < OriginTable.capacity) : Serve v s t owned r := by
  cases r with
  | malloc size => exact gain (h.malloc_alike size) lists rfl
  | calloc count size => exact gain (h.calloc_alike count size) lists rfl
  | strdup text => exact gain (h.strdup_alike text) lists rfl
  | memalign alignment size =>
    exact gain (h.memalign_alike alignment size (room trivial)) lists rfl
  | alignedAlloc alignment size =>
    exact gain (h.alignedAlloc_alike alignment size (room trivial)) lists rfl
  | posixMemalign alignment size =>
    exact gain (h.posixMemalign_alike alignment size (room trivial)) lists rfl
  | valloc size => exact gain (h.valloc_alike size (room trivial)) lists rfl
  | realloc ptr size => exact h.reallocate lists legal
  | reallocf ptr size => exact h.reallocate lists legal
  | free ptr => exact ⟨rfl, h.release lists legal⟩
  | vfree ptr => exact ⟨rfl, h.release lists legal⟩
  | usableSize ptr =>
    rw [Serve, Request.settle_quiet rfl rfl]
    cases ptr with
    | none => exact ⟨rfl, own, h, lists⟩
    | some p =>
      obtain ⟨b, held⟩ := (lists p).1 legal
      obtain ⟨same, _, twins⟩ := h.usableSize held
      exact ⟨congrArg Reply.size same, own, twins, lists⟩
  | goodSize size =>
    rw [Serve, Request.settle_quiet rfl rfl]
    obtain ⟨same, twins⟩ := h.goodSize size
    exact ⟨congrArg Reply.size same, own, twins, lists⟩
  | write p offset bytes =>
    rw [Serve, Request.settle_quiet rfl rfl]
    obtain ⟨member, within⟩ := legal
    obtain ⟨b, held⟩ := (lists p).1 member
    rw [(h.strict.usableSize held).1] at within
    exact ⟨rfl, own, h.store held (h.strict.covers_write held within) _, lists⟩

end Twins

/-- What a client, and one who counts the blocks, can tell apart: the live
blocks, the usable sizes and the bytes. -/
structure Indistinguishable (v : Variants σ τ) (s : Layer σ) (t : Layer τ) (owned : Ledger) :
    Prop where
  live : v.lenient.live s.heap = v.strict.live t.heap
  usable : ∀ p ∈ owned, (s.usableSize (some p)).1 = (t.usableSize (some p)).1
  bytes : ∀ x, s.heap.memory.read x = t.heap.memory.read x

/-- The two layers give the same replies to the program, and cannot be told
apart before it and after each request. -/
def Coincide (v : Variants σ τ) (s : Layer σ) (t : Layer τ) (owned : Ledger) :
    List Request → Prop
  | [] => Indistinguishable v s t owned
  | r :: rest =>
    Indistinguishable v s t owned ∧ (s.serve r).1 = (t.serve r).1 ∧
      Coincide v (s.serve r).2 (t.serve r).2 (r.settle owned (t.serve r).1) rest

/-- The side table has room before each aligned allocation of the program. -/
def HasRoom (t : Layer τ) : List Request → Prop
  | [] => True
  | r :: rest =>
    (r.Aligns → t.trackedAlignedBlocks < OriginTable.capacity) ∧ HasRoom (t.serve r).2 rest

instance HasRoom.decidable (t : Layer τ) : (program : List Request) → Decidable (t.HasRoom program)
  | [] => inferInstanceAs (Decidable True)
  | r :: rest =>
    have := HasRoom.decidable (t.serve r).2 rest
    inferInstanceAs (Decidable
      ((r.Aligns → t.trackedAlignedBlocks < OriginTable.capacity) ∧ HasRoom (t.serve r).2 rest))

theorem Twins.indistinguishable {owned : Ledger} (h : Twins v s t own) (lists : own.Lists owned) :
    Indistinguishable v s t owned where
  live := h.live_eq
  usable p member := by
    obtain ⟨b, held⟩ := (lists p).1 member
    exact (h.usableSize held).1
  bytes := h.alike.memory

theorem Twins.coincide {owned : Ledger} {program : List Request} (h : Twins v s t own)
    (lists : own.Lists owned) (legal : t.LegalRun owned program) (room : t.HasRoom program) :
    Coincide v s t owned program := by
  induction program generalizing s t owned own with
  | nil => exact h.indistinguishable lists
  | cons r rest ih =>
    obtain ⟨same, own', twins, lists'⟩ := h.serve lists r legal.1 room.1
    exact ⟨h.indistinguishable lists, same, ih twins lists' legal.2 room.2⟩

/-- Two layers over variants of one primitive coincide on every legal program
that starts with empty heaps, as long as the side table has room. -/
theorem ofHeap_coincide (v : Variants σ τ) {h : Heap σ} {h' : Heap τ} (valid : v.lenient.Valid h)
    (valid' : v.strict.Valid h') (bare : v.lenient.live h = ∅) (bare' : v.strict.live h' = ∅)
    (alike : v.Alike h h') (page : PageSize) (config : Config) (program : List Request)
    (legal : (ofHeap h' page config).LegalRun ∅ program)
    (room : (ofHeap h' page config).HasRoom program) :
    Coincide v (ofHeap h page config) (ofHeap h' page config) ∅ program := by
  have start := accounts_ofHeap valid bare page config
  have start' := accounts_ofHeap valid' bare' page config
  have twins : Twins v (ofHeap h page config) (ofHeap h' page config) fun _ => none :=
    ⟨start.backs, start'.backs, alike, rfl, rfl⟩
  exact twins.coincide start.lists legal room

/-- The same arena, but for the addresses that it accepts. -/
def lenient : Arena.Script := { skewed with interior := true }

theorem ofHeap_coincide_tour :
    (ofHeap (Arena.fresh skewed) widePages).LegalRun ∅ tour ∧
      (ofHeap (Arena.fresh skewed) widePages).HasRoom tour ∧
      Coincide (Arena.variants skewed skewed_fits) (ofHeap (Arena.fresh lenient) widePages)
        (ofHeap (Arena.fresh skewed) widePages) ∅ tour := by
  have legal : (ofHeap (Arena.fresh skewed) widePages).LegalRun ∅ tour := by decide +kernel
  have room : (ofHeap (Arena.fresh skewed) widePages).HasRoom tour := by decide +kernel
  exact ⟨legal, room, ofHeap_coincide (Arena.variants skewed skewed_fits)
    (Arena.valid_fresh lenient skewed_fits) (Arena.valid_fresh skewed skewed_fits)
    (Arena.live_fresh lenient skewed_fits) (Arena.live_fresh skewed skewed_fits)
    (Arena.variants_fresh skewed skewed_fits) widePages {} tour legal room⟩

end MallocLayer.Layer
