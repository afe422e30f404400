import MallocLayer.Proofs.Refinement

/-!
# Failed reallocation

What the caller of `realloc` has after an error. For every size but zero it is
what it had before: the block, the entry in the side table, the usable size and
the bytes (`Spares`).

Size zero is different. The block is released first, and only then is the object
asked for that takes its place. If that object cannot be had, the caller gets an
error and has lost the block (`Loses`).

`ofHeap_realloc_error` says that these are all the errors there are, in every
state that a legal program leads to. `spares_every_size_false` is the program
that shows why the first answer is not the answer for every size.
-/

namespace MallocLayer.Layer

open Primitive (Block Contract)

variable {σ : Type} [Primitive σ]

/-! ## 1. The two answers -/

/-- From `s` to `s'` the caller keeps the pointer and all that is behind it. -/
structure Spares (s : Layer σ) (c : Contract σ) (p : Addr) (s' : Layer σ) : Prop where
  block : ∃ b ∈ c.live s.heap, b.Holds p ∧ b ∈ c.live s'.heap
  entry : s'.origins.originOf p = s.origins.originOf p
  usable : (s'.usableSize (some p)).1 = (s.usableSize (some p)).1
  bytes : s'.heap.memory.readRange p (s.usableSize (some p)).1.toNat =
    s.heap.memory.readRange p (s.usableSize (some p)).1.toNat

/-- From `s` to `s'` the block behind the pointer is released, and no other. -/
structure Loses (s : Layer σ) (c : Contract σ) (p : Addr) (s' : Layer σ) : Prop where
  block : ∃ b ∈ c.live s.heap, b.Holds p ∧ c.live s'.heap = c.live s.heap \ {b}
  entry : s'.origins.originOf p = none

/-- What the error `err` of a request to resize the pointer means. -/
structure FailsAs (s : Layer σ) (c : Contract σ) (p : Addr) (size : UInt64) (err : AllocError)
    (s' : Layer σ) : Prop where
  spares_iff : s.Spares c p s' ↔ size ≠ 0
  live : size ≠ 0 → c.live s'.heap = c.live s.heap
  loses : size = 0 →
    s.config.zeroSize = .minimalObject ∧ err = .outOfMemory 1 ∧ s.Loses c p s'

variable {s s' : Layer σ} {c : Contract σ} {own : Tenancy} {owned : Ledger} {p : Addr} {b : Block}
  {size : UInt64} {err : AllocError}

theorem Backs.live_of_same (h : s.Backs c own) (h' : s'.Backs c own) :
    c.live s'.heap = c.live s.heap := by
  ext d
  rw [h'.mem_live, h.mem_live]

theorem Backs.live_of_drop (h : s.Backs c own) (held : own p = some b)
    (h' : s'.Backs c (own.drop p)) : c.live s'.heap = c.live s.heap \ {b} := by
  ext d
  rw [h'.mem_live, h.injective.exists_drop held, Set.mem_sdiff, Set.mem_singleton_iff, h.mem_live]

theorem Backs.spares (h : s.Backs c own) (held : own p = some b) (h' : s'.Backs c own)
    (kept : s.Kept own s') : s.Spares c p s' := by
  have room : (s.usableSize (some p)).1.toNat = b.room p := (h.usableSize held).1
  have room' : (s'.usableSize (some p)).1.toNat = b.room p := (h'.usableSize held).1
  constructor
  · exact ⟨b, h.mem held, h.holds held, h'.mem held⟩
  · rw [h'.originOf_eq held, h.originOf_eq held]
  · exact UInt64.toNat_inj.1 (room'.trans room.symm)
  · rw [room]
    exact kept.readRange held (h.proper held) (h.holds held)

theorem Backs.loses (h : s.Backs c own) (held : own p = some b)
    (h' : s'.Backs c (own.drop p)) : s.Loses c p s' := by
  constructor
  · exact ⟨b, h.mem held, h.holds held, h.live_of_drop held h'⟩
  · obtain ⟨m, represents, entries⟩ := h'.table
    rw [OriginTable.originOf_eq represents (h.isAddress held).2, entries]
    simp [Contract.originIn]

/-- Only one block holds the pointer, so a caller that lost it was not spared. -/
theorem Backs.not_spares_of_loses (h : s.Backs c own) (loses : s.Loses c p s') :
    ¬ s.Spares c p s' := by
  intro spares
  obtain ⟨b, member, inside, live⟩ := loses.block
  obtain ⟨d, member', inside', still⟩ := spares.block
  obtain rfl := c.apart h.valid d member' b member p inside' inside
  rw [live] at still
  exact still.2 rfl

/-! ## 2. Errors -/

/-- The only failure at size zero is that of the object in place of the block. -/
theorem reallocZero_error (failed : s.reallocZero p = (.error err, s')) :
    s.config.zeroSize = .minimalObject ∧ err = .outOfMemory 1 := by
  simp only [reallocZero, trace_config] at failed
  generalize Layer.trace _ _ = traced at failed
  have same : (s.free (some p)).config = s.config := rfl
  rw [same] at failed
  cases convention : s.config.zeroSize with
  | returnNull =>
    rw [convention] at failed
    cases failed
  | minimalObject =>
    rw [convention] at failed
    refine ⟨rfl, ?_⟩
    rcases answer : Primitive.allocate traced.heap 1 with ⟨_ | block, heap⟩
    · simp only [malloc, answer] at failed
      cases failed
      rfl
    · simp only [malloc, answer] at failed
      cases failed

theorem Accounts.realloc_error (h : s.Accounts c owned own) (mine : p ∈ owned)
    (failed : s.realloc (some p) size = (.error err, s')) : s.FailsAs c p size err s' := by
  obtain ⟨b, held⟩ := (h.lists p).1 mine
  have resizes : s.Resizes c own p b size .keepBlock _ := h.backs.reallocWith_resizes held
  rw [show s.reallocWith (some p) size .keepBlock = _ from failed] at resizes
  cases resizes with
  | failed keeps backs kept =>
    have nonzero : size ≠ 0 := fun zero => keeps (.inl zero)
    have spares := h.backs.spares held backs kept
    exact ⟨iff_of_true spares nonzero, fun _ => h.backs.live_of_same backs,
      fun zero => absurd zero nonzero⟩
  | lost forfeits backs kept =>
    have zero : size = 0 := forfeits.resolve_right nofun
    subst zero
    have loses := h.backs.loses held backs
    refine ⟨?_, fun nonzero => absurd rfl nonzero, fun _ => ?_⟩
    · exact iff_of_false (h.backs.not_spares_of_loses loses) fun nonzero => nonzero rfl
    · obtain ⟨convention, memory⟩ := reallocZero_error failed
      exact ⟨convention, memory, loses⟩

/-- In every state that a legal program over any conforming primitive leads to,
and for every pointer of the client: `realloc` spares the block with an error
exactly if the size is not zero. Then all live blocks stay; with size zero, the
block is lost to the object that could not be had in its place. -/
theorem ofHeap_realloc_error (c : Contract σ) {heap : Heap σ} (valid : c.Valid heap)
    (bare : c.live heap = ∅) (page : PageSize) (config : Config) (program : List Request)
    (legal : (ofHeap heap page config).LegalRun ∅ program) :
    (ofHeap heap page config).Throughout
      (fun s owned => ∀ p ∈ owned, ∀ size err s', s.realloc (some p) size = (.error err, s') →
        s.FailsAs c p size err s')
      ∅ program := by
  refine throughout_of_accounts valid bare page config ?_ legal
  intro s owned own _ accounts p mine size err s' failed
  exact accounts.realloc_error mine failed

/-! ## 3. A program that loses a block -/

/-- An arena in which all calls but the first fail. -/
def onceOnly : Arena.Script where
  fail := [2, 3]

theorem onceOnly_fits : Arena.Fits onceOnly := by decide

/-- A client with one block. -/
def oneBlock : List Request := [.malloc 64]

theorem ofHeap_realloc_error_oneBlock :
    (Arena.contract onceOnly onceOnly_fits).Valid (Arena.fresh onceOnly) ∧
      (Arena.contract onceOnly onceOnly_fits).live (Arena.fresh onceOnly) = ∅ ∧
      (ofHeap (Arena.fresh onceOnly) widePages).LegalRun ∅ oneBlock ∧
      (ofHeap (Arena.fresh onceOnly) widePages).Throughout
        (fun s owned => ∀ p ∈ owned, ∀ size err s', s.realloc (some p) size = (.error err, s') →
          s.FailsAs (Arena.contract onceOnly onceOnly_fits) p size err s')
        ∅ oneBlock := by
  have valid := Arena.valid_fresh onceOnly onceOnly_fits
  have bare := Arena.live_fresh onceOnly onceOnly_fits
  have legal : (ofHeap (Arena.fresh onceOnly) widePages).LegalRun ∅ oneBlock := by decide +kernel
  exact ⟨valid, bare, legal, ofHeap_realloc_error _ valid bare widePages {} oneBlock legal⟩

/-- The layer over that arena, once the client has its block. -/
def afterOneBlock : Layer Arena := ((ofHeap (Arena.fresh onceOnly) widePages).serve (.malloc 64)).2

/-- Not every error spares the block: here the request for size zero does not. -/
theorem spares_every_size_false :
    ¬ (ofHeap (Arena.fresh onceOnly) widePages).Throughout
      (fun s owned => ∀ p ∈ owned, ∀ size err s', s.realloc (some p) size = (.error err, s') →
        s.Spares (Arena.contract onceOnly onceOnly_fits) p s')
      ∅ oneBlock := by
  rintro ⟨-, after⟩
  have mine : Arena.address 0 ∈
      Request.settle ∅ (.malloc 64) ((ofHeap (Arena.fresh onceOnly) widePages).serve (.malloc 64)).1 := by
    decide +kernel
  have failed : (afterOneBlock.realloc (some (Arena.address 0)) 0).1 = .error (.outOfMemory 1) := by
    decide +kernel
  have empty : (afterOneBlock.realloc (some (Arena.address 0)) 0).2.heap.state.blocks = [] := by
    decide +kernel
  have spared : afterOneBlock.Spares (Arena.contract onceOnly onceOnly_fits) (Arena.address 0)
      (afterOneBlock.realloc (some (Arena.address 0)) 0).2 :=
    after _ mine 0 _ _ (Prod.ext failed rfl)
  generalize (afterOneBlock.realloc (some (Arena.address 0)) 0).2 = lost at empty spared
  obtain ⟨_, -, -, block, member, -⟩ := spared.block
  rw [empty] at member
  cases member

end MallocLayer.Layer
