import MallocLayer.Proofs.CheckLogic

/-!
# The scenarios pass

Each scenario, started on an idle layer, passes and leaves the layer idle, unless the system
allocator refused a small request (`Passes`). Idle is what every scenario has to leave for
the next one: no block is out, and no entry is in the side table.

The proofs follow the scenarios step by step, with one rule of `CheckLogic` for each step.
Three of them need more than that. The blocks of a batch are out at the same time, and go
back in the order in which they came. Between the hooks of a fork the log is frozen, so the
layer is idle but for what the first hook holds. And the null convention is checked on a
second layer, of which the first one only takes over the system allocator.
-/

namespace MallocLayer

open Primitive (Block)

variable {α : Type} [SystemAllocator α] {c : SystemContract α}

/-! ## 1. Idle layers -/

namespace Layer

variable {s t : Layer (HeaderHeap (Watched α))}

section Bare

variable (h : s.Backs (HeaderHeap.contract c) fun _ => none)
include h

theorem Backs.bare : (HeaderHeap.contract c).live s.heap = ∅ := by
  refine Set.eq_empty_of_forall_notMem fun b mem => ?_
  obtain ⟨p, held⟩ := (h.mem_live b).1 mem
  cases held

theorem Backs.regions_eq_nil : HeaderHeap.regions s.heap = [] := by
  refine List.eq_nil_iff_forall_not_mem.2 fun r mem => ?_
  obtain ⟨p, held⟩ := (h.mem_live r.behind).1 ⟨r, mem, rfl⟩
  cases held

/-- What was allocated was released. -/
theorem Backs.allocations_eq : s.heap.state.allocations = s.heap.state.deallocations := by
  have order : HeaderHeap.Orderly c s.heap := h.valid
  have counted := order.counted
  rw [h.regions_eq_nil] at counted
  exact counted.trans (UInt64.add_zero _)

theorem Backs.live_eq_zero : s.heap.state.live = 0 := by
  unfold HeaderHeap.live
  rw [← UInt64.toNat_inj, Word.toNat_subSaturating, h.allocations_eq, Nat.sub_self]
  rfl

theorem Backs.tracked_eq_zero : s.trackedAlignedBlocks = 0 := by
  obtain ⟨m, represents, entries⟩ := h.table
  have empty : m = ∅ := Std.ExtHashMap.ext_getElem? fun a => by
    simp [entries, Primitive.Contract.originIn]
  have live := represents.live_eq
  rw [empty] at live
  exact live

end Bare

/-- No block is out, as between two scenarios. -/
def Idle (s : Layer (HeaderHeap (Watched α))) (c : SystemContract α) : Prop :=
  s.Tidy c fun _ => none

namespace Idle

/-- There is a place in the side table. -/
theorem place (idle : s.Idle c) : s.trackedAlignedBlocks < OriginTable.capacity :=
  idle.backs.tracked_eq_zero.trans_lt (by decide)

theorem tryRecord (idle : s.Idle c) (e : Lifecycle.Event) : (s.tryRecord e).Idle c := by
  refine idle.after (idle.backs.congr rfl rfl) rfl rfl ?_
  have free := idle.free
  simp [Layer.tryRecord, LifecycleLog.tryRecord, LifecycleLog.record, free]

end Idle

/-- No block is out, once the hold for a fork is released. -/
def Held (s : Layer (HeaderHeap (Watched α))) (c : SystemContract α) : Prop :=
  s.unlockPrimitive.thaw.Idle c

/-- What the hook before a fork takes is all that has to be released. -/
theorem Idle.held (idle : s.Idle c) (e : Lifecycle.Event) :
    (s.record e).freeze.lockPrimitive.Held c := by
  have order : HeaderHeap.Orderly c s.heap := idle.backs.valid
  obtain ⟨m, represents, entries⟩ := idle.backs.table
  refine ⟨backs_of_bare ?_ idle.backs.bare ⟨m, ?_, entries⟩, idle.zeroSize,
    idle.page_le, rfl⟩
  · show HeaderHeap.Orderly c (s.record e).freeze.lockPrimitive.unlockPrimitive.thaw.heap
    exact ⟨order.lent, order.nodup, order.headed, order.counted⟩
  · exact ⟨represents.entries, represents.unique, represents.reachable, represents.live_eq,
      represents.occupied_card⟩

end Layer

/-! ## 2. Batches -/

/-- The pointers were handed out one after the other, each with room for the size. -/
structure Tenancy.Extends (own : Tenancy) (size : UInt64) (ps : List Addr) (own' : Tenancy) :
    Prop where
  nodup : ps.Nodup
  new : ∀ p ∈ ps, own p = none
  held : ∀ p ∈ ps, ∃ d, own' p = some d ∧ size.toNat ≤ d.room p
  others : ∀ p, p ∉ ps → own' p = own p

namespace Tenancy.Extends

variable {own own' : Tenancy} {size : UInt64} {p : Addr} {ps : List Addr} {d : Block}

theorem nil (own : Tenancy) (size : UInt64) : own.Extends size [] own :=
  ⟨List.nodup_nil, nofun, nofun, fun _ _ => rfl⟩

theorem cons (new : own p = none) (room : size.toNat ≤ d.room p)
    (later : (own.give p d).Extends size ps own') : own.Extends size (p :: ps) own' := by
  have fresh : p ∉ ps := fun mem => by
    have taken := later.new p mem
    rw [give_self] at taken
    cases taken
  have held : own' p = some d := (later.others p fresh).trans give_self
  refine ⟨List.nodup_cons.2 ⟨fresh, later.nodup⟩, ?_, ?_, ?_⟩
  · refine List.forall_mem_cons.2 ⟨new, fun q mem => ?_⟩
    have ne : q ≠ p := fun same => fresh (same ▸ mem)
    exact (give_of_ne ne).symm.trans (later.new q mem)
  · exact List.forall_mem_cons.2 ⟨⟨d, held, room⟩, later.held⟩
  · intro q free
    obtain ⟨ne, free'⟩ := not_or.1 (List.mem_cons.not.1 free)
    exact (later.others q free').trans (give_of_ne ne)

/-- The first pointer goes back. -/
theorem drop_first (h : own.Extends size (p :: ps) own') : own.Extends size ps (own'.drop p) := by
  obtain ⟨fresh, nodup⟩ := List.nodup_cons.1 h.nodup
  refine ⟨nodup, fun q mem => h.new q (.tail _ mem), fun q mem => ?_, fun q free => ?_⟩
  · have ne : q ≠ p := fun same => fresh (same ▸ mem)
    rw [drop_of_ne ne]
    exact h.held q (.tail _ mem)
  · by_cases same : q = p
    · rw [same, drop_self, h.new p (.head _)]
    · rw [drop_of_ne same]
      exact h.others q (List.mem_cons.not.2 (not_or.2 ⟨same, free⟩))

end Tenancy.Extends

namespace Layer

variable {s t : Layer (HeaderHeap (Watched α))} {own own' : Tenancy} {size : UInt64}

/-- A batch of small blocks is complete, unless one of them is refused. -/
theorem Tidy.batchMalloc (tidy : s.Tidy c own) (small : size.toNat ≤ smallBlock)
    (results : List (Option Addr)) :
    ∃ filled blocks t, Zone.batchMalloc s size results = (filled, blocks, t) ∧
      ((filled < results.length ∧ t.Starved) ∨
        filled = results.length ∧ ∃ ps own', blocks = ps.map some ∧ ps.length = filled ∧
          own.Extends size ps own' ∧ t.Tidy c own') := by
  induction results generalizing s own with
  | nil => exact ⟨0, [], s, rfl, .inr ⟨rfl, [], own, rfl, rfl, .nil own size, tidy⟩⟩
  | cons entry rest ih =>
    unfold Zone.batchMalloc
    rcases answer : s.malloc size with ⟨err | p, t⟩
    · exact ⟨0, _, t, rfl, .inl ⟨Nat.zero_lt_succ _, malloc_starves small answer⟩⟩
    · obtain ⟨capacity, total, rounded, -⟩ := HeaderHeap.exists_layout? small
      have new := tidy.granted rounded answer
      have room : size.toNat ≤ Block.room ⟨p, capacity⟩ p := by
        obtain ⟨large, -⟩ := HeaderHeap.toNat_capacity? rounded
        rw [room_start ⟨p, capacity⟩]
        dsimp only
        omega
      obtain ⟨filled, blocks, t', later, post⟩ := ih new.tidy
      simp only [later]
      refine ⟨_, _, t', rfl, ?_⟩
      rcases post with ⟨less, starved⟩ | ⟨all, ps, own', rfl, length, extends', tidy'⟩
      · exact .inl ⟨Nat.succ_lt_succ less, starved⟩
      · exact .inr ⟨congrArg Nat.succ all, p :: ps, own', rfl, congrArg Nat.succ length,
          .cons new.unowned room extends', tidy'⟩

/-- A batch that goes back leaves nothing. -/
theorem Tidy.batchFree {ps : List Addr} (tidy : s.Tidy c own') (batch : own.Extends size ps own') :
    (Zone.batchFree s (ps.map some)).Tidy c own := by
  induction ps generalizing s own' with
  | nil =>
    have same : own' = own := funext fun p => batch.others p nofun
    exact same ▸ tidy
  | cons p rest ih =>
    obtain ⟨d, held, -⟩ := batch.held p (.head _)
    exact ih (tidy.free_block held) batch.drop_first

/-- Releasing blocks makes no refusal forgotten. -/
theorem Starved.batchFree (starved : s.Starved) (blocks : List (Option Addr)) :
    (Zone.batchFree s blocks).Starved := by
  exact starved.later (f := fun s => ((), Zone.batchFree s blocks)) fun past s =>
    congrArg ((), ·) (project_batchFree (carried (Watched.withPast_projects past)) s blocks)

end Layer

/-! ## 3. The null convention -/

namespace Layer

variable {s : Layer (HeaderHeap (Watched α))}

theorem Idle.backs_beside (idle : s.Idle c) :
    s.beside.Backs (HeaderHeap.contract c) fun _ => none := by
  have order : HeaderHeap.Orderly c s.heap := idle.backs.valid
  refine backs_of_bare ?_ idle.backs.bare (represents_no_tenancy _)
  show HeaderHeap.Orderly c s.beside.heap
  refine ⟨order.lent, order.nodup, order.headed, ?_⟩
  show 0 = 0 + UInt64.ofNat (HeaderHeap.regions s.heap).length
  rw [idle.backs.regions_eq_nil]
  rfl

/-- Another layer over the same system allocator that leaves nothing out may be adopted. -/
theorem Idle.adopt {inner : Layer (HeaderHeap (Watched α))} (idle : s.Idle c)
    (h : inner.Backs (HeaderHeap.contract c) fun _ => none) : (s.adopt inner).Idle c := by
  have order : HeaderHeap.Orderly c inner.heap := h.valid
  refine ⟨backs_of_bare ?_ h.bare idle.backs.table, idle.zeroSize, idle.page_le, idle.free⟩
  show HeaderHeap.Orderly c (s.adopt inner).heap
  refine ⟨order.lent, order.nodup, order.headed, ?_⟩
  show s.heap.state.allocations =
    s.heap.state.deallocations + UInt64.ofNat (HeaderHeap.regions inner.heap).length
  rw [h.regions_eq_nil, idle.backs.allocations_eq]
  exact (UInt64.add_zero _).symm

/-- Under the null convention a block is released for nothing, unless it was refused. -/
theorem Idle.zeroRound (idle : s.Idle c) :
    (∃ inner, s.beside.zeroRound = (.ok .released, inner) ∧ inner.heap.state.live = 0 ∧
      (s.adopt inner).Idle c) ∨
    ∃ failure inner, s.beside.zeroRound = (.error failure, inner) ∧ (s.adopt inner).Starved := by
  have backs := idle.backs_beside
  unfold Layer.zeroRound
  rcases answer : s.beside.malloc 64 with ⟨err | p, t⟩
  · have starved : t.Starved := malloc_starves (by decide) answer
    exact .inr ⟨_, t, rfl, starved⟩
  · obtain ⟨d, rfl, -, unowned, granted, kept, -⟩ := backs.granted answer
    obtain ⟨released, logs, outcome, -⟩ := realloc_zero_eq t d.start
    obtain ⟨back, -⟩ := granted.free Tenancy.give_self
    rw [Tenancy.drop_give unowned] at back
    have back' := logs.backs back
    refine .inl ⟨released, ?_, back'.live_eq_zero, idle.adopt back'⟩
    dsimp only
    rw [outcome (congrArg Config.zeroSize kept.config)]
    rfl

end Layer

/-! ## 4. The scenarios -/

/-- A C string ends at its terminator, whatever is behind that. -/
theorem CString.ofBytes_bytes {text : CString} {bytes : List UInt8}
    (starts : bytes.take text.stored.size = text.bytes ++ [0]) :
    (ofBytes bytes).bytes = text.bytes := by
  have plain : ∀ b ∈ text.bytes, (b != 0) = true := fun b mem =>
    bne_iff_ne.2 fun zero => text.no_zero (zero ▸ mem)
  show bytes.takeWhile (· != 0) = _
  rw [← bytes.take_append_drop text.stored.size, starts, List.append_assoc,
    List.takeWhile_append_of_pos plain]
  exact List.append_nil _

namespace SelfCheck.Scenario

open Check (Yields)

variable {s : Layer (HeaderHeap (Watched α))}

/-- On an idle layer the check passes, unless memory is short, and leaves the layer idle. -/
def Passes (c : SystemContract α) (x : Check (Watched α) Unit) : Prop :=
  ∀ s : Layer (HeaderHeap (Watched α)), s.Idle c → x.Yields s fun _ t => t.Idle c

theorem shrinkStaysInPlace_passes : Passes c shrinkStaysInPlace := by
  intro s idle
  have rounded : HeaderHeap.capacity? 200 = some 208 := rfl
  refine (Yields.malloc idle rounded (by decide)).bind fun p t new => ?_
  refine (Yields.usable_start new).bind ?_
  rintro u t ⟨rfl, rfl⟩
  refine (Yields.inPlace new (by decide)).bind ?_
  rintro r t ⟨rfl, new⟩
  refine (Yields.release new).bind fun _ t idle => ?_
  exact Yields.ensure (by simp) idle

theorem deepShrinkMoves_passes : Passes c deepShrinkMoves := by
  intro s idle
  have rounded : HeaderHeap.capacity? 1024 = some 1024 := rfl
  have shrunk : HeaderHeap.capacity? (Layer.moveTarget 1024 16) = some 16 := rfl
  refine (Yields.malloc idle rounded (by decide)).bind fun p t new => ?_
  refine (Yields.moves new (by decide) (by decide) shrunk (by decide)).bind ?_
  rintro r t ⟨q, rfl, new, -⟩
  refine (Yields.usable_start new).bind ?_
  rintro u t ⟨rfl, rfl⟩
  refine (Yields.release new).bind fun _ t idle => ?_
  exact Yields.ensure rfl idle

theorem growthIsAmortized_passes : Passes c growthIsAmortized := by
  intro s idle
  have rounded : HeaderHeap.capacity? 256 = some 256 := rfl
  have grown : HeaderHeap.capacity? (Layer.moveTarget 256 (256 + 1)) = some 320 := rfl
  refine (Yields.malloc idle rounded (by decide)).bind fun p t new => ?_
  refine (Yields.usable_start new).bind ?_
  rintro u t ⟨rfl, rfl⟩
  refine (Yields.fill new (Layer.room_start ⟨p, 256⟩).ge 0x5a).bind ?_
  rintro _ t ⟨new, filled⟩
  refine (Yields.moves new (by decide) (by decide) grown (by decide)).bind ?_
  rintro r t ⟨q, rfl, new, copied⟩
  refine (Yields.usable_start new).bind ?_
  rintro u t ⟨rfl, rfl⟩
  refine (Yields.holds fun x mem => filled x (copied ▸ mem)).bind ?_
  rintro kept t ⟨rfl, rfl⟩
  refine (Yields.release new).bind fun _ t idle => ?_
  exact Yields.ensure rfl idle

theorem zeroReleasesUnderNullConvention_passes :
    Passes c zeroReleasesUnderNullConvention := by
  intro s idle
  have passes : (nullConvention s).Yields s fun _ t => t.Idle c := by
    unfold nullConvention
    rcases idle.zeroRound with ⟨inner, outcome, live, idle'⟩ | ⟨failure, inner, outcome, starved⟩
    · rw [outcome]
      refine (Yields.use (Q := fun _ t => t.Idle c) idle').bind fun _ t idle => ?_
      exact Yields.ensure (by simp [live]) idle
    · rw [outcome]
      refine (Yields.use (Q := fun _ t => t.Starved) starved).bind fun _ t starved => ?_
      exact ⟨starved⟩
  constructor
  rw [zeroReleasesUnderNullConvention_run]
  exact passes.outcome

theorem zeroReturnsMinimalObject_passes : Passes c zeroReturnsMinimalObject := by
  intro s idle
  have rounded : HeaderHeap.capacity? 64 = some 64 := rfl
  refine (Yields.malloc idle rounded (by decide)).bind fun p t new => ?_
  refine (Yields.zero new).bind ?_
  rintro r t ⟨q, rfl, new⟩
  refine (Yields.usable_start new).bind ?_
  rintro u t ⟨rfl, rfl⟩
  refine (Yields.release new).bind fun _ t idle => ?_
  refine (Yields.ensure (Q := fun _ t => t.Idle c) rfl idle).bind fun _ t idle => ?_
  exact zeroReleasesUnderNullConvention_passes t idle

theorem nullIsMalloc_passes : Passes c nullIsMalloc := by
  intro s idle
  have rounded : HeaderHeap.capacity? 48 = some 48 := rfl
  refine (Yields.null idle rounded (by decide)).bind ?_
  rintro r t ⟨q, rfl, new⟩
  refine (Yields.usable_start new).bind ?_
  rintro u t ⟨rfl, rfl⟩
  refine (Yields.release new).bind fun _ t idle => ?_
  exact Yields.ensure rfl idle

theorem callocRejectsOverflow_passes : Passes c callocRejectsOverflow := by
  intro s idle
  obtain ⟨t, logs, refused⟩ :
      ∃ t, s.OnlyLogs t ∧ s.calloc (Word.top / 2) 3 = (.error (.overflow (Word.top / 2) 3), t) :=
    ⟨_, (Layer.OnlyLogs.refl s).trace _, rfl⟩
  have commutes := Layer.project_calloc .thawed s (Word.top / 2) 3
  refine Yields.look.bind ?_
  rintro before s ⟨rfl, rfl⟩
  refine (Yields.logs (f := (·.calloc (Word.top / 2) 3)) idle refused logs commutes).bind ?_
  rintro result t ⟨rfl, same, idle⟩
  refine Yields.look.bind ?_
  rintro after t ⟨rfl, rfl⟩
  refine Yields.ensure ?_ idle
  rw [same]
  simp

theorem callocZeroFills_passes : Passes c callocZeroFills := by
  intro s idle
  have rounded : HeaderHeap.capacity? 4096 = some 4096 := rfl
  have product : Word.mul? 64 64 = some 4096 := rfl
  refine (Yields.malloc idle rounded (by decide)).bind fun p t new => ?_
  refine (Yields.fill new (Layer.room_start ⟨p, 4096⟩).ge 0xff).bind ?_
  rintro _ t ⟨new, -⟩
  refine (Yields.release new).bind fun _ t idle => ?_
  refine (Yields.calloc idle product (by decide)).bind ?_
  rintro p t ⟨d, new, zeros⟩
  refine (Yields.holds zeros).bind ?_
  rintro zeroed t ⟨rfl, rfl⟩
  refine (Yields.release new).bind fun _ t idle => ?_
  exact Yields.ensure rfl idle

/-- A multiple of a power of two above both alignments is a multiple of the larger one. -/
theorem mod_max_eq_zero {p a : UInt64} {j k : Nat} (pow : a.toNat = 2 ^ j) (le : a.toNat ≤ 2 ^ k)
    (natural : 16 ∣ 2 ^ k) (multiple : 2 ^ k ∣ p.toNat) : p % max a naturalAlignment = 0 := by
  have larger : (max a naturalAlignment).toNat ∣ 2 ^ k := by
    rw [UInt64.toNat_max]
    rcases max_choice a.toNat naturalAlignment.toNat with choice | choice
    · rw [choice, pow]
      rw [pow] at le
      exact pow_dvd_pow 2 ((Nat.pow_le_pow_iff_right Nat.one_lt_two).1 le)
    · rw [choice]
      exact natural
  rw [← UInt64.toNat_inj, UInt64.toNat_mod]
  exact Nat.mod_eq_zero_of_dvd (larger.trans multiple)

/-- The alignment is a power of two, and all attempts are at small blocks. -/
structure Modest (alignment size : UInt64) : Prop where
  power : Word.isPowerOfTwo alignment = true
  fits : alignment.toNat ≤ 2 ^ 63
  small : Layer.SmallAttempts alignment size

instance (alignment size : UInt64) : Decidable (Modest alignment size) :=
  decidable_of_iff (Word.isPowerOfTwo alignment = true ∧ alignment.toNat ≤ 2 ^ 63 ∧
    Layer.SmallAttempts alignment size)
    ⟨fun ⟨power, fits, small⟩ => ⟨power, fits, small⟩, fun h => ⟨h.power, h.fits, h.small⟩⟩

theorem modest_alignedRequests : ∀ request ∈ alignedRequests, Modest request.1 request.2 := by
  -- the list is searched, not the finitely many pairs of words
  have modest : alignedRequests.all (fun request => decide (Modest request.1 request.2)) := by
    decide +kernel
  exact fun request mem => of_decide_eq_true (List.all_eq_true.1 modest request mem)

theorem honorsAlignment_passes {alignment size : UInt64} (modest : Modest alignment size) :
    Passes c (honorsAlignment alignment size) := by
  intro s idle
  obtain ⟨j, pow⟩ := (Word.isPowerOfTwo_iff alignment).1 modest.power
  refine (Yields.memalign idle modest.fits modest.small idle.place).bind ?_
  rintro p t ⟨d, new, room, k, multiple, above, natural⟩
  refine (Yields.usable new).bind ?_
  rintro u t ⟨usable, rfl⟩
  refine (Yields.release new).bind fun _ t idle => ?_
  have aligned := mod_max_eq_zero pow above natural multiple
  refine (Yields.ensure (Q := fun _ t => t.Idle c) (beq_iff_eq.2 aligned) idle).bind
    fun _ t idle => ?_
  refine Yields.ensure (decide_eq_true (UInt64.le_iff_toNat_le.2 ?_)) idle
  omega

theorem forM_honorsAlignment_passes {requests : List (UInt64 × UInt64)}
    (modest : ∀ request ∈ requests, Modest request.1 request.2) :
    Passes c (requests.forM fun (alignment, size) => honorsAlignment alignment size) := by
  induction requests with
  | nil => exact fun s idle => Yields.pure idle
  | cons request rest ih =>
    obtain ⟨first, later⟩ := List.forall_mem_cons.1 modest
    exact fun s idle => (honorsAlignment_passes first s idle).bind fun _ t idle => ih later t idle

theorem memalignHonorsAlignment_passes : Passes c memalignHonorsAlignment := by
  intro s idle
  refine (forM_honorsAlignment_passes modest_alignedRequests s idle).bind fun _ t idle => ?_
  refine Yields.look.bind ?_
  rintro tracked t ⟨rfl, rfl⟩
  exact Yields.ensure (beq_iff_eq.2 idle.backs.tracked_eq_zero) idle

theorem vallocIsPageAligned_passes : Passes c vallocIsPageAligned := by
  intro s idle
  refine Yields.look.bind ?_
  rintro page s ⟨rfl, rfl⟩
  have page_le : s.page.bytes.toNat ≤ 2 ^ 18 := idle.page_le
  have room : 3 * s.page.bytes.toNat + max (100 : UInt64).toNat 1 ≤ smallBlock :=
    (Nat.add_le_add_right (Nat.mul_le_mul_left 3 page_le) _).trans (by decide)
  refine (Yields.valloc idle (Layer.smallAttempts_page room) idle.place).bind ?_
  rintro p t ⟨d, new, multiple⟩
  refine (Yields.release new).bind fun _ t idle => ?_
  refine Yields.ensure (beq_iff_eq.2 ?_) idle
  rw [← UInt64.toNat_inj, UInt64.toNat_mod]
  exact Nat.mod_eq_zero_of_dvd multiple

theorem alignedAllocRejectsOverflow_passes : Passes c alignedAllocRejectsOverflow := by
  intro s idle
  have refused :
      s.alignedAlloc 4096 (Word.top - 10) = (.error (.overflow (Word.top - 10) 4096), s) := rfl
  have commutes := Layer.project_alignedAlloc .thawed s 4096 (Word.top - 10)
  refine (Yields.logs (f := (·.alignedAlloc 4096 (Word.top - 10))) idle refused (.refl s)
    commutes).bind ?_
  rintro result t ⟨rfl, -, idle⟩
  exact Yields.ensure rfl idle

theorem posixMemalignReportsEinval_passes : Passes c posixMemalignReportsEinval := by
  intro s idle
  obtain ⟨t, logs, refused⟩ :
      ∃ t, s.OnlyLogs t ∧ s.posixMemalign 24 64 = (.error (.invalidAlignment 24), t) :=
    ⟨_, (Layer.OnlyLogs.refl s).trace _, rfl⟩
  have commutes := Layer.project_posixMemalign .thawed s 24 64
  have power : (64 : UInt64).toNat = 2 ^ 6 := rfl
  have small : Layer.SmallAttempts 64 100 := by decide +kernel
  refine (Yields.logs (f := (·.posixMemalign 24 64)) idle refused logs commutes).bind ?_
  rintro result t ⟨rfl, -, idle⟩
  refine (Yields.ensure (Q := fun _ t => t.Idle c) rfl idle).bind fun _ t idle => ?_
  refine (Yields.posixMemalign idle power small idle.place).bind ?_
  rintro result t (⟨p, d, rfl, new, multiple⟩ | ⟨err, rfl, starved⟩)
  · have aligned : p % 64 = 0 := by
      rw [← UInt64.toNat_inj, UInt64.toNat_mod]
      exact Nat.mod_eq_zero_of_dvd multiple
    refine (Yields.ensure (Q := fun _ t => t.New c _ p d) (beq_iff_eq.2 aligned) new).bind ?_
    exact fun _ t new => Yields.release new
  · exact (Yields.ensure_starved (Q := fun _ _ => False) rfl starved).bind fun _ _ => False.elim

theorem strdupCopiesTerminator_passes : Passes c strdupCopiesTerminator := by
  intro s idle
  have small : (CString.ofBytes "heapwrap".toUTF8.toList).stored.size ≤ smallBlock := by
    decide +kernel
  refine (Yields.strdup idle small).bind ?_
  rintro p t ⟨d, new, room, bytes⟩
  refine (Yields.usable new).bind ?_
  rintro u t ⟨usable, rfl⟩
  refine Yields.look.bind ?_
  rintro copy t ⟨rfl, rfl⟩
  refine (Yields.release new).bind fun _ t idle => ?_
  refine Yields.ensure (beq_iff_eq.2 (CString.ofBytes_bytes ?_)) idle
  rw [Memory.take_readRange (usable ▸ room), bytes]

theorem goodSizeReportsCapacity_passes : Passes c goodSizeReportsCapacity := by
  intro s idle
  have before := idle.backs.live_eq_zero
  refine Yields.look.bind ?_
  rintro live s ⟨rfl, rfl⟩
  refine (Yields.goodSize idle 100).bind ?_
  rintro good t ⟨large, idle⟩
  refine Yields.look.bind ?_
  rintro live t ⟨rfl, rfl⟩
  refine Yields.ensure ?_ idle
  rw [before, idle.backs.live_eq_zero]
  simpa using large

theorem zoneRegistersOnce_passes : Passes c zoneRegistersOnce := by
  intro s idle
  have recorded {s : Layer (HeaderHeap (Watched α))} (idle : s.Idle c) (e : Lifecycle.Event) :
      (s.record e).Idle c :=
    idle.after (idle.backs.congr rfl rfl) rfl rfl idle.free
  refine (Yields.use (Q := fun result t =>
    result = (.ok (), ⟨0x1000, true⟩, ⟨some 0x1000, [.register 0x1000]⟩) ∧ t.Idle c)
    ⟨rfl, recorded idle _⟩).bind ?_
  rintro result t ⟨rfl, idle⟩
  refine (Yields.use (Q := fun result t =>
    result = (.error .alreadyRegistered, ⟨0x1000, true⟩, ⟨some 0x1000, [.register 0x1000]⟩) ∧
      t.Idle c) ⟨rfl, recorded idle _⟩).bind ?_
  rintro result t ⟨rfl, idle⟩
  exact Yields.ensure rfl idle

theorem prepare_yields {s : Layer (HeaderHeap (Watched α))} (idle : s.Idle c)
    (coordinator : Fork.Coordinator) :
    (prepare coordinator).Yields s fun next t =>
      next = { coordinator with phase := .prepared, prepares := coordinator.prepares + 1 } ∧
        t.Held c := by
  obtain ⟨next, t, prepared, post⟩ : ∃ next t, coordinator.prepare s = some (next, t) ∧
      next = { coordinator with phase := .prepared, prepares := coordinator.prepares + 1 } ∧
      t.Held c := by
    simp only [Fork.Coordinator.prepare, idle.free]
    exact ⟨_, _, rfl, rfl, idle.held _⟩
  refine (Yields.use (Q := fun answer t' => answer = some next ∧ t' = t) ?_).bind ?_
  · rw [prepared]
    exact ⟨rfl, rfl⟩
  · rintro answer t ⟨rfl, rfl⟩
    exact Yields.pure post

theorem resume_yields {s : Layer (HeaderHeap (Watched α))} (held : s.Held c)
    {coordinator : Fork.Coordinator} (prepared : coordinator.phase = .prepared) (side : Fork.Side) :
    (resume coordinator side).Yields s fun next t =>
      next = { coordinator with phase := .idle }.countResume side ∧ t.Idle c := by
  refine Yields.use ?_
  unfold Fork.Coordinator.resume
  rw [prepared]
  exact ⟨rfl, held.tryRecord _⟩

theorem resume_unmatched_yields {s : Layer (HeaderHeap (Watched α))} (idle : s.Idle c)
    {coordinator : Fork.Coordinator} (unprepared : coordinator.phase = .idle) (side : Fork.Side) :
    (resume coordinator side).Yields s fun next t =>
      next = { coordinator with unmatchedResumes := coordinator.unmatchedResumes + 1 } ∧
        t.Idle c := by
  refine Yields.use ?_
  unfold Fork.Coordinator.resume
  rw [unprepared]
  exact ⟨rfl, idle.tryRecord _⟩

theorem forkBracketPairsLock_passes : Passes c forkBracketPairsLock := by
  intro s idle
  have rounded : HeaderHeap.capacity? 32 = some 32 := rfl
  refine (prepare_yields idle {}).bind ?_
  rintro _ t ⟨rfl, held⟩
  refine (resume_yields held rfl .parent).bind ?_
  rintro _ t ⟨rfl, idle⟩
  refine (prepare_yields idle _).bind ?_
  rintro _ t ⟨rfl, held⟩
  refine (resume_yields held rfl .child).bind ?_
  rintro _ t ⟨rfl, idle⟩
  refine (resume_unmatched_yields idle rfl .parent).bind ?_
  rintro _ t ⟨rfl, idle⟩
  refine (Yields.malloc idle rounded (by decide)).bind fun p t new => ?_
  refine (Yields.release new).bind fun _ t idle => ?_
  exact Yields.ensure rfl idle

/-- The usable sizes are looked at without changing the layer. -/
theorem allUsable_yields (s : Layer (HeaderHeap (Watched α))) (blocks : List (Option Addr))
    (size : UInt64) :
    (allUsable blocks size).Yields s fun all t =>
      all = (blocks.all fun block => block.isSome && size ≤ (s.usableSize block).1) ∧ t = s := by
  induction blocks with
  | nil => exact Yields.pure ⟨rfl, rfl⟩
  | cons block rest ih =>
    refine Yields.bind (x := do return block.isSome && size ≤ (← Check.usable block))
      (Q := fun large t => large = (block.isSome && size ≤ (s.usableSize block).1) ∧ t = s) ?_ ?_
    · refine (Yields.use (Q := fun u t => u = (s.usableSize block).1 ∧ t = s)
        ⟨rfl, Layer.usableSize_snd s block⟩).bind ?_
      rintro u t ⟨rfl, rfl⟩
      exact Yields.pure ⟨rfl, rfl⟩
    · rintro large t ⟨same, rfl⟩
      rw [List.all_cons, ← same]
      cases large with
      | true => exact ih
      | false => exact Yields.pure ⟨rfl, rfl⟩

theorem zoneBatchRoundTrip_passes : Passes c zoneBatchRoundTrip := by
  intro s idle
  have before := idle.backs.live_eq_zero
  refine Yields.look.bind ?_
  rintro live s ⟨rfl, rfl⟩
  have small : (40 : UInt64).toNat ≤ smallBlock := by decide
  obtain ⟨filled, blocks, t, answer, post⟩ :=
    Layer.Tidy.batchMalloc idle small (List.replicate 16 none)
  refine (Yields.use (Q := fun batch t' => batch = (filled, blocks) ∧ t' = t) ?_).bind ?_
  · rw [answer]
    exact ⟨rfl, rfl⟩
  rintro batch t ⟨rfl, rfl⟩
  refine (allUsable_yields t blocks 40).bind ?_
  rintro allLive t ⟨rfl, rfl⟩
  rcases post with ⟨less, starved⟩ | ⟨all, ps, own', rfl, length, batch, tidy⟩
  · refine (Yields.use (Q := fun _ t => t.Starved) (starved.batchFree _)).bind fun _ t starved => ?_
    refine Yields.look.bind ?_
    rintro live t ⟨rfl, rfl⟩
    refine Yields.ensure_starved ?_ starved
    have ne : filled ≠ 16 := less.ne
    simp [ne]
  · have whole : (ps.map some).take filled = ps.map some :=
      List.take_of_length_le (by rw [List.length_map, length])
    rw [whole]
    have usable :
        ((ps.map some).all fun block => block.isSome && 40 ≤ (t.usableSize block).1) = true := by
      refine List.all_eq_true.2 fun block mem => ?_
      obtain ⟨p, mem', rfl⟩ := List.mem_map.1 mem
      obtain ⟨d, held, room⟩ := batch.held p mem'
      have measured := (tidy.backs.usableSize held).1
      exact decide_eq_true (UInt64.le_iff_toNat_le.2 (measured.symm ▸ room))
    refine (Yields.use (Q := fun _ t => t.Idle c) ?_).bind fun _ t' idle' => ?_
    · exact tidy.batchFree batch
    refine Yields.look.bind ?_
    rintro live t' ⟨rfl, rfl⟩
    refine Yields.ensure ?_ idle'
    rw [usable, before, idle'.backs.live_eq_zero, all]
    rfl

end SelfCheck.Scenario

end MallocLayer
