import MallocLayer.Proofs.AlignedPlacement
import MallocLayer.Proofs.SystemProjection

/-!
# Checks that pass unless memory is short

A part of a self-check is looked at in the manner of a program logic: `x.Yields s Q` says
that the check `x`, started on the layer `s`, gives a value and leaves a layer of which `Q`
holds. There is one way out. If the system allocator refused a small request, of one MiB or
less, then a check may also fail.

The layers in question are `Tidy`: what is out are the blocks of a tenancy, and nothing
else that a self-check depends on has been touched. For each operation of a self-check
there is a rule that says what it yields on a tidy layer.
-/

namespace MallocLayer

open Primitive (Block)

variable {α γ δ : Type}

/-! ## 1. Small requests -/

/-- Some request of at most one MiB was refused. -/
def Watched.Starved (w : Watched α) : Prop := ∃ layout ∈ w.refused, layout.size.toNat ≤ 2 ^ 20

/-- The largest size of a block of which the region is not larger than one MiB. -/
def smallBlock : Nat := 2 ^ 20 - 32

/-- The largest page of which three fit in a small block, as many as an aligned allocation
may ask for. It is larger than the pages that platforms report. -/
def largestPage : Nat := 2 ^ 18

namespace HeaderHeap

variable {size : UInt64}

/-- A small block comes in a region of at most one MiB. -/
theorem exists_layout? (small : size.toNat ≤ smallBlock) :
    ∃ capacity total, capacity? size = some capacity ∧ layout? capacity = some ⟨total, 16⟩ ∧
      total.toNat ≤ 2 ^ 20 := by
  have below : paddedTo 16 size.toNat < max size.toNat 1 + 16 := Word.leastMultiple_lt (by decide) _
  unfold smallBlock at small
  rcases rounded : capacity? size with _ | capacity
  · have large := size_le_of_capacity? rounded
    simp only [UInt64.size] at large
    omega
  · have total : (layoutFor size).size.toNat = paddedTo 16 size.toNat + 16 :=
      UInt64.toNat_ofNat_of_lt' (by simp only [UInt64.size]; omega)
    refine ⟨capacity, (layoutFor size).size, rfl, ?_, by omega⟩
    rw [layout?_of_capacity? rounded, if_pos (by omega)]
    rfl

end HeaderHeap

namespace Layer

section Small

variable {s t : Layer (HeaderHeap (Watched α))} {size : UInt64} {err : AllocError}

/-- Some request of at most one MiB was refused by the system allocator below. -/
def Starved (s : Layer (HeaderHeap (Watched α))) : Prop := s.heap.state.system.Starved

/-- What is starved stays so, whatever is done that earlier refusals make no difference to. -/
theorem Starved.later {β : Type}
    {f : Layer (HeaderHeap (Watched α)) → β × Layer (HeaderHeap (Watched α))} (h : s.Starved)
    (blind : ∀ past s, f (s.over (Watched.withPast past)) =
      (f s).map id (Layer.over (Watched.withPast past))) : (f s).2.Starved := by
  obtain ⟨layout, mem, small⟩ := h
  exact ⟨layout, (Watched.refused_suffix blind s).subset mem, small⟩

/-- What is starved stays so when it is logged. -/
theorem Starved.logs (h : s.Starved) (logs : s.OnlyLogs t) : t.Starved := by
  unfold Starved
  rw [logs.heap]
  exact h

theorem Starved.trace (h : s.Starved) (e : Lifecycle.Event) : (s.trace e).Starved :=
  h.logs ((OnlyLogs.refl s).trace e)

/-- A small block is refused only if the system allocator refuses its region. -/
theorem malloc_starves [SystemAllocator α] (small : size.toNat ≤ smallBlock)
    (refused : s.malloc size = (.error err, t)) : t.Starved := by
  obtain ⟨capacity, total, rounded, fits, le⟩ := HeaderHeap.exists_layout? small
  have outcome : HeaderHeap.Allocates s.heap size (Primitive.allocate s.heap size) :=
    HeaderHeap.allocates s.heap size
  unfold malloc at refused
  generalize Primitive.allocate s.heap size = answer at outcome refused
  cases outcome with
  | tooLarge large =>
    rw [rounded, Option.bind_some, fits] at large
    cases large
  | refused rounded' fits' =>
    cases refused
    rw [rounded] at rounded'
    cases rounded'
    rw [fits] at fits'
    cases fits'
    exact ⟨_, .head _, le⟩
  | granted => cases refused

end Small

/-! ## 2. Tidy layers -/

section Thawed

variable {σ β : Type} [Primitive σ] {s : Layer σ}

/-- Forgets that the log is frozen, if it is. -/
def Projection.thawed : Projection σ σ where
  heap := id
  log l := { l with frozen := false }
  config c := c
  projects := .refl
  zeroSize _ := rfl
  trace c l e := by
    split
    · rfl
    · rfl

/-- An operation that does not ask whether the log is frozen does not freeze it. -/
theorem frozen_of_project {f : Layer σ → β × Layer σ}
    (commutes : f (s.project .thawed) = (f s).map id (project .thawed))
    (free : s.log.frozen = false) : (f s).2.log.frozen = false := by
  have same : s.project .thawed = s := by
    rcases s with ⟨heap, page, origins, ⟨slots, head, size, nextId, dropped, frozen⟩, config⟩
    cases free
    rfl
  rw [same] at commutes
  exact congrArg (fun result => result.2.log.frozen) commutes

end Thawed

variable [SystemAllocator α] {c : SystemContract α} {own own' : Tenancy}
  {s t : Layer (HeaderHeap (Watched α))} {p : Addr} {d : Block} {size capacity : UInt64}

/-- The blocks of the tenancy are out, objects of size zero are minimal ones, three pages
are no more than one MiB, and the log takes records. -/
structure Tidy (s : Layer (HeaderHeap (Watched α))) (c : SystemContract α) (own : Tenancy) :
    Prop where
  backs : s.Backs (HeaderHeap.contract c) own
  zeroSize : s.config.zeroSize = .minimalObject
  page_le : s.page.bytes.toNat ≤ largestPage
  free : s.log.frozen = false

/-- Besides the blocks of the tenancy, the block `d` is out, and `p` is the pointer to it. -/
structure New (s : Layer (HeaderHeap (Watched α))) (c : SystemContract α) (own : Tenancy)
    (p : Addr) (d : Block) : Prop where
  unowned : own p = none
  tidy : s.Tidy c (own.give p d)

namespace Tidy

theorem after (h : s.Tidy c own) (backs : t.Backs (HeaderHeap.contract c) own')
    (config : t.config = s.config) (page : t.page = s.page) (free : t.log.frozen = false) :
    t.Tidy c own' :=
  ⟨backs, config ▸ h.zeroSize, page ▸ h.page_le, free⟩

/-- An operation that does not ask whether the log is frozen leaves it as it is. -/
theorem step {β : Type} {f : Layer (HeaderHeap (Watched α)) → β × Layer (HeaderHeap (Watched α))}
    {b : β} (h : s.Tidy c own) (done : f s = (b, t))
    (commutes : f (s.project .thawed) = (f s).map id (project .thawed))
    (backs : t.Backs (HeaderHeap.contract c) own') (config : t.config = s.config)
    (page : t.page = s.page) : t.Tidy c own' := by
  have free := frozen_of_project commutes h.free
  rw [done] at free
  exact h.after backs config page free

end Tidy

/-- A block that was granted is as large as the header heap makes it. -/
theorem capacity?_of_granted (granted : s.malloc size = (.ok p, t))
    (h : t.Backs (HeaderHeap.contract c) (own.give p d)) (start : d.start = p) :
    HeaderHeap.capacity? size = some d.capacity := by
  obtain ⟨measured, -⟩ :=
    (HeaderHeap.contract c).measured h.valid (h.mem Tenancy.give_self) (.inl start.symm)
  have outcome : HeaderHeap.Allocates s.heap size (Primitive.allocate s.heap size) :=
    HeaderHeap.allocates s.heap size
  unfold malloc at granted
  generalize Primitive.allocate s.heap size = answer at outcome granted
  cases outcome with
  | tooLarge => cases granted
  | refused => cases granted
  | @granted capacity total first inner rounded fits answer =>
    cases granted
    have header : (first + 16 : UInt64) - HeaderHeap.headerSize = first := UInt64.add_sub_cancel ..
    have told : (HeaderHeap.capacityOf (inner.memory.writeWord first capacity) (first + 16)).toNat =
        d.room (first + 16) := measured
    rw [HeaderHeap.capacityOf, header, Memory.readWord_writeWord, ← start, room_start] at told
    rw [rounded, UInt64.toNat_inj.1 told]

/-- Plain allocation hands out the start of a block. -/
theorem Tidy.granted (h : s.Tidy c own) (rounded : HeaderHeap.capacity? size = some capacity)
    (granted : s.malloc size = (.ok p, t)) : t.New c own p ⟨p, capacity⟩ := by
  obtain ⟨⟨start, room⟩, rfl, -, unowned, backs, kept, -⟩ := h.backs.granted granted
  have same := capacity?_of_granted granted backs rfl
  rw [rounded] at same
  cases same
  have commutes := project_malloc .thawed s size
  exact ⟨unowned, h.step (f := (·.malloc size)) granted commutes backs kept.config kept.page⟩

/-- What an operation delivers is new. -/
theorem Tidy.delivered {need : Nat} {Good : Addr → List UInt8 → Prop}
    {f : Layer (HeaderHeap (Watched α)) → Except AllocError Addr × Layer (HeaderHeap (Watched α))}
    (h : s.Tidy c own) (delivers : s.Delivers (HeaderHeap.contract c) own need Good (f s))
    (commutes : f (s.project .thawed) = (f s).map id (project .thawed))
    (done : f s = (.ok p, t)) :
    ∃ d, t.New c own p d ∧ max need 1 ≤ d.room p ∧
      Good p (t.heap.memory.readRange p (d.room p)) := by
  have outcome := delivers
  rw [done] at outcome
  cases outcome with
  | @delivered _ d _ unowned room backs kept good =>
    exact ⟨d, ⟨unowned, h.step done commutes backs kept.config kept.page⟩, room,
      good⟩

theorem Tidy.free_block (h : s.Tidy c own) (held : own p = some d) :
    (s.free (some p)).Tidy c (own.drop p) := by
  obtain ⟨backs, kept⟩ := h.backs.free held
  have commutes := project_free .thawed s (some p)
  exact h.step (f := fun s => ((), s.free (some p))) rfl (congrArg ((), ·) commutes) backs
    kept.config kept.page

namespace New

/-- The new block goes back. -/
theorem free (new : s.New c own p d) : (s.free (some p)).Tidy c own := by
  have tidy := new.tidy.free_block Tenancy.give_self
  rwa [Tenancy.drop_give new.unowned] at tidy

/-- The new block is filled. -/
theorem fill (new : s.New c own p d) {n : UInt64} (fits : n.toNat ≤ d.room p) (byte : UInt8) :
    (s.mapMemory (·.fill p n byte)).New c own p d ∧
      ∀ x ∈ (s.mapMemory (·.fill p n byte)).heap.memory.readRange p n.toNat, x = byte := by
  have held : own.give p d p = some d := Tenancy.give_self
  obtain ⟨backs, -⟩ := new.tidy.backs.store held (new.tidy.backs.covers held fits) fun _ => byte
  refine ⟨⟨new.unowned, new.tidy.after backs rfl rfl new.tidy.free⟩, fun x mem => ?_⟩
  have filled := Memory.readRange_fill s.heap.memory p n byte
  exact List.eq_of_mem_replicate (filled ▸ mem)

end New

/-- The header heap is asked for a size without being changed. -/
theorem usableSize_snd (s : Layer (HeaderHeap (Watched α))) (ptr : Option Addr) :
    (s.usableSize ptr).2 = s := by
  cases ptr with
  | none => rfl
  | some p => rfl

theorem New.usableSize_eq (new : s.New c own p ⟨p, capacity⟩) :
    s.usableSize (some p) = (capacity, s) := by
  obtain ⟨measured, -⟩ := new.tidy.backs.usableSize Tenancy.give_self
  rw [room_start] at measured
  exact Prod.ext (UInt64.toNat_inj.1 measured) (usableSize_snd s (some p))

/-! ## 3. Reallocation -/

/-- A block that suits the size stays where it is. -/
theorem New.inPlace {old : UInt64} (new : s.New c own p ⟨p, old⟩)
    (suits : old / 2 < size ∧ size ≤ old) :
    ∃ t, s.realloc (some p) size = (.ok (.inPlace p), t) ∧ t.New c own p ⟨p, old⟩ := by
  have nonzero : size ≠ 0 := by
    rintro rfl
    exact absurd (UInt64.lt_iff_toNat_lt.1 suits.1) (Nat.not_lt_zero _)
  obtain ⟨t, logs, outcome⟩ :
      ∃ t, s.OnlyLogs t ∧ s.realloc (some p) size = (.ok (.inPlace p), t) := by
    simp only [realloc, reallocWith, if_neg nonzero, new.usableSize_eq, if_pos suits]
    exact ⟨_, (OnlyLogs.refl s).trace _, rfl⟩
  have commutes := project_reallocWith .thawed s (some p) size .keepBlock
  exact ⟨t, outcome, new.unowned, new.tidy.step (f := (·.realloc (some p) size)) outcome commutes
    (logs.backs new.tidy.backs) logs.config logs.page⟩

/-- Any other block is replaced by one of the target size, unless that is refused. -/
theorem New.moves {old : UInt64} (new : s.New c own p ⟨p, old⟩) (nonzero : size ≠ 0)
    (unsuited : ¬ (old / 2 < size ∧ size ≤ old))
    (rounded : HeaderHeap.capacity? (moveTarget old size) = some capacity)
    (small : (moveTarget old size).toNat ≤ smallBlock) :
    (∃ q t, s.realloc (some p) size = (.ok (.moved q), t) ∧ t.New c own q ⟨q, capacity⟩ ∧
      t.heap.memory.readRange q (min old size).toNat =
        s.heap.memory.readRange p (min old size).toNat) ∨
    ∃ err t, s.realloc (some p) size = (.error err, t) ∧ t.Starved := by
  have held : own.give p ⟨p, old⟩ p = some ⟨p, old⟩ := Tenancy.give_self
  have measured : old.toNat = Block.room ⟨p, old⟩ p := (room_start ⟨p, old⟩).symm
  have outcome : s.realloc (some p) size = s.reallocMove p old size .keepBlock := by
    simp only [realloc, reallocWith, if_neg nonzero, new.usableSize_eq, if_neg unsuited]
  have commutes := project_reallocWith .thawed s (some p) size .keepBlock
  rw [outcome]
  rcases answer : s.malloc (moveTarget old size) with ⟨err | q, t⟩
  · have starved := malloc_starves small answer
    simp only [reallocMove, answer]
    exact .inr ⟨err, _, rfl, starved.trace _⟩
  · obtain ⟨⟨start, room⟩, s', rfl, moved, ne, unowned, large, granted, backs, kept, copied⟩ :
        ∃ d s', _ ∧ s.reallocMove p old size .keepBlock = _ ∧ _ :=
      new.tidy.backs.reallocMove_granted held measured answer
    have same := capacity?_of_granted answer granted rfl
    rw [rounded] at same
    cases same
    rw [Tenancy.drop_give new.unowned] at backs
    rw [Tenancy.give_of_ne ne] at unowned
    have amount : (min old size).toNat = min (Block.room ⟨p, old⟩ p) size.toNat := by
      rw [UInt64.toNat_min, measured]
    rw [← amount, Memory.take_readRange (by omega), Memory.take_readRange (by omega)] at copied
    refine .inl ⟨start, s', moved, ⟨unowned, ?_⟩, copied⟩
    exact new.tidy.step (f := (·.realloc (some p) size)) (outcome.trans moved) commutes backs
      kept.config kept.page

/-- A reallocation to size zero releases the block and goes by the convention. -/
theorem realloc_zero_eq {σ : Type} [Primitive σ] (s : Layer σ) (p : Addr) :
    ∃ released, (s.free (some p)).OnlyLogs released ∧
      (s.config.zeroSize = .returnNull → s.realloc (some p) 0 = (.ok .released, released)) ∧
      (s.config.zeroSize = .minimalObject →
        s.realloc (some p) 0 = (released.malloc 1).map (Except.map .moved) id) := by
  have logs := (OnlyLogs.refl (s.free (some p))).trace
    { level := .trace, symbol := "realloc", event := "realloc_zero_size", outcome := "released",
      ptr := some p }
  have config : Layer.config _ = s.config := logs.config
  refine ⟨_, logs, fun returnNull => ?_, fun minimalObject => ?_⟩
  · simp only [realloc, reallocWith, reallocZero, if_true, config, returnNull]
  · simp only [realloc, reallocWith, reallocZero, if_true, config, minimalObject]
    split
    · next answer =>
      rw [answer]
      rfl
    · next answer =>
      rw [answer]
      rfl

/-- A new block that is reallocated to size zero is replaced by a minimal one, unless that is
refused. -/
theorem New.zero (new : s.New c own p d) :
    (∃ q t, s.realloc (some p) 0 = (.ok (.moved q), t) ∧ t.New c own q ⟨q, 16⟩) ∨
    ∃ err t, s.realloc (some p) 0 = (.error err, t) ∧ t.Starved := by
  have commutes := project_reallocWith .thawed s (some p) 0 .keepBlock
  obtain ⟨released, logs, -, outcome⟩ := realloc_zero_eq s p
  specialize outcome new.tidy.zeroSize
  have backs := logs.backs new.free.backs
  rcases answer : released.malloc 1 with ⟨err | q, t⟩
  · rw [answer] at outcome
    exact .inr ⟨err, t, outcome, malloc_starves (by decide) answer⟩
  · rw [answer] at outcome
    obtain ⟨⟨start, room⟩, rfl, -, unowned, granted, kept, -⟩ := backs.granted answer
    have same := capacity?_of_granted answer granted rfl
    cases (show HeaderHeap.capacity? 1 = some 16 from rfl).symm.trans same
    refine .inl ⟨start, t, outcome, unowned, ?_⟩
    exact new.tidy.step (f := (·.realloc (some p) 0)) outcome commutes granted
      (kept.config.trans logs.config) (kept.page.trans logs.page)

/-! ## 4. Aligned allocation -/

/-- A course over small sizes fails only if a small request is refused, as long as there is
a place in the side table. -/
theorem Course.starves {alignment : UInt64} {k need rest : Nat} {sizes : List Nat}
    {result : Except AllocError Addr × Layer (HeaderHeap (Watched α))}
    (course : Course alignment sizes s result) (h : s.Backs (HeaderHeap.contract c) own)
    (pow : alignment.toNat = 2 ^ k) (even : 16 ∣ 2 ^ k)
    (ample : Ample (2 ^ k) need rest sizes) (small : ∀ n ∈ sizes, n ≤ smallBlock)
    (place : s.trackedAlignedBlocks < OriginTable.capacity) :
    ∀ {err s'}, result = (.error err, s') → s'.Starved := by
  induction course with
  | start => nofun
  | inside => nofun
  | tracked => nofun
  | tooLarge large =>
    have le := small _ (.head _)
    have word : smallBlock < UInt64.size := by decide
    omega
  | refused answer ends =>
    rintro _ _ ⟨⟩
    exact (malloc_starves (small _ (.head _)) answer).logs ends
  | retry answer misaligned later ih =>
    obtain ⟨b, rfl, -, new, backs, -, origins⟩ := h.granted answer
    refine ih (backs.deallocate new).1 ample.tail (fun n mem => small n (.tail _ mem)) ?_
    exact (congrArg OriginTable.size origins).trans_lt place
  | untracked answer misaligned exact' full =>
    have spare := Option.some.inj ample.spare
    rw [← pow] at spare even
    have tracked := h.full_of_untracked answer pow even spare misaligned rfl full
    exact (place.ne tracked).elim

/-- All attempts at `size` bytes with this alignment are at small blocks. -/
def SmallAttempts (alignment size : UInt64) : Prop :=
  ∀ n ∈ attemptSizes (raisedAlignment alignment.toNat) size.toNat, n ≤ smallBlock

instance (alignment size : UInt64) : Decidable (SmallAttempts alignment size) :=
  inferInstanceAs (Decidable (∀ n ∈ _, _))

theorem smallAttempts_page {page : PageSize}
    (room : 3 * page.bytes.toNat + max size.toNat 1 ≤ smallBlock) :
    SmallAttempts page.bytes size := by
  have pos : 0 < page.bytes.toNat :=
    Nat.lt_of_lt_of_le (by decide) (UInt64.le_iff_toNat_le.1 page.natural_le)
  have padded : paddedTo page.bytes.toNat size.toNat < max size.toNat 1 + page.bytes.toNat :=
    Word.leastMultiple_lt pos _
  unfold SmallAttempts
  rw [raisedAlignment_page]
  simp only [attemptSizes, List.forall_mem_cons]
  exact ⟨by omega, by omega, by omega, List.forall_mem_nil _⟩

/-- An aligned allocation of small blocks fails only if one of them is refused. -/
theorem Tidy.memalign_starves {a : UInt64} {err : AllocError} (h : s.Tidy c own)
    (fits : a.toNat ≤ 2 ^ 63)
    (small : SmallAttempts a size) (place : s.trackedAlignedBlocks < OriginTable.capacity)
    (failed : s.memalign a size = (.error err, t)) : t.Starved := by
  have word : (UInt64.ofNat (raisedAlignment a.toNat)).toNat = raisedAlignment a.toNat :=
    UInt64.toNat_ofNat_of_lt' (raisedAlignment_lt_iff.2 fits)
  have pos : 0 < raisedAlignment a.toNat := Nat.two_pow_pos _
  exact (memalign_course s size fits).starves h.backs word (sixteen_dvd_raisedAlignment _)
    (ample_attemptSizes pos _) small place failed

/-- The strict form fails for the same reason, when the alignment is a power of two. -/
theorem Tidy.posixMemalign_starves {a : UInt64} {k : Nat} {err : AllocError} (h : s.Tidy c own)
    (pow : a.toNat = 2 ^ k)
    (small : SmallAttempts a size) (place : s.trackedAlignedBlocks < OriginTable.capacity)
    (failed : s.posixMemalign a size = (.error err, t)) : t.Starved := by
  obtain ⟨valid, fits⟩ := validateAlignment_of_pow pow
  simp only [posixMemalign, valid] at failed
  split at failed
  · cases failed
  · next refused =>
    cases failed
    exact (h.memalign_starves fits small place refused).trace _

end Layer

/-! ## 5. The rules -/

namespace SelfCheck.Check

/-- The check passes, and `Q` holds of its value and of the layer after it, unless a small
request was refused. -/
structure Yields (x : Check (Watched α) γ) (s : Layer (HeaderHeap (Watched α)))
    (Q : γ → Layer (HeaderHeap (Watched α)) → Prop) : Prop where
  outcome : match x.run s with
    | (.ok v, t) => Q v t
    | (.error _, t) => t.Starved

namespace Yields

variable {s : Layer (HeaderHeap (Watched α))} {Q : γ → Layer (HeaderHeap (Watched α)) → Prop}
  {R : δ → Layer (HeaderHeap (Watched α)) → Prop}

theorem pure {v : γ} (post : Q v s) : Yields (Pure.pure v) s Q := ⟨post⟩

theorem bind {x : Check (Watched α) γ} {k : γ → Check (Watched α) δ} (first : x.Yields s Q)
    (later : ∀ v t, Q v t → (k v).Yields t R) : (x >>= k).Yields s R := by
  constructor
  have outcome := first.outcome
  rw [run_bind]
  generalize x.run s = answer at outcome ⊢
  rcases answer with ⟨_ | v, t⟩
  · exact outcome
  · exact (later v t outcome).outcome

theorem use {f : Layer (HeaderHeap (Watched α)) → γ × Layer (HeaderHeap (Watched α))}
    (post : Q (f s).1 (f s).2) : (Check.use f).Yields s Q := ⟨post⟩

theorem look {f : Layer (HeaderHeap (Watched α)) → γ} :
    (Check.look f).Yields s fun v t => v = f s ∧ t = s := use ⟨rfl, rfl⟩

theorem holds {p : Addr} {n : Nat} {byte : UInt8}
    (all : ∀ x ∈ s.heap.memory.readRange p n, x = byte) :
    (Check.holds p n byte).Yields s fun all t => all = true ∧ t = s := by
  refine use ⟨?_, rfl⟩
  exact List.all_eq_true.2 fun x mem => beq_iff_eq.2 (all x mem)

theorem need {call : String}
    {f : Layer (HeaderHeap (Watched α)) → Except AllocError γ × Layer (HeaderHeap (Watched α))}
    (outcome : (∃ v t, f s = (.ok v, t) ∧ Q v t) ∨ ∃ err t, f s = (.error err, t) ∧ t.Starved) :
    (Check.need call f).Yields s Q := by
  rcases outcome with ⟨v, t, answer, post⟩ | ⟨err, t, answer, starved⟩
  · refine (use (Q := fun r t => r = .ok v ∧ Q v t) ?_).bind ?_
    · rw [answer]
      exact ⟨rfl, post⟩
    · rintro _ t ⟨rfl, post⟩
      exact pure post
  · refine (use (Q := fun r t => r = .error err ∧ t.Starved) ?_).bind ?_
    · rw [answer]
      exact ⟨rfl, starved⟩
    · rintro _ t ⟨rfl, starved⟩
      exact ⟨starved⟩

/-- An allocation that has to succeed. -/
theorem need_answer {call : String}
    {f : Layer (HeaderHeap (Watched α)) → Except AllocError γ × Layer (HeaderHeap (Watched α))}
    (granted : ∀ v t, f s = (.ok v, t) → Q v t)
    (refused : ∀ err t, f s = (.error err, t) → t.Starved) : (Check.need call f).Yields s Q := by
  refine need ?_
  rcases answer : f s with ⟨err | v, t⟩
  · exact .inr ⟨err, t, rfl, refused err t answer⟩
  · exact .inl ⟨v, t, rfl, granted v t answer⟩

theorem ensure {condition : Bool} {detail : String}
    {Q : Unit → Layer (HeaderHeap (Watched α)) → Prop} (met : condition = true)
    (post : Q () s) : (Check.ensure condition detail).Yields s Q := by
  subst met
  exact pure post

/-- A check of a starved layer may fail. -/
theorem ensure_starved {condition : Bool} {detail : String}
    {Q : Unit → Layer (HeaderHeap (Watched α)) → Prop} (unmet : condition = false)
    (starved : s.Starved) : (Check.ensure condition detail).Yields s Q := by
  subst unmet
  exact ⟨starved⟩

section Operations

variable [SystemAllocator α] {c : SystemContract α} {own : Tenancy} {p : Addr} {d : Block}
  {size capacity : UInt64}

theorem malloc (h : s.Tidy c own) (rounded : HeaderHeap.capacity? size = some capacity)
    (small : size.toNat ≤ smallBlock) :
    (Check.malloc size).Yields s fun p t => t.New c own p ⟨p, capacity⟩ :=
  need_answer (fun _ _ granted => h.granted rounded granted) fun _ _ refused =>
    Layer.malloc_starves small refused

theorem usable (new : s.New c own p d) :
    (Check.usable (some p)).Yields s fun u t => u.toNat = d.room p ∧ t = s :=
  use ⟨(new.tidy.backs.usableSize Tenancy.give_self).1, Layer.usableSize_snd s (some p)⟩

/-- The usable size from the start of a block is its capacity. -/
theorem usable_start (new : s.New c own p ⟨p, capacity⟩) :
    (Check.usable (some p)).Yields s fun u t => u = capacity ∧ t = s :=
  use (Prod.ext_iff.1 new.usableSize_eq)

theorem release (new : s.New c own p d) :
    (Check.release (some p)).Yields s fun _ t => t.Tidy c own := use new.free

theorem fill (new : s.New c own p d) {n : UInt64} (fits : n.toNat ≤ d.room p) (byte : UInt8) :
    (Check.fill p n byte).Yields s fun _ t => t.New c own p d ∧
      ∀ x ∈ t.heap.memory.readRange p n.toNat, x = byte := use (new.fill fits byte)

/-- A block that suits the size stays. -/
theorem inPlace {old : UInt64} (new : s.New c own p ⟨p, old⟩)
    (suits : old / 2 < size ∧ size ≤ old) :
    (Check.realloc (some p) size).Yields s fun r t => r = .inPlace p ∧ t.New c own p ⟨p, old⟩ := by
  obtain ⟨t, outcome, new'⟩ := new.inPlace suits
  exact need (.inl ⟨_, t, outcome, rfl, new'⟩)

/-- Any other block moves, with its bytes. -/
theorem moves {old : UInt64} (new : s.New c own p ⟨p, old⟩) (nonzero : size ≠ 0)
    (unsuited : ¬ (old / 2 < size ∧ size ≤ old))
    (rounded : HeaderHeap.capacity? (Layer.moveTarget old size) = some capacity)
    (small : (Layer.moveTarget old size).toNat ≤ smallBlock) :
    (Check.realloc (some p) size).Yields s fun r t =>
      ∃ q, r = .moved q ∧ t.New c own q ⟨q, capacity⟩ ∧
        t.heap.memory.readRange q (min old size).toNat =
          s.heap.memory.readRange p (min old size).toNat := by
  rcases new.moves nonzero unsuited rounded small with ⟨q, t, outcome, new', copied⟩ | starved
  · exact need (.inl ⟨_, t, outcome, q, rfl, new', copied⟩)
  · exact need (.inr starved)

/-- A reallocation to size zero leaves a minimal block. -/
theorem zero (new : s.New c own p d) :
    (Check.realloc (some p) 0).Yields s fun r t => ∃ q, r = .moved q ∧ t.New c own q ⟨q, 16⟩ := by
  rcases new.zero with ⟨q, t, outcome, new'⟩ | starved
  · exact need (.inl ⟨_, t, outcome, q, rfl, new'⟩)
  · exact need (.inr starved)

/-- A reallocation of null allocates. -/
theorem null (h : s.Tidy c own) (rounded : HeaderHeap.capacity? size = some capacity)
    (small : size.toNat ≤ smallBlock) :
    (Check.realloc none size).Yields s fun r t =>
      ∃ q, r = .moved q ∧ t.New c own q ⟨q, capacity⟩ := by
  have outcome : s.realloc none size = (s.malloc size).map (Except.map .moved) id :=
    Layer.reallocWith_none
  refine need ?_
  rcases answer : s.malloc size with ⟨err | q, t⟩
  · rw [answer] at outcome
    exact .inr ⟨err, t, outcome, Layer.malloc_starves small answer⟩
  · rw [answer] at outcome
    exact .inl ⟨_, t, outcome, q, rfl, h.granted rounded answer⟩

theorem calloc (h : s.Tidy c own) {call : String} {count total : UInt64}
    (product : Word.mul? count size = some total) (small : total.toNat ≤ smallBlock) :
    (Check.need call (·.calloc count size)).Yields s fun p t =>
      ∃ d, t.New c own p d ∧ ∀ x ∈ t.heap.memory.readRange p total.toNat, x = 0 := by
  have bytes : count.toNat * size.toNat = total.toNat := Word.mul?_eq_some_iff.1 product
  refine need_answer ?_ ?_
  · intro p t done
    obtain ⟨d, new, room, zeros⟩ := h.delivered (f := (·.calloc count size))
      (h.backs.calloc_delivers count size) (Layer.project_calloc .thawed s count size) done
    rw [bytes] at room zeros
    rw [Memory.take_readRange (by omega)] at zeros
    exact ⟨d, new, fun x mem => List.eq_of_mem_replicate (zeros ▸ mem)⟩
  · intro err t failed
    simp only [Layer.calloc, product] at failed
    split at failed
    · next refused =>
      cases failed
      exact Layer.malloc_starves small refused
    · cases failed

theorem strdup (h : s.Tidy c own) {call : String} {text : CString}
    (small : text.stored.size ≤ smallBlock) :
    (Check.need call (·.strdup text)).Yields s fun p t =>
      ∃ d, t.New c own p d ∧ text.stored.size ≤ d.room p ∧
        t.heap.memory.readRange p text.stored.size = text.bytes ++ [0] := by
  have word : text.stored.size < UInt64.size := small.trans_lt (by decide)
  refine need_answer ?_ ?_
  · intro p t done
    obtain ⟨d, new, room, bytes⟩ := h.delivered (f := (·.strdup text))
      (h.backs.strdup_delivers text word) (Layer.project_strdup .thawed s text) done
    rw [Memory.take_readRange (by omega)] at bytes
    exact ⟨d, new, by omega, bytes⟩
  · intro err t failed
    unfold Layer.strdup at failed
    split at failed
    · next refused =>
      cases failed
      refine Layer.malloc_starves ?_ refused
      rwa [UInt64.toNat_ofNat_of_lt' word]
    · cases failed

theorem memalign (h : s.Tidy c own) {call : String} {a : UInt64} (fits : a.toNat ≤ 2 ^ 63)
    (small : Layer.SmallAttempts a size) (place : s.trackedAlignedBlocks < OriginTable.capacity) :
    (Check.need call (·.memalign a size)).Yields s fun p t =>
      ∃ d, t.New c own p d ∧ max size.toNat 1 ≤ d.room p ∧
        ∃ k, 2 ^ k ∣ p.toNat ∧ a.toNat ≤ 2 ^ k ∧ 16 ∣ 2 ^ k := by
  refine need_answer ?_ ?_
  · intro p t done
    exact h.delivered (f := (·.memalign a size)) (h.backs.memalign_delivers a size)
      (Layer.project_memalign .thawed s a size) done
  · intro err t failed
    exact h.memalign_starves fits small place failed

/-- The block is aligned to a power of two that is no less than a page. -/
theorem valloc (h : s.Tidy c own) {call : String} (small : Layer.SmallAttempts s.page.bytes size)
    (place : s.trackedAlignedBlocks < OriginTable.capacity) :
    (Check.need call (·.valloc size)).Yields s fun p t =>
      ∃ d, t.New c own p d ∧ s.page.bytes.toNat ∣ p.toNat := by
  have fits : s.page.bytes.toNat ≤ 2 ^ 63 := h.page_le.trans (by decide)
  refine need_answer ?_ ?_
  · intro p t done
    obtain ⟨d, new, -, k, multiple, above, -⟩ := h.delivered (f := (·.valloc size))
      (h.backs.memalign_delivers s.page.bytes size)
      (Layer.project_memalign .thawed s s.page.bytes size) done
    obtain ⟨j, pow⟩ := s.page.exists_pow
    rw [pow] at above ⊢
    have divides : 2 ^ j ∣ 2 ^ k := pow_dvd_pow 2 ((Nat.pow_le_pow_iff_right Nat.one_lt_two).1 above)
    exact ⟨d, new, divides.trans multiple⟩
  · intro err t failed
    exact h.memalign_starves fits small place failed

/-- The strict form gives its failure to the caller. -/
theorem posixMemalign (h : s.Tidy c own) {a : UInt64} {k : Nat} (pow : a.toNat = 2 ^ k)
    (small : Layer.SmallAttempts a size) (place : s.trackedAlignedBlocks < OriginTable.capacity) :
    (Check.use (·.posixMemalign a size)).Yields s fun result t =>
      (∃ p d, result = .ok p ∧ t.New c own p d ∧ a.toNat ∣ p.toNat) ∨
      ∃ err, result = .error err ∧ t.Starved := by
  refine use ?_
  rcases answer : s.posixMemalign a size with ⟨err | p, t⟩
  · exact .inr ⟨err, rfl, h.posixMemalign_starves pow small place answer⟩
  · obtain ⟨d, new, -, multiple⟩ := h.delivered (f := (·.posixMemalign a size))
      (h.backs.posixMemalign_delivers a size) (Layer.project_posixMemalign .thawed s a size) answer
    exact .inl ⟨p, d, rfl, new, multiple⟩

/-- The good size is at least the size, even if the probe is refused. -/
theorem goodSize (h : s.Tidy c own) (size : UInt64) :
    (Check.use (·.goodSize size)).Yields s fun good t => size ≤ good ∧ t.Tidy c own := by
  obtain ⟨backs, kept⟩ := h.backs.goodSize size
  refine use ⟨?_, h.step (f := (·.goodSize size)) rfl (Layer.project_goodSize .thawed s size) backs
    kept.config kept.page⟩
  show size ≤ (s.goodSize size).1
  unfold Layer.goodSize
  rcases answer : s.malloc size with ⟨err | p, t⟩
  · exact UInt64.le_refl size
  · obtain ⟨d, rfl, large, -, granted, -⟩ := h.backs.granted answer
    obtain ⟨measured, -⟩ :=
      (HeaderHeap.contract c).measured granted.valid (granted.mem Tenancy.give_self) (.inl rfl)
    rw [Layer.room_start] at measured
    refine UInt64.le_iff_toNat_le.2 ?_
    show size.toNat ≤ (Primitive.usableSize t.heap d.start).1.toNat
    omega

/-- An operation that fails as it should leaves nothing but a record. -/
theorem logs {f : Layer (HeaderHeap (Watched α)) → γ × Layer (HeaderHeap (Watched α))} {v : γ}
    {t : Layer (HeaderHeap (Watched α))} (h : s.Tidy c own) (done : f s = (v, t))
    (logs : s.OnlyLogs t)
    (commutes : f (s.project .thawed) = (f s).map id (Layer.project .thawed)) :
    (Check.use f).Yields s fun v' t => v' = v ∧ t.heap = s.heap ∧ t.Tidy c own := by
  have tidy := h.step done commutes (logs.backs h.backs) logs.config logs.page
  refine use ?_
  rw [done]
  exact ⟨rfl, logs.heap, tidy⟩

end Operations

end Yields

end SelfCheck.Check

end MallocLayer
