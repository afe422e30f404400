import MallocLayer.Proofs.CheckLogic

/-!
# How often a self-check asks

A scenario asks the system allocator for a region 204 times at most, whatever the answers
are (`all_spend`). Most of these requests are those of the alignment scenario: three
attempts for each of its 68 pairs.

What a request takes from a system allocator is left open (`Budget`). So the bound tells
how far any measure of a system allocator moves on in a self-check. Over regions of one
MiB at most, cut one after the other from a large range, the measure is what is left of
the range, and a self-check comes nowhere near the end of it.
-/

namespace MallocLayer

variable {α γ δ : Type}

/-- What is left of a system allocator, as a number of requests. A request takes one of
them, and nothing else does. -/
structure Budget (α : Type) [SystemAllocator α] where
  Left : Nat → Watched α → Prop
  less : ∀ {m n w}, m ≤ n → Left n w → Left m w
  alloc : ∀ {n} {h : Heap (Watched α)} (size : UInt64), Left (n + 1) h.state →
    Left n (SystemAllocator.alloc h ⟨size, 16⟩).2.state
  dealloc : ∀ {n} {h : Heap (Watched α)} (start : Addr) (layout : Layout), Left n h.state →
    Left n (SystemAllocator.dealloc h start layout).state

variable [SystemAllocator α] {b : Budget α} {m n k : Nat}

/-! ## 1. Operations -/

theorem HeaderHeap.left_allocate {h : Heap (HeaderHeap (Watched α))}
    (left : b.Left (n + 1) h.state.system) (size : UInt64) :
    b.Left n (allocate h size).2.state.system := by
  unfold allocate
  split
  · exact b.less (Nat.le_succ n) left
  · split
    · exact b.less (Nat.le_succ n) left
    · next layout fits =>
      obtain ⟨total, rfl⟩ : ∃ total, layout = ⟨total, 16⟩ := ⟨_, (layout?_eq_some fits).2⟩
      have spent := b.alloc (h := systemHeap h) total left
      rcases answer : SystemAllocator.alloc (systemHeap h) ⟨total, 16⟩ with ⟨_ | start, inner⟩
      · rw [answer] at spent
        exact spent
      · rw [answer] at spent
        exact spent

namespace Layer

variable {s t : Layer (HeaderHeap (Watched α))}

/-- So many requests may still be made. -/
def Left (s : Layer (HeaderHeap (Watched α))) (b : Budget α) (n : Nat) : Prop :=
  b.Left n s.heap.state.system

namespace Left

theorem less (left : s.Left b n) (le : m ≤ n) : s.Left b m := b.less le left

theorem logs (left : s.Left b n) (logs : s.OnlyLogs t) : t.Left b n := by
  unfold Left
  rw [logs.heap]
  exact left

theorem trace (left : s.Left b n) (e : Lifecycle.Event) : (s.trace e).Left b n :=
  left.logs ((OnlyLogs.refl s).trace e)

theorem deallocate (left : s.Left b n) (block : Addr) : (s.deallocate block).Left b n := by
  show b.Left n (HeaderHeap.deallocate s.heap block).state.system
  unfold HeaderHeap.deallocate
  split
  · exact left
  · exact b.dealloc (h := HeaderHeap.systemHeap s.heap) _ _ left

theorem free (left : s.Left b n) (ptr : Option Addr) : (s.free ptr).Left b n := by
  cases ptr with
  | none => exact left
  | some p => exact deallocate (s := { s with origins := (s.origins.take p).2 }) left _

theorem malloc {size : UInt64} {result : Except AllocError Addr} (left : s.Left b (n + 1))
    (answer : s.malloc size = (result, t)) : t.Left b n := by
  have spent : b.Left n (Primitive.allocate s.heap size).2.state.system :=
    HeaderHeap.left_allocate left size
  unfold Layer.malloc at answer
  split at answer
  · next allocated =>
    cases answer
    rw [allocated] at spent
    exact spent
  · next allocated =>
    cases answer
    rw [allocated] at spent
    exact spent

/-- A course makes a request for each of its sizes at most. -/
theorem course {alignment : UInt64} {sizes : List Nat}
    {result : Except AllocError Addr × Layer (HeaderHeap (Watched α))}
    (left : s.Left b (k + sizes.length)) (course : Course alignment sizes s result) :
    result.2.Left b k := by
  induction course with
  | tooLarge large ends => exact (left.less (Nat.le_add_right ..)).logs ends
  | refused answer ends => exact ((malloc left answer).less (Nat.le_add_right ..)).logs ends
  | start answer multiple ends => exact ((malloc left answer).less (Nat.le_add_right ..)).logs ends
  | retry answer misaligned later ih => exact ih ((malloc left answer).deallocate _)
  | inside answer misaligned interior ends => exact (malloc left answer).logs ends
  | @tracked _ _ t _ _ origins answer misaligned exact' entered ends =>
    have granted : t.Left b k := malloc left answer
    exact logs (s := { t with origins }) granted ends
  | untracked answer misaligned exact' full ends =>
    exact ((malloc left answer).deallocate _).logs ends

end Left

/-- The operation makes so many requests at most, on any layer. -/
def Spends (b : Budget α)
    (f : Layer (HeaderHeap (Watched α)) → γ × Layer (HeaderHeap (Watched α))) (n : Nat) : Prop :=
  ∀ s k, s.Left b (k + n) → (f s).2.Left b k

theorem malloc_spends (size : UInt64) : Spends b (·.malloc size) 1 :=
  fun _ _ left => left.malloc rfl

theorem realloc_spends (ptr : Option Addr) (size : UInt64) : Spends b (·.realloc ptr size) 1 := by
  intro s k left
  dsimp only [realloc, reallocWith]
  split
  · split
    · next answer => exact left.malloc answer
    · next answer => exact left.malloc answer
  · next p =>
    split
    · have released := (left.free (some p)).trace
        { level := .trace, symbol := "realloc", event := "realloc_zero_size", outcome := "released",
          ptr := some p }
      unfold reallocZero
      dsimp only
      split
      · exact released.less (Nat.le_succ k)
      · split
        · next answer => exact released.malloc answer
        · next answer => exact released.malloc answer
    · rw [usableSize_snd]
      split
      · exact (left.trace _).less (Nat.le_succ k)
      · unfold reallocMove
        dsimp only
        split
        · next answer => exact (left.malloc answer).trace _
        · next q t answer =>
          have granted : t.Left b k := left.malloc answer
          exact (Left.free (s := t.mapMemory _) granted (some p)).trace _

theorem calloc_spends (count size : UInt64) : Spends b (·.calloc count size) 1 := by
  intro s k left
  dsimp only [calloc]
  split
  · exact (left.trace _).less (Nat.le_succ k)
  · split
    · next answer => exact left.malloc answer
    · next answer =>
      have granted := left.malloc answer
      exact granted

theorem strdup_spends (text : CString) : Spends b (·.strdup text) 1 := by
  intro s k left
  dsimp only [strdup]
  split
  · next answer => exact left.malloc answer
  · next answer =>
    have granted := left.malloc answer
    exact granted

theorem goodSize_spends (size : UInt64) : Spends b (·.goodSize size) 1 := by
  intro s k left
  dsimp only [goodSize]
  split
  · next answer => exact left.malloc answer
  · next answer => exact (left.malloc answer).deallocate _

theorem memalign_spends (a size : UInt64) : Spends b (·.memalign a size) 3 := by
  intro s k left
  by_cases fits : a.toNat ≤ 2 ^ 63
  · exact left.course (memalign_course s size fits)
  · dsimp only [memalign]
    rw [normalizeAlignment_eq, if_neg fits]
    exact left.less (Nat.le_add_right k 3)

theorem posixMemalign_spends (a size : UInt64) : Spends b (·.posixMemalign a size) 3 := by
  intro s k left
  have spent (alignment : UInt64) : (s.memalign alignment size).2.Left b k :=
    memalign_spends alignment size s k left
  dsimp only [posixMemalign]
  rcases validateAlignment a with _ | alignment
  · exact (left.trace _).less (Nat.le_add_right k 3)
  · specialize spent alignment
    dsimp only
    generalize s.memalign alignment size = answer at spent ⊢
    rcases answer with ⟨_ | p, t⟩
    · exact spent.trace _
    · exact spent

theorem batchMalloc_spends (size : UInt64) (results : List (Option Addr))
    (left : s.Left b (k + results.length)) : (Zone.batchMalloc s size results).2.2.Left b k := by
  induction results generalizing s with
  | nil => exact left
  | cons entry rest ih =>
    unfold Zone.batchMalloc
    rcases answer : s.malloc size with ⟨err | p, t⟩
    · exact (left.malloc answer).less (Nat.le_add_right ..)
    · exact ih (left.malloc answer)

theorem batchFree_spends {blocks : List (Option Addr)} (left : s.Left b n) :
    (Zone.batchFree s blocks).Left b n := by
  induction blocks generalizing s with
  | nil => exact left
  | cons block rest ih => exact ih (left.free block)

end Layer

/-! ## 2. Checks -/

namespace SelfCheck

namespace Check

/-- The check makes so many requests at most, also if it fails. -/
def Spends (b : Budget α) (x : Check (Watched α) γ) (n : Nat) : Prop :=
  ∀ s k, s.Left b (k + n) → (x.run s).2.Left b k

namespace Spends

variable {x : Check (Watched α) γ}

theorem pure (v : γ) : Spends b (Pure.pure v) n := fun _ k left => left.less (Nat.le_add_right k n)

theorem throw (failure : Failure) :
    Spends b (throwThe Failure failure : Check (Watched α) γ) n :=
  fun _ k left => left.less (Nat.le_add_right k n)

theorem less (h : Spends b x m) (le : m ≤ n) : Spends b x n :=
  fun s k left => h s k (left.less (Nat.add_le_add_left le k))

theorem bind {later : γ → Check (Watched α) δ} (first : Spends b x m)
    (rest : ∀ v, Spends b (later v) n) : Spends b (x >>= later) (n + m) := by
  intro s k left
  have after := first s (k + n) (Nat.add_assoc k n m ▸ left)
  rw [run_bind]
  generalize x.run s = answer at after ⊢
  rcases answer with ⟨_ | v, t⟩
  · exact after.less (Nat.le_add_right k n)
  · exact rest v t k after

theorem use {f : Layer (HeaderHeap (Watched α)) → γ × Layer (HeaderHeap (Watched α))}
    (h : Layer.Spends b f n) : Spends b (Check.use f) n := h

theorem look {f : Layer (HeaderHeap (Watched α)) → γ} : Spends b (Check.look f) 0 :=
  fun _ _ left => left

theorem ensure (condition : Bool) (detail : String) :
    Spends b (Check.ensure condition detail) n := by
  cases condition with
  | true => exact pure ()
  | false => exact throw _

theorem need {call : String}
    {f : Layer (HeaderHeap (Watched α)) →
      Except AllocError γ × Layer (HeaderHeap (Watched α))}
    (h : Layer.Spends b f n) : Spends b (Check.need call f) n := by
  refine (Nat.zero_add n) ▸ (use h).bind fun result => ?_
  cases result with
  | ok v => exact pure v
  | error err => exact throw _

theorem malloc (size : UInt64) : Spends b (Check.malloc size) 1 := need (Layer.malloc_spends size)

theorem realloc (ptr : Option Addr) (size : UInt64) : Spends b (Check.realloc ptr size) 1 :=
  need (Layer.realloc_spends ptr size)

theorem usable (ptr : Option Addr) : Spends b (Check.usable ptr) 0 := by
  intro s k left
  show (s.usableSize ptr).2.Left b k
  rwa [Layer.usableSize_snd]

theorem release (ptr : Option Addr) : Spends b (Check.release ptr) 0 :=
  fun _ _ left => left.free ptr

theorem fill (ptr : Addr) (n : UInt64) (byte : UInt8) : Spends b (Check.fill ptr n byte) 0 :=
  fun _ _ left => left

end Spends

end Check

/-! ## 3. Scenarios -/

namespace Scenario

open Check

theorem shrinkStaysInPlace_spends : Spends b shrinkStaysInPlace 2 := by
  refine (Spends.malloc 200).bind fun p => ?_
  refine (Spends.usable (some p)).bind fun u => ?_
  refine (Spends.realloc (some p) _).bind fun r => ?_
  refine (Spends.release r.pointer).bind fun _ => ?_
  exact Spends.ensure _ _

theorem deepShrinkMoves_spends : Spends b deepShrinkMoves 2 := by
  refine (Spends.malloc 1024).bind fun p => ?_
  refine (Spends.realloc (some p) 16).bind fun r => ?_
  refine (Spends.usable r.pointer).bind fun u => ?_
  refine (Spends.release r.pointer).bind fun _ => ?_
  exact Spends.ensure _ _

theorem growthIsAmortized_spends : Spends b growthIsAmortized 2 := by
  refine (Spends.malloc 256).bind fun p => ?_
  refine (Spends.usable (some p)).bind fun u => ?_
  refine (Spends.fill p u 0x5a).bind fun _ => ?_
  refine (Spends.realloc (some p) (u + 1)).bind fun r => ?_
  refine (Spends.usable r.pointer).bind fun grown => ?_
  refine Spends.look.bind fun kept => ?_
  refine (Spends.release r.pointer).bind fun _ => ?_
  exact Spends.ensure _ _

/-- The second layer takes its regions from the same system allocator. -/
theorem nullConvention_spends (outer : Layer (HeaderHeap (Watched α))) {s : Layer _}
    (left : outer.Left b (k + 2)) : ((nullConvention outer).run s).2.Left b k := by
  have beside : outer.beside.Left b (k + 2) := left
  have round : outer.beside.zeroRound.2.Left b k := by
    unfold Layer.zeroRound
    rcases answer : outer.beside.malloc 64 with ⟨err | p, t⟩
    · exact (beside.malloc answer).less (Nat.le_succ k)
    · exact Layer.realloc_spends (some p) 0 t k (beside.malloc answer)
  have adopted : (s.adopt outer.beside.zeroRound.2).Left b (k + 0) := round
  have used : (Check.use fun s => ((), s.adopt outer.beside.zeroRound.2)).run s =
      (.ok (), s.adopt outer.beside.zeroRound.2) := rfl
  unfold nullConvention
  rw [run_bind, used]
  dsimp only
  cases outer.beside.zeroRound.1 with
  | ok r => exact Spends.ensure _ _ _ _ adopted
  | error failure => exact Spends.throw failure _ _ adopted

theorem zeroReleasesUnderNullConvention_spends : Spends b zeroReleasesUnderNullConvention 2 := by
  intro s k left
  rw [zeroReleasesUnderNullConvention_run]
  exact nullConvention_spends s left

theorem zeroReturnsMinimalObject_spends : Spends b zeroReturnsMinimalObject 4 := by
  refine (Spends.malloc 64).bind fun p => ?_
  refine (Spends.realloc (some p) 0).bind fun r => ?_
  refine (Spends.usable r.pointer).bind fun u => ?_
  refine (Spends.release r.pointer).bind fun _ => ?_
  exact (Spends.ensure (n := 0) _ _).bind fun _ => zeroReleasesUnderNullConvention_spends

theorem nullIsMalloc_spends : Spends b nullIsMalloc 1 := by
  refine (Spends.realloc none 48).bind fun r => ?_
  refine (Spends.usable r.pointer).bind fun u => ?_
  refine (Spends.release r.pointer).bind fun _ => ?_
  exact Spends.ensure _ _

theorem callocRejectsOverflow_spends : Spends b callocRejectsOverflow 1 := by
  refine Spends.look.bind fun before => ?_
  refine (Spends.use (Layer.calloc_spends _ 3)).bind fun result => ?_
  refine Spends.look.bind fun after => ?_
  exact Spends.ensure _ _

theorem callocZeroFills_spends : Spends b callocZeroFills 2 := by
  refine (Spends.malloc 4096).bind fun dirty => ?_
  refine (Spends.fill dirty 4096 0xff).bind fun _ => ?_
  refine (Spends.release (some dirty)).bind fun _ => ?_
  refine (Spends.need (Layer.calloc_spends 64 64)).bind fun p => ?_
  refine Spends.look.bind fun zeroed => ?_
  refine (Spends.release (some p)).bind fun _ => ?_
  exact Spends.ensure _ _

theorem honorsAlignment_spends (alignment size : UInt64) :
    Spends b (honorsAlignment alignment size) 3 := by
  refine (Spends.need (Layer.memalign_spends alignment size)).bind fun p => ?_
  refine (Spends.usable (some p)).bind fun u => ?_
  refine (Spends.release (some p)).bind fun _ => ?_
  exact (Spends.ensure (n := 0) _ _).bind fun _ => Spends.ensure _ _

theorem forM_honorsAlignment_spends (requests : List (UInt64 × UInt64)) :
    Spends b (requests.forM fun (alignment, size) => honorsAlignment alignment size)
      (3 * requests.length) := by
  induction requests with
  | nil => exact Spends.pure _
  | cons request rest ih =>
    exact (honorsAlignment_spends request.1 request.2).bind fun _ => ih

theorem memalignHonorsAlignment_spends : Spends b memalignHonorsAlignment 204 := by
  refine Spends.bind (n := 0) (forM_honorsAlignment_spends alignedRequests) fun _ => ?_
  exact Spends.look.bind fun tracked => Spends.ensure _ _

theorem posixMemalignReportsEinval_spends : Spends b posixMemalignReportsEinval 6 := by
  refine (Spends.use (Layer.posixMemalign_spends 24 64)).bind fun refused => ?_
  refine (Spends.ensure (n := 0) _ _).bind fun _ => ?_
  refine (Spends.use (Layer.posixMemalign_spends 64 100)).bind fun result => ?_
  exact (Spends.ensure (n := 0) _ _).bind fun _ => Spends.release _

theorem alignedAllocRejectsOverflow_spends : Spends b alignedAllocRejectsOverflow 0 := by
  have refused : Layer.Spends b (·.alignedAlloc 4096 (Word.top - 10)) 0 := fun _ _ left => left
  exact (Spends.use refused).bind fun result => Spends.ensure _ _

theorem vallocIsPageAligned_spends : Spends b vallocIsPageAligned 3 := by
  have paged : Layer.Spends b (·.valloc 100) 3 :=
    fun s k left => Layer.memalign_spends s.page.bytes 100 s k left
  refine Spends.look.bind fun page => ?_
  refine (Spends.need paged).bind fun p => ?_
  refine (Spends.release (some p)).bind fun _ => ?_
  exact Spends.ensure _ _

theorem strdupCopiesTerminator_spends : Spends b strdupCopiesTerminator 1 := by
  refine (Spends.need (Layer.strdup_spends _)).bind fun p => ?_
  refine (Spends.usable (some p)).bind fun u => ?_
  refine Spends.look.bind fun copy => ?_
  refine (Spends.release (some p)).bind fun _ => ?_
  exact Spends.ensure _ _

theorem goodSizeReportsCapacity_spends : Spends b goodSizeReportsCapacity 1 := by
  refine Spends.look.bind fun before => ?_
  refine (Spends.use (Layer.goodSize_spends 100)).bind fun good => ?_
  refine Spends.look.bind fun after => ?_
  exact Spends.ensure _ _

theorem prepare_spends (c : Fork.Coordinator) : Spends b (prepare c) 0 := by
  refine Spends.bind (m := 0) (Spends.use fun s k left => ?_) fun answer => ?_
  · unfold Fork.Coordinator.prepare
    cases s.log.frozen with
    | true => exact left
    | false => exact left
  · cases answer with
    | some c => exact Spends.pure c
    | none => exact Spends.throw _

theorem resume_spends (c : Fork.Coordinator) (side : Fork.Side) : Spends b (resume c side) 0 := by
  refine fun s k left => ?_
  show (c.resume side s).2.Left b k
  unfold Fork.Coordinator.resume
  split
  · exact left
  · exact left

theorem forkBracketPairsLock_spends : Spends b forkBracketPairsLock 1 := by
  refine (prepare_spends {}).bind fun c => ?_
  refine (resume_spends c .parent).bind fun c => ?_
  refine (prepare_spends c).bind fun c => ?_
  refine (resume_spends c .child).bind fun c => ?_
  refine (resume_spends c .parent).bind fun c => ?_
  refine (Spends.malloc 32).bind fun p => ?_
  refine (Spends.release (some p)).bind fun _ => ?_
  exact Spends.ensure _ _

theorem allUsable_spends (blocks : List (Option Addr)) (size : UInt64) :
    Spends b (allUsable blocks size) 0 := by
  induction blocks with
  | nil => exact Spends.pure _
  | cons block rest ih =>
    have large : Spends b (do return block.isSome && size ≤ (← usable block)) 0 :=
      (Spends.usable block).bind fun u => Spends.pure _
    refine large.bind fun large => ?_
    cases large with
    | true => exact ih
    | false => exact Spends.pure _

theorem zoneBatchRoundTrip_spends : Spends b zoneBatchRoundTrip 16 := by
  have batch_spends : Layer.Spends b (fun s =>
      let (filled, blocks, s) := Zone.batchMalloc s 40 (List.replicate 16 none)
      ((filled, blocks), s)) 16 :=
    fun s k left => Layer.batchMalloc_spends 40 (List.replicate 16 none) left
  refine Spends.look.bind fun before => ?_
  refine (Spends.use batch_spends).bind fun batch => ?_
  refine (allUsable_spends _ 40).bind fun allLive => ?_
  refine Spends.bind (m := 0) (fun s k left => Layer.batchFree_spends left) fun _ => ?_
  refine Spends.look.bind fun after => ?_
  exact Spends.ensure _ _

theorem zoneRegistersOnce_spends : Spends b zoneRegistersOnce 0 := by
  refine Spends.bind (m := 0) (fun s k left => left) fun first => ?_
  refine Spends.bind (m := 0) (fun s k left => ?_) fun again => ?_
  · show (Zone.installAsDefault first.2.1 first.2.2 s).2.2.2.Left b k
    unfold Zone.installAsDefault
    split
    · exact left
    · exact left
  · exact Spends.ensure _ _

/-- No scenario makes more requests than the one with the 68 pairs. -/
theorem all_spend : ∀ scenario ∈ Scenario.all (Watched α), Spends b scenario.check 204 := by
  simp only [Scenario.all, List.forall_mem_cons]
  exact ⟨shrinkStaysInPlace_spends.less (by decide), deepShrinkMoves_spends.less (by decide),
    growthIsAmortized_spends.less (by decide), zeroReturnsMinimalObject_spends.less (by decide),
    nullIsMalloc_spends.less (by decide), callocRejectsOverflow_spends.less (by decide),
    callocZeroFills_spends.less (by decide), memalignHonorsAlignment_spends,
    posixMemalignReportsEinval_spends.less (by decide),
    alignedAllocRejectsOverflow_spends.less (by decide),
    vallocIsPageAligned_spends.less (by decide),
    strdupCopiesTerminator_spends.less (by decide), goodSizeReportsCapacity_spends.less (by decide),
    forkBracketPairsLock_spends.less (by decide), zoneBatchRoundTrip_spends.less (by decide),
    zoneRegistersOnce_spends.less (by decide), List.forall_mem_nil _⟩

end Scenario

/-- Scenarios add up. -/
theorem checkAll_left {scenarios : List (Scenario (Watched α))} {s : Layer (HeaderHeap (Watched α))}
    (spend : ∀ scenario ∈ scenarios, Check.Spends b scenario.check n)
    (left : s.Left b (k + n * scenarios.length)) : (checkAll scenarios s).2.Left b k := by
  induction scenarios generalizing s with
  | nil => exact left
  | cons scenario rest ih =>
    obtain ⟨first, later⟩ := List.forall_mem_cons.1 spend
    rw [List.length_cons, Nat.mul_succ, ← Nat.add_assoc] at left
    exact ih later (first s (k + n * rest.length) left)

end SelfCheck

/-! ## 4. Regions of one MiB at most -/

/-- A system allocator that refuses what is larger than one MiB. -/
structure Capped (α : Type) where
  inner : α

namespace Capped

instance : SystemAllocator (Capped α) where
  alloc h layout :=
    if layout.size.toNat ≤ 2 ^ 20 then
      (SystemAllocator.alloc (h.carry inner) layout).map id (Heap.carry Capped.mk)
    else (none, h)
  dealloc h start layout :=
    (SystemAllocator.dealloc (h.carry inner) start layout).carry Capped.mk

theorem alloc_eq_some {h h' : Heap (Capped α)} {layout : Layout} {start : Addr}
    (answer : SystemAllocator.alloc h layout = (some start, h')) :
    SystemAllocator.alloc (h.carry inner) layout = (some start, h'.carry inner) := by
  change (if _ then _ else _) = _ at answer
  split at answer
  · rcases inner : SystemAllocator.alloc (h.carry inner) layout with ⟨_ | q, t⟩
    · rw [inner] at answer
      cases answer
    · rw [inner] at answer
      cases answer
      rfl
  · cases answer

/-- To refuse more is within the contract. -/
def contract (c : SystemContract α) : SystemContract (Capped α) where
  Lent h := c.Lent (h.carry inner)
  proper lent := c.proper lent
  apart lent := c.apart lent
  refused {h regions size h'} lent answer := by
    change (if _ then _ else _) = _ at answer
    split at answer
    · rcases below : SystemAllocator.alloc (h.carry inner) ⟨size, 16⟩ with ⟨_ | q, t⟩
      · rw [below] at answer
        cases answer
        have leads := c.refused lent below
        exact ⟨leads.lent, leads.bytes⟩
      · rw [below] at answer
        cases answer
    · cases answer
      exact ⟨lent, fun _ _ _ _ _ => rfl⟩
  granted lent pos answer := by
    obtain ⟨new, leads⟩ := c.granted lent pos (alloc_eq_some answer)
    exact ⟨new, leads.lent, leads.bytes⟩
  released lent mem := by
    have leads := c.released lent mem
    exact ⟨leads.lent, leads.bytes⟩
  written lent outside := c.written lent outside

end Capped

namespace RegionSource

/-- While there is room, the next region is cut off close to the last one. -/
theorem alloc_of_room (h : Heap RegionSource) {size : UInt64}
    (room : h.state.next + size.toNat + 15 ≤ limit) :
    ∃ start stop, alloc h ⟨size, 16⟩ = (some start, ⟨⟨stop⟩, h.memory⟩) ∧
      stop ≤ h.state.next + size.toNat + 15 := by
  have near : (h.state.next + 15) / 16 * 16 + size.toNat ≤ h.state.next + size.toNat + 15 := by
    omega
  exact ⟨_, _, if_neg (Nat.not_lt.2 (near.trans room)), near⟩

/-- Nothing of one MiB at most was refused, and the range is long enough for so many more such
requests. -/
def budget : Budget (Capped RegionSource) where
  Left n w := (∀ layout ∈ w.refused, 2 ^ 20 < layout.size.toNat) ∧
    w.inner.inner.next + n * (2 ^ 20 + 15) ≤ limit
  less le left := ⟨left.1, (Nat.add_le_add_left (Nat.mul_le_mul_right _ le) _).trans left.2⟩
  alloc {n h} size left := by
    obtain ⟨large, room⟩ := left
    by_cases small : size.toNat ≤ 2 ^ 20
    · have enough : h.state.inner.inner.next + size.toNat + 15 ≤ limit := by omega
      obtain ⟨start, stop, answer, near⟩ :=
        alloc_of_room ((Watched.innerHeap h).carry Capped.inner) enough
      have granted : SystemAllocator.alloc (Watched.innerHeap h) ⟨size, 16⟩ =
          (some start, ⟨⟨⟨stop⟩⟩, h.memory⟩) := by
        show (if size.toNat ≤ 2 ^ 20 then
          (alloc ((Watched.innerHeap h).carry Capped.inner) ⟨size, 16⟩).map id
            (Heap.carry Capped.mk) else _) = _
        rw [if_pos small, answer]
        rfl
      rw [Watched.alloc_granted granted]
      change stop ≤ h.state.inner.inner.next + size.toNat + 15 at near
      exact ⟨large, show stop + n * (2 ^ 20 + 15) ≤ limit by omega⟩
    · have refused : SystemAllocator.alloc (Watched.innerHeap h) ⟨size, 16⟩ =
          (none, Watched.innerHeap h) := if_neg small
      rw [Watched.alloc_refused refused]
      have fewer : n * (2 ^ 20 + 15) ≤ (n + 1) * (2 ^ 20 + 15) :=
        Nat.mul_le_mul_right _ (Nat.le_succ n)
      exact ⟨List.forall_mem_cons.2 ⟨Nat.lt_of_not_le small, large⟩,
        (Nat.add_le_add_left fewer _).trans room⟩
  dealloc _ _ left := left

end RegionSource

end MallocLayer
