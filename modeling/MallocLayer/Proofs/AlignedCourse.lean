import MallocLayer.Proofs.CallTrace

/-!
# The course of an aligned allocation

An aligned allocation makes up to three attempts, and it can end at each of
them: no word is the size, the primitive refuses, the block is aligned, or, at
the last attempt only, there is an aligned address inside the block. `Course`
has one constructor for each of these and one for going on, which gives the block
back first.

`serve_course` says that every request of the aligned family takes such a course,
unless its alignment cannot be had at all. What is true of the family is shown by
induction on the course.
-/

namespace MallocLayer

open Primitive (Block Contract)

/-! ## 1. What is asked for -/

/-- The sizes of the attempts at `size` bytes. -/
def attemptSizes (alignment size : Nat) : List Nat :=
  [size, paddedTo alignment size, 2 * alignment + paddedTo alignment size]

namespace Request

/-- What the address has to be a multiple of, with pages of the given size. Requests
outside the aligned family have the natural alignment. -/
def boundary (page : PageSize) : Request → Nat
  | .memalign alignment _ | .alignedAlloc alignment _ | .posixMemalign alignment _ =>
    raisedAlignment alignment.toNat
  | .valloc _ => page.bytes.toNat
  | _ => naturalAlignment.toNat

/-- The number of bytes to be had behind the address. -/
def extent : Request → Nat
  | .memalign _ size | .posixMemalign _ size | .valloc size => size.toNat
  | .alignedAlloc alignment size => Word.leastMultiple size.toNat alignment.toNat
  | _ => 0

/-- There is an alignment as requested. -/
def Representable : Request → Prop
  | .memalign alignment _ => alignment.toNat ≤ 2 ^ 63
  | .alignedAlloc alignment _ | .posixMemalign alignment _ => ∃ k, alignment.toNat = 2 ^ k
  | _ => True

end Request

namespace Layer

variable {σ : Type} [Primitive σ]

/-! ## 2. Courses -/

/-- Attempts at the sizes in the list, in this order, for a block at a multiple of
the alignment. -/
inductive Course (alignment : UInt64) :
    List Nat → Layer σ → Except AllocError Addr × Layer σ → Prop
  /-- No word is the size. -/
  | tooLarge {size : Nat} {rest : List Nat} {s s' : Layer σ} {lhs rhs : UInt64}
      (large : UInt64.size ≤ size) (ends : s.OnlyLogs s') :
      Course alignment (size :: rest) s (.error (.overflow lhs rhs), s')
  | refused {size : UInt64} {rest : List Nat} {s t s' : Layer σ}
      (answer : s.malloc size = (.error (.outOfMemory size), t)) (ends : t.OnlyLogs s') :
      Course alignment (size.toNat :: rest) s (.error (.outOfMemory size), s')
  /-- The block is aligned. -/
  | start {size : UInt64} {rest : List Nat} {s t s' : Layer σ} {b : Addr}
      (answer : s.malloc size = (.ok b, t)) (multiple : alignment.toNat ∣ b.toNat)
      (ends : t.OnlyLogs s') :
      Course alignment (size.toNat :: rest) s (.ok b, s')
  /-- The block is not aligned, and there is a next attempt. -/
  | retry {size : UInt64} {next : Nat} {rest : List Nat} {s t : Layer σ} {b : Addr}
      {result : Except AllocError Addr × Layer σ} (answer : s.malloc size = (.ok b, t))
      (misaligned : ¬ alignment.toNat ∣ b.toNat)
      (later : Course alignment (next :: rest) (t.deallocate b) result) :
      Course alignment (size.toNat :: next :: rest) s result
  /-- An address inside the last block is aligned, and the primitive can be given it. -/
  | inside {size : UInt64} {s t s' : Layer σ} {b : Addr} (answer : s.malloc size = (.ok b, t))
      (misaligned : ¬ alignment.toNat ∣ b.toNat) (interior : t.acceptsInterior = true)
      (ends : t.OnlyLogs s') :
      Course alignment [size.toNat] s (.ok (alignUp b alignment), s')
  /-- The primitive cannot be given it, and the side table has the start of the block. -/
  | tracked {size : UInt64} {s t s' : Layer σ} {b : Addr} {origins : OriginTable}
      (answer : s.malloc size = (.ok b, t)) (misaligned : ¬ alignment.toNat ∣ b.toNat)
      (exact' : t.acceptsInterior = false)
      (entered : t.origins.insert (alignUp b alignment) b = (true, origins))
      (ends : OnlyLogs { t with origins } s') :
      Course alignment [size.toNat] s (.ok (alignUp b alignment), s')
  /-- The side table has no place for it. -/
  | untracked {size : UInt64} {s t s' : Layer σ} {b : Addr} (answer : s.malloc size = (.ok b, t))
      (misaligned : ¬ alignment.toNat ∣ b.toNat) (exact' : t.acceptsInterior = false)
      (full : t.origins.insert (alignUp b alignment) b = (false, t.origins))
      (ends : (t.deallocate b).OnlyLogs s') :
      Course alignment [size.toNat] s (.error (.outOfMemory size), s')

variable {s s' : Layer σ} {alignment size : UInt64} {k : Nat}

/-- An event may be traced at the end. -/
theorem Course.trace {sizes : List Nat} {result : Except AllocError Addr × Layer σ}
    (h : Course alignment sizes s result) (e : Lifecycle.Event) :
    Course alignment sizes s (result.1, result.2.trace e) := by
  induction h with
  | tooLarge large ends => exact .tooLarge large (ends.trace e)
  | refused answer ends => exact .refused answer (ends.trace e)
  | start answer multiple ends => exact .start answer multiple (ends.trace e)
  | retry answer misaligned _ ih => exact .retry answer misaligned ih
  | inside answer misaligned interior ends =>
    exact .inside answer misaligned interior (ends.trace e)
  | tracked answer misaligned exact' entered ends =>
    exact .tracked answer misaligned exact' entered (ends.trace e)
  | untracked answer misaligned exact' full ends =>
    exact .untracked answer misaligned exact' full (ends.trace e)

/-- An address inside a block that was granted finds no place in the side table only if
the table is full. -/
theorem Backs.full_of_untracked {c : Contract σ} {own : Tenancy} {t : Layer σ} {start : Addr}
    {rest : Nat} (h : s.Backs c own) (answer : s.malloc size = (.ok start, t))
    (pow : alignment.toNat = 2 ^ k) (even : 16 ∣ alignment.toNat)
    (spare : size.toNat = 2 * alignment.toNat + rest) (misaligned : ¬ alignment.toNat ∣ start.toNat)
    (exact' : c.interior = false)
    (full : t.origins.insert (alignUp start alignment) start = (false, t.origins)) :
    s.trackedAlignedBlocks = OriginTable.capacity := by
  obtain ⟨b, rfl, large, new, backs, -, origins⟩ := h.granted answer
  have held : own.give b.start b b.start = some b := Tenancy.give_self
  have wide : 2 * alignment.toNat + rest ≤ b.capacity.toNat := by omega
  obtain ⟨inside, natural, multiple, -⟩ := alignUp_inside (backs.proper held) pow even wide
  have ne : alignUp b.start alignment ≠ b.start := fun eq => misaligned (eq ▸ multiple)
  have same : t.trackedAlignedBlocks = s.trackedAlignedBlocks := congrArg OriginTable.size origins
  rcases backs.insert_origin held inside natural ne exact' with ⟨tracked, -⟩ | ⟨entered, -⟩
  · exact same ▸ tracked
  · rw [full] at entered
    cases entered

/-! ## 3. The requests take courses -/

theorem attemptInside_course (s : Layer σ) (pow : alignment.toNat = 2 ^ k) (total : UInt64) :
    Course alignment [total.toNat] s (s.attemptInside alignment total) := by
  unfold attemptInside
  rcases answer : s.malloc total with ⟨err | b, t⟩
  · obtain rfl := malloc_error answer
    exact .refused answer (.refl t)
  · dsimp only
    split
    · next same =>
      exact .start answer ((alignUp_eq_self_iff pow).1 same) (.refl t)
    · next ne =>
      have misaligned : ¬ alignment.toNat ∣ b.toNat := fun multiple =>
        ne ((alignUp_eq_self_iff pow).2 multiple)
      cases interior : t.acceptsInterior with
      | true => exact .inside answer misaligned interior ((OnlyLogs.refl t).trace _)
      | false =>
        rcases entered : t.origins.insert (alignUp b alignment) b with ⟨_ | _, origins⟩
        · obtain rfl := OriginTable.eq_of_insert_false entered
          exact .untracked answer misaligned interior entered ((OnlyLogs.refl _).trace _)
        · exact .tracked answer misaligned interior entered ((OnlyLogs.refl _).trace _)

theorem memalignPadded_course (s : Layer σ) (pow : alignment.toNat = 2 ^ k) (size : UInt64) :
    Course alignment
      [paddedTo alignment.toNat size.toNat,
        2 * alignment.toNat + paddedTo alignment.toNat size.toNat]
      s (s.memalignPadded alignment size) := by
  have pos : 0 < alignment.toNat := pow ▸ Nat.two_pow_pos k
  unfold memalignPadded
  rcases fits : paddedSize size alignment with err | padded
  · obtain ⟨rfl, large⟩ := paddedSize_error pos fits
    exact .tooLarge large (.refl s)
  · rw [← toNat_paddedSize pos fits]
    rcases answer : s.malloc padded with ⟨err | b, t⟩
    · obtain rfl := malloc_error answer
      simp only [attempt, answer]
      exact .refused answer (.refl t)
    · by_cases multiple : isAligned b alignment
      · simp only [attempt, answer, multiple, if_true]
        exact .start answer ((isAligned_iff pow).1 multiple) ((OnlyLogs.refl t).trace _)
      · simp only [attempt, answer, multiple]
        refine .retry answer (fun divides => multiple ((isAligned_iff pow).2 divides)) ?_
        rcases twice : overAllocation padded alignment with err | total
        · obtain ⟨rfl, large⟩ := overAllocation_error twice
          exact .tooLarge large (.refl _)
        · rw [← overAllocation_ok twice]
          exact attemptInside_course _ pow total

/-- An aligned allocation with an alignment that is a power of two and large enough. -/
theorem memalign_course (s : Layer σ) (size : UInt64) {a : UInt64} (fits : a.toNat ≤ 2 ^ 63) :
    Course (UInt64.ofNat (raisedAlignment a.toNat))
      (attemptSizes (raisedAlignment a.toNat) size.toNat) s (s.memalign a size) := by
  have word : (UInt64.ofNat (raisedAlignment a.toNat)).toNat = raisedAlignment a.toNat :=
    UInt64.toNat_ofNat_of_lt' (raisedAlignment_lt_iff.2 fits)
  unfold memalign
  rw [normalizeAlignment_eq, if_pos fits]
  generalize UInt64.ofNat (raisedAlignment a.toNat) = alignment at word ⊢
  have pow : alignment.toNat = 2 ^ Nat.clog 2 (max a.toNat 16) := word
  rw [← word]
  dsimp only
  rcases answer : s.malloc size with ⟨err | b, t⟩
  · obtain rfl := malloc_error answer
    simp only [attempt, answer]
    exact .refused answer (.refl t)
  · by_cases multiple : isAligned b alignment
    · simp only [attempt, answer, multiple, if_true]
      exact .start answer ((isAligned_iff pow).1 multiple) (.refl t)
    · simp only [attempt, answer, multiple]
      refine .retry answer (fun divides => multiple ((isAligned_iff pow).2 divides)) ?_
      exact memalignPadded_course _ pow size

theorem validateAlignment_of_pow {a : UInt64} (pow : a.toNat = 2 ^ k) :
    validateAlignment a = .ok a ∧ a.toNat ≤ 2 ^ 63 := by
  have below : 2 ^ k < 2 ^ 64 := pow ▸ a.toNat_lt
  have le : k ≤ 63 := Nat.le_of_lt_succ ((Nat.pow_lt_pow_iff_right Nat.one_lt_two).1 below)
  refine ⟨if_pos ((Word.isPowerOfTwo_iff a).2 ⟨k, pow⟩), ?_⟩
  rw [pow]
  exact Nat.pow_le_pow_right Nat.two_pos le

theorem validateAlignment_of_not_pow {a : UInt64} (other : ¬ ∃ k, a.toNat = 2 ^ k) :
    validateAlignment a = .error (.invalidAlignment a) :=
  if_neg fun power => other ((Word.isPowerOfTwo_iff a).1 power)

theorem eq_of_map_pointer {α : Type} {answer : Except AllocError Addr × α}
    {result : Except AllocError Addr} {a : α}
    (served : answer.map Reply.pointer id = (.pointer result, a)) : answer = (result, a) := by
  rcases answer with ⟨_, _⟩
  cases served
  rfl

theorem map_pointer {α : Type} {answer : Except AllocError Addr × α}
    {result : Except AllocError Addr} (same : answer.1 = result) :
    answer.map Reply.pointer id = (.pointer result, answer.2) := by
  rw [← same]
  rfl

/-- A request of the aligned family takes its course, or there is no alignment as
requested and it fails at once. -/
theorem serve_course {r : Request} (aligns : r.Aligns) {result : Except AllocError Addr}
    (served : s.serve r = (.pointer result, s')) :
    r.Representable ∧
        Course (UInt64.ofNat (r.boundary s.page))
          (attemptSizes (r.boundary s.page) r.extent) s (result, s') ∨
      ¬ r.Representable ∧ (∃ a, result = .error (.invalidAlignment a)) ∧ s.OnlyLogs s' := by
  cases r with
  | memalign a n =>
    have outcome : s.memalign a n = (result, s') := eq_of_map_pointer served
    by_cases fits : a.toNat ≤ 2 ^ 63
    · exact .inl ⟨fits, outcome ▸ memalign_course s n fits⟩
    · rw [memalign, normalizeAlignment_eq, if_neg fits] at outcome
      cases outcome
      exact .inr ⟨fits, ⟨a, rfl⟩, .refl s⟩
  | alignedAlloc a n =>
    have outcome : s.alignedAlloc a n = (result, s') := eq_of_map_pointer served
    by_cases power : ∃ k, a.toNat = 2 ^ k
    · refine .inl ⟨power, ?_⟩
      obtain ⟨k, pow⟩ := power
      obtain ⟨valid, fits⟩ := validateAlignment_of_pow pow
      rw [alignedAlloc, valid] at outcome
      dsimp only at outcome
      split at outcome
      · next none =>
        cases outcome
        have pos : 0 < a.toNat := pow ▸ Nat.two_pow_pos k
        exact .tooLarge (Word.nextMultiple?_eq_none pos none) (.refl s)
      · next rounded multiple =>
        have course := memalign_course s rounded fits
        rw [Word.toNat_nextMultiple? multiple, outcome] at course
        exact course
    · rw [alignedAlloc, validateAlignment_of_not_pow power] at outcome
      cases outcome
      exact .inr ⟨power, ⟨a, rfl⟩, .refl s⟩
  | posixMemalign a n =>
    have outcome : s.posixMemalign a n = (result, s') := eq_of_map_pointer served
    by_cases power : ∃ k, a.toNat = 2 ^ k
    · refine .inl ⟨power, ?_⟩
      obtain ⟨k, pow⟩ := power
      obtain ⟨valid, fits⟩ := validateAlignment_of_pow pow
      have course := memalign_course s n fits
      simp only [posixMemalign, valid] at outcome
      split at outcome
      · next answer =>
        cases outcome
        rwa [answer] at course
      · next answer =>
        cases outcome
        rw [answer] at course
        exact course.trace _
    · simp only [posixMemalign, validateAlignment_of_not_pow power] at outcome
      cases outcome
      exact .inr ⟨power, ⟨a, rfl⟩, (OnlyLogs.refl s).trace _⟩
  | valloc n =>
    have outcome : s.valloc n = (result, s') := eq_of_map_pointer served
    obtain ⟨_, pow⟩ := s.page.exists_pow
    have course := memalign_course s n (validateAlignment_of_pow pow).2
    rw [raisedAlignment_page] at course
    exact .inl ⟨trivial, outcome ▸ course⟩
  | _ => exact absurd aligns id

end Layer

/-- An alignment that can be had is a word, a power of two and a multiple of the natural one. -/
theorem Request.boundary_spec {r : Request} (page : PageSize) (aligns : r.Aligns)
    (representable : r.Representable) :
    (UInt64.ofNat (r.boundary page)).toNat = r.boundary page ∧
      (∃ k, r.boundary page = 2 ^ k) ∧ 16 ∣ r.boundary page := by
  have raised {a : UInt64} (fits : a.toNat ≤ 2 ^ 63) :
      (UInt64.ofNat (raisedAlignment a.toNat)).toNat = raisedAlignment a.toNat ∧
        (∃ k, raisedAlignment a.toNat = 2 ^ k) ∧ 16 ∣ raisedAlignment a.toNat :=
    ⟨UInt64.toNat_ofNat_of_lt' (raisedAlignment_lt_iff.2 fits), ⟨_, rfl⟩,
      sixteen_dvd_raisedAlignment _⟩
  cases r with
  | memalign a n => exact raised representable
  | alignedAlloc a n | posixMemalign a n =>
    obtain ⟨k, pow⟩ := representable
    exact raised (Layer.validateAlignment_of_pow pow).2
  | valloc n =>
    obtain ⟨k, pow⟩ := page.exists_pow
    have even := sixteen_dvd_raisedAlignment page.bytes.toNat
    rw [raisedAlignment_page] at even
    exact ⟨congrArg UInt64.toNat UInt64.ofNat_toNat, ⟨k, pow⟩, even⟩
  | _ => exact absurd aligns id

end MallocLayer
