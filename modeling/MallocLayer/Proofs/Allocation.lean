import MallocLayer.Layer.Aligned
import MallocLayer.Proofs.Tenancy

/-!
# Allocation

The operations that hand out a new pointer. All of them have the same two
outcomes, and `Delivers` states them: either every pointer and every byte is as
before, or one pointer that was not out is out now, with room for what was asked
for. What the bytes behind the pointer are is up to the operation: zeros after
`calloc`, the string after `strdup`, an aligned place after `memalign`.
-/

namespace MallocLayer.Layer

open Primitive (Block Contract)

variable {σ : Type} [Primitive σ]

/-- The outcomes of a request for `need` bytes. `Good` is what the operation
promises of the pointer and of the bytes behind it. -/
inductive Delivers (s : Layer σ) (c : Contract σ) (own : Tenancy) (need : Nat)
    (Good : Addr → List UInt8 → Prop) : Except AllocError Addr × Layer σ → Prop
  /-- Nothing was handed out. -/
  | failed {err : AllocError} {s' : Layer σ} (backs : s'.Backs c own) (kept : s.Kept own s') :
      Delivers s c own need Good (.error err, s')
  /-- A pointer was handed out. -/
  | delivered {p : Addr} {b : Block} {s' : Layer σ} (new : own p = none)
      (room : max need 1 ≤ b.room p) (backs : s'.Backs c (own.give p b)) (kept : s.Kept own s')
      (good : Good p (s'.heap.memory.readRange p (b.room p))) :
      Delivers s c own need Good (.ok p, s')

variable {s s' : Layer σ} {c : Contract σ} {own : Tenancy} {p : Addr} {b : Block}
  {need less : Nat} {Good Good' : Addr → List UInt8 → Prop}
  {result : Except AllocError Addr × Layer σ}

/-! ## 1. Outcomes -/

namespace Delivers

/-- What was promised may be less than what was done. -/
theorem mono (h : s.Delivers c own need Good result) (le : less ≤ need)
    (weaker : ∀ p bytes, Good p bytes → Good' p bytes) :
    s.Delivers c own less Good' result := by
  cases h with
  | failed backs kept => exact .failed backs kept
  | delivered new room backs kept good =>
    exact .delivered new (by omega) backs kept (weaker _ _ good)

/-- After a failure nothing is promised. -/
theorem of_error {err : AllocError} (h : s.Delivers c own need Good (.error err, s')) :
    s.Delivers c own less Good' (.error err, s') := by
  cases h with
  | failed backs kept => exact .failed backs kept

/-- A promise about the pointer alone may be checked on the pointer. -/
theorem aligned {Fit : Addr → Prop} (h : s.Delivers c own need Good (.ok p, s')) (le : less ≤ need)
    (fit : Fit p) : s.Delivers c own less (fun p _ => Fit p) (.ok p, s') := by
  cases h with
  | delivered new room backs kept good => exact .delivered new (by omega) backs kept fit

/-- A step that lost nothing may come first. -/
theorem after (h : s'.Delivers c own need Good result) (kept : s.Kept own s') :
    s.Delivers c own need Good result := by
  cases h with
  | failed backs kept' => exact .failed backs (kept.trans kept')
  | delivered new room backs kept' good =>
    exact .delivered new room backs (kept.trans kept') good

/-- An event may be traced at the end. -/
theorem trace (h : s.Delivers c own need Good result) (e : Lifecycle.Event) :
    s.Delivers c own need Good (result.1, result.2.trace e) := by
  cases h with
  | failed backs kept => exact .failed (backs.trace e) (kept.trace e)
  | delivered new room backs kept good =>
    refine .delivered new room (backs.trace e) (kept.trace e) ?_
    rwa [trace_heap]

end Delivers

theorem room_start (b : Block) : b.room b.start = b.capacity.toNat := Nat.add_sub_cancel_left ..

/-! ## 2. Plain allocation -/

theorem Backs.malloc_delivers (h : s.Backs c own) (size : UInt64) :
    s.Delivers c own size.toNat (fun _ _ => True) (s.malloc size) := by
  rcases h.malloc size with ⟨s', outcome, backs, kept⟩ | ⟨b, s', outcome, large, new, backs, kept⟩
  · rw [outcome]
    exact .failed backs kept
  · rw [outcome]
    exact .delivered new ((room_start b).symm ▸ large) backs kept trivial

/-- Bytes at the start of a new block are set before it is handed out. -/
theorem Delivers.store (h : s.Delivers c own need (fun _ _ => True) (.ok p, s')) {size : UInt64}
    (fits : size.toNat ≤ need) (f : UInt64 → UInt8)
    (good : ∀ n, size.toNat ≤ n →
      Good p ((s'.heap.memory.store p size f).readRange p n)) :
    s.Delivers c own need Good (.ok p, s'.mapMemory (·.store p size f)) := by
  cases h with
  | @delivered _ b _ new room backs kept _ =>
    have held : own.give p b p = some b := Tenancy.give_self
    have le : size.toNat ≤ b.room p := by omega
    obtain ⟨backs', kept'⟩ := backs.store held (backs.covers held le) f
    rw [Tenancy.drop_give new] at kept'
    exact .delivered new room backs' (kept.trans kept') (good _ le)

theorem Backs.calloc_delivers (h : s.Backs c own) (count size : UInt64) :
    s.Delivers c own (count.toNat * size.toNat)
      (fun _ bytes => bytes.take (count.toNat * size.toNat) =
        List.replicate (count.toNat * size.toNat) 0)
      (s.calloc count size) := by
  unfold Layer.calloc
  split
  · exact .failed (h.trace _) ((Kept.refl s own).trace _)
  · next total product =>
    rw [Word.mul?_eq_some_iff.1 product]
    have delivers := h.malloc_delivers total
    split
    · next outcome =>
      rw [outcome] at delivers
      exact delivers.of_error
    · next block s' outcome =>
      rw [outcome] at delivers
      refine delivers.store (Nat.le_refl _) _ fun n le => ?_
      rw [Memory.take_readRange le]
      exact Memory.readRange_fill s'.heap.memory block total 0

theorem Backs.strdup_delivers (h : s.Backs c own) (text : CString)
    (fits : text.stored.size < UInt64.size) :
    s.Delivers c own text.stored.size
      (fun _ bytes => bytes.take text.stored.size = text.bytes ++ [0])
      (s.strdup text) := by
  have size : (UInt64.ofNat text.stored.size).toNat = text.stored.size :=
    UInt64.toNat_ofNat_of_lt fits
  unfold Layer.strdup
  have delivers := h.malloc_delivers (UInt64.ofNat text.stored.size)
  rw [size] at delivers
  split
  · next outcome =>
    rw [outcome] at delivers
    exact delivers.of_error
  · next block s' outcome =>
    rw [outcome] at delivers
    refine delivers.store (Nat.le_of_eq size) _ fun n le => ?_
    rw [Memory.take_readRange (size ▸ le)]
    exact (Memory.readRange_write fits).trans (by simp [CString.stored])

/-! ## 3. Attempts at an alignment -/

/-- An attempt fails, or yields an aligned block, or leaves no trace. -/
theorem Backs.attempt (h : s.Backs c own) (alignment size : UInt64) :
    (∃ err s', s.attempt alignment size = (.error err, s') ∧ s'.Backs c own ∧ s.Kept own s') ∨
    (∃ p s', s.attempt alignment size = (.ok (.done p), s') ∧ isAligned p alignment ∧
      s.Delivers c own size.toNat (fun _ _ => True) (.ok p, s')) ∨
    ∃ s', s.attempt alignment size = (.ok .misaligned, s') ∧ s'.Backs c own ∧ s.Kept own s' := by
  unfold Layer.attempt
  have delivers := h.malloc_delivers size
  rcases h.malloc size with ⟨s', outcome, backs, kept⟩ | ⟨b, s', outcome, large, new, backs, kept⟩
  · rw [outcome]
    exact .inl ⟨_, s', rfl, backs, kept⟩
  · rw [outcome] at delivers ⊢
    by_cases aligned : isAligned b.start alignment
    · refine .inr (.inl ⟨b.start, s', ?_, aligned, delivers⟩)
      simp [aligned]
    · obtain ⟨backs', kept'⟩ := backs.deallocate new
      refine .inr (.inr ⟨s'.deallocate b.start, ?_, backs', kept.trans kept'⟩)
      simp [aligned]

/-- The side table after a pointer moved from the start of its block to an
address inside: full as it was, or with an entry for the address. -/
theorem Backs.insert_origin (h : s.Backs c own) (held : own b.start = some b) (inside : b.Holds p)
    (aligned : 16 ∣ p.toNat) (ne : p ≠ b.start) (exact' : c.interior = false) :
    s.trackedAlignedBlocks = OriginTable.capacity ∧
      s.origins.insert p b.start = (false, s.origins) ∨
    (s.origins.insert p b.start).1 = true ∧
      ∃ m, (s.origins.insert p b.start).2.Represents m ∧
        ∀ a, m[a]? = c.originIn ((own.drop b.start).give p b) a := by
  obtain ⟨m, represents, entries⟩ := h.table
  by_cases full : m.size = OriginTable.capacity
  · exact .inl ⟨represents.live_eq.trans full, OriginTable.insert_full represents full⟩
  · have address := isAddress_of_holds (h.proper held) inside aligned
    obtain ⟨entered, represents'⟩ := OriginTable.insert_represents (o := b.start) represents address full
    refine .inr ⟨entered, _, represents', fun a => ?_⟩
    rw [Std.ExtHashMap.getElem?_insert, entries]
    by_cases same : p = a
    · subst same
      simp [Contract.originIn, exact', Ne.symm ne]
    · by_cases start : a = b.start
      · subst start
        simp [Contract.originIn, same, Tenancy.give_of_ne (Ne.symm same), held]
      · simp [Contract.originIn, same, Tenancy.give_of_ne (Ne.symm same), Tenancy.drop_of_ne start]

/-- The address that a block of twice the alignment and some more is aligned
to lies in the block, and leaves room for the alignment and the rest. -/
theorem alignUp_inside (proper : b.Proper) {alignment : UInt64} {k rest : Nat}
    (pow : alignment.toNat = 2 ^ k) (even : 16 ∣ alignment.toNat)
    (large : 2 * alignment.toNat + rest ≤ b.capacity.toNat) :
    b.Holds (alignUp b.start alignment) ∧ 16 ∣ (alignUp b.start alignment).toNat ∧
      alignment.toNat ∣ (alignUp b.start alignment).toNat ∧
      alignment.toNat + rest ≤ b.room (alignUp b.start alignment) := by
  have inside := proper.inside
  have pos := Nat.two_pow_pos k
  have fits : b.start.toNat + alignment.toNat ≤ UInt64.size := by omega
  obtain ⟨multiple, above, below⟩ := alignUp_bounds pow fits
  refine ⟨⟨above, by omega⟩, Nat.dvd_trans even multiple, multiple, ?_⟩
  unfold Block.room
  omega

/-- The pointer to a new block moves inside the block before it is handed out. -/
theorem Backs.move_new (h : s'.Backs c (own.give b.start b)) (new : own b.start = none)
    (inside : b.Holds p) (aligned : 16 ∣ p.toNat) (ne : p ≠ b.start) {origins : OriginTable}
    (table : ∃ m, origins.Represents m ∧
      ∀ a, m[a]? = c.originIn (((own.give b.start b).drop b.start).give p b) a) :
    own p = none ∧ Backs { s' with origins } c (own.give p b) := by
  obtain ⟨unowned, backs⟩ := h.move Tenancy.give_self inside aligned ne table
  rw [Tenancy.drop_give new] at backs
  rw [Tenancy.give_of_ne ne] at unowned
  exact ⟨unowned, backs⟩

/-- A pointer to a new block that moves inside the block is handed out there. -/
theorem Backs.move_delivers {Fit : Addr → Prop} (h : s'.Backs c (own.give b.start b))
    (new : own b.start = none) (kept : s.Kept own s') (inside : b.Holds p)
    (aligned : 16 ∣ p.toNat) (ne : p ≠ b.start) (room : max need 1 ≤ b.room p) (fit : Fit p)
    {origins : OriginTable} (table : ∃ m, origins.Represents m ∧
      ∀ a, m[a]? = c.originIn (((own.give b.start b).drop b.start).give p b) a) :
    s.Delivers c own need (fun p _ => Fit p) (.ok p, { s' with origins }) := by
  obtain ⟨unowned, backs⟩ := h.move_new new inside aligned ne table
  exact .delivered unowned room backs ⟨kept.bytes, kept.config, kept.page⟩ fit

theorem Backs.attemptInside_delivers (h : s.Backs c own) {alignment total : UInt64} {k rest : Nat}
    (pow : alignment.toNat = 2 ^ k) (even : 16 ∣ alignment.toNat)
    (large : total.toNat = 2 * alignment.toNat + rest) :
    s.Delivers c own rest (fun p _ => alignment.toNat ∣ p.toNat) (s.attemptInside alignment total) := by
  unfold Layer.attemptInside
  rcases h.malloc total with ⟨s', outcome, backs, kept⟩ | ⟨b, s', outcome, room, new, backs, kept⟩
  · rw [outcome]
    exact .failed backs kept
  · rw [outcome]
    have held : own.give b.start b b.start = some b := Tenancy.give_self
    have wide : 2 * alignment.toNat + rest ≤ b.capacity.toNat := by omega
    obtain ⟨inside, natural, multiple, left⟩ := alignUp_inside (backs.proper held) pow even wide
    have pos := Nat.two_pow_pos k
    simp only
    split
    · next same =>
      rw [same] at multiple left
      exact .delivered new (by omega) backs kept multiple
    · next ne =>
      have accepts := backs.acceptsInterior
      have enough : max rest 1 ≤ b.room (alignUp b.start alignment) := by omega
      by_cases interior : c.interior
      · obtain ⟨m, represents, entries⟩ := backs.table
        simp only [accepts, interior, if_true]
        refine (backs.move_delivers new kept inside natural ne enough multiple
          ⟨m, represents, fun a => (entries a).trans ?_⟩).trace _
        simp [Contract.originIn, interior]
      · simp only [accepts, interior, Bool.false_eq_true, if_false]
        rcases backs.insert_origin held inside natural ne (by simpa using interior) with
          ⟨-, full⟩ | ⟨entered, table⟩
        · obtain ⟨backs', kept'⟩ := backs.deallocate new
          simp only [full, Bool.false_eq_true, if_false]
          exact (Delivers.failed backs' (kept.trans kept')).trace _
        · simp only [entered, if_true]
          exact (backs.move_delivers new kept inside natural ne enough multiple table).trace _

/-! ## 4. Aligned allocation -/

theorem Backs.memalignPadded_delivers (h : s.Backs c own) {alignment : UInt64} {k : Nat}
    (pow : alignment.toNat = 2 ^ k) (even : 16 ∣ alignment.toNat) (size : UInt64) :
    s.Delivers c own size.toNat (fun p _ => alignment.toNat ∣ p.toNat)
      (s.memalignPadded alignment size) := by
  unfold Layer.memalignPadded
  split
  · exact .failed h (.refl s own)
  · next padded fits =>
    have le := (paddedSize_ok fits).2
    rcases h.attempt alignment padded with
      ⟨err, s', outcome, backs, kept⟩ | ⟨p, s', outcome, aligned, delivers⟩ |
      ⟨s', outcome, backs, kept⟩
    · rw [outcome]
      exact .failed backs kept
    · rw [outcome]
      have multiple := (isAligned_iff pow).1 aligned
      exact (delivers.aligned le multiple).trace _
    · rw [outcome]
      simp only
      split
      · exact .failed backs kept
      · next total twice =>
        exact ((backs.attemptInside_delivers pow even (overAllocation_ok twice)).mono le
          fun _ _ good => good).after kept

theorem Backs.memalign_delivers (h : s.Backs c own) (alignment size : UInt64) :
    s.Delivers c own size.toNat
      (fun p _ => ∃ k, 2 ^ k ∣ p.toNat ∧ alignment.toNat ≤ 2 ^ k ∧ 16 ∣ 2 ^ k)
      (s.memalign alignment size) := by
  unfold Layer.memalign
  split
  · exact .failed h (.refl s own)
  · next power normalized =>
    obtain ⟨k, pow, raised, even⟩ := normalizeAlignment_ok normalized
    rw [pow] at raised
    have good (p : Addr) (multiple : power.toNat ∣ p.toNat) :
        ∃ k, 2 ^ k ∣ p.toNat ∧ alignment.toNat ≤ 2 ^ k ∧ 16 ∣ 2 ^ k :=
      ⟨k, pow ▸ multiple, raised, pow ▸ even⟩
    rcases h.attempt power size with
      ⟨err, s', outcome, backs, kept⟩ | ⟨p, s', outcome, aligned, delivers⟩ |
      ⟨s', outcome, backs, kept⟩
    · rw [outcome]
      exact .failed backs kept
    · rw [outcome]
      exact delivers.aligned (Nat.le_refl _) (good p ((isAligned_iff pow).1 aligned))
    · rw [outcome]
      exact ((backs.memalignPadded_delivers pow even size).mono (Nat.le_refl _)
        fun p _ multiple => good p multiple).after kept

/-- A power of two is not raised, or to a multiple of it. -/
theorem Backs.memalign_delivers_of_pow (h : s.Backs c own) {alignment : UInt64} {k : Nat}
    (pow : alignment.toNat = 2 ^ k) (size : UInt64) :
    s.Delivers c own size.toNat (fun p _ => alignment.toNat ∣ p.toNat)
      (s.memalign alignment size) := by
  refine (h.memalign_delivers alignment size).mono (Nat.le_refl _) fun p _ => ?_
  rintro ⟨l, aligned, above, -⟩
  rw [pow] at above ⊢
  exact Nat.dvd_trans (pow_dvd_pow 2 ((Nat.pow_le_pow_iff_right (by decide)).1 above)) aligned

theorem Backs.alignedAlloc_delivers (h : s.Backs c own) (alignment size : UInt64) :
    s.Delivers c own (Word.leastMultiple size.toNat alignment.toNat)
      (fun p _ => alignment.toNat ∣ p.toNat) (s.alignedAlloc alignment size) := by
  unfold Layer.alignedAlloc
  split
  · exact .failed h (.refl s own)
  · next power valid =>
    obtain ⟨rfl, k, pow⟩ := validateAlignment_ok valid
    split
    · exact .failed h (.refl s own)
    · next rounded multiple =>
      rw [← Word.toNat_nextMultiple? multiple]
      exact h.memalign_delivers_of_pow pow rounded

theorem Backs.posixMemalign_delivers (h : s.Backs c own) (alignment size : UInt64) :
    s.Delivers c own size.toNat (fun p _ => alignment.toNat ∣ p.toNat)
      (s.posixMemalign alignment size) := by
  rcases valid : validateAlignment alignment with err | power
  · simp only [Layer.posixMemalign, valid]
    exact (Delivers.failed h (.refl s own)).trace _
  · obtain ⟨rfl, k, pow⟩ := validateAlignment_ok valid
    have delivers := h.memalign_delivers_of_pow pow size
    simp only [Layer.posixMemalign, valid]
    split
    · next outcome =>
      rwa [outcome] at delivers
    · next outcome =>
      rw [outcome] at delivers
      exact delivers.trace _

theorem Backs.valloc_delivers (h : s.Backs c own) (size : UInt64) :
    s.Delivers c own size.toNat (fun p _ => s.page.bytes.toNat ∣ p.toNat) (s.valloc size) := by
  obtain ⟨_, pow⟩ := s.page.exists_pow
  exact h.memalign_delivers_of_pow pow size

/-! ## 5. The probe -/

/-- The probe for a good size is gone when the size is known. -/
theorem Backs.goodSize (h : s.Backs c own) (size : UInt64) :
    (s.goodSize size).2.Backs c own ∧ s.Kept own (s.goodSize size).2 := by
  unfold Layer.goodSize
  rcases h.malloc size with ⟨s', outcome, backs, kept⟩ | ⟨b, s', outcome, large, new, backs, kept⟩
  · rw [outcome]
    exact ⟨backs, kept⟩
  · rw [outcome]
    have held : own.give b.start b b.start = some b := Tenancy.give_self
    have leads := (c.measured backs.valid (backs.mem held) (.inl rfl)).2
    obtain ⟨backs', kept'⟩ := backs.stay leads
    obtain ⟨backs'', kept''⟩ := backs'.deallocate new
    exact ⟨backs'', (kept.trans (kept'.of_give new)).trans kept''⟩

end MallocLayer.Layer
