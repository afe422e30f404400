import MallocLayer.CSurface
import MallocLayer.Proofs.AlignedPlacement
import MallocLayer.Proofs.FailedRealloc

/-!
# Failed aligned allocation

A request of the aligned family that fails leaves everything as it was: the live
blocks, the side table, the bytes behind the client's pointers and the variable of
`posix_memalign`. What was granted on the way went back at once (`Undone`).

There are four reasons to fail. The alignment cannot be had, and then the
primitive is not called. Or a course ends without a pointer (`Exit`): no word is
the next size, the primitive refuses it, or the side table is full. When nothing
was refused and no size was too large, only the last is left, and a full side
table is enough to fail once the third block is misaligned (`ofHeap_answersAligned`).
-/

namespace MallocLayer

open Primitive (Block Contract)

namespace Layer

variable {σ : Type} [Primitive σ]

/-! ## 1. Failure at the end of a course -/

/-- A course that fails keeps all pointers, all bytes and the side table. -/
theorem Course.undone {c : Contract σ} {own : Tenancy} {s : Layer σ} {alignment : UInt64}
    {sizes : List Nat} {result : Except AllocError Addr × Layer σ}
    (course : Course alignment sizes s result) (h : s.Backs c own) :
    ∀ {err s'}, result = (.error err, s') →
      s'.Backs c own ∧ s.Kept own s' ∧ s'.origins = s.origins := by
  induction course with
  | start => nofun
  | inside => nofun
  | tracked => nofun
  | tooLarge large ends =>
    rintro _ _ ⟨⟩
    exact ⟨ends.backs h, ends.kept own, ends.origins⟩
  | refused answer ends =>
    rintro _ _ ⟨⟩
    obtain ⟨backs, kept, origins⟩ := h.refused answer
    exact ⟨ends.backs backs, kept.trans (ends.kept own), ends.origins.trans origins⟩
  | retry answer misaligned later ih =>
    intro err s' failed
    obtain ⟨b, rfl, -, new, backs, kept, origins⟩ := h.granted answer
    obtain ⟨backs', kept'⟩ := backs.deallocate new
    obtain ⟨backs'', kept'', origins''⟩ := ih backs' failed
    exact ⟨backs'', (kept.trans kept').trans kept'', origins''.trans origins⟩
  | untracked answer misaligned exact' full ends =>
    rintro _ _ ⟨⟩
    obtain ⟨b, rfl, -, new, backs, kept, origins⟩ := h.granted answer
    obtain ⟨backs', kept'⟩ := backs.deallocate new
    exact ⟨ends.backs backs', (kept.trans kept').trans (ends.kept own), ends.origins.trans origins⟩

/-- Why a course ends without a pointer after the blocks in `passing`, and the last
call that it makes. -/
inductive Exit (interior : Bool) (sizes : List Nat) (tracked : Nat) (passing : List Grant) :
    AllocError → List PrimitiveCall → Prop
  | tooLarge {size : Nat} {lhs rhs : UInt64} (next : sizes[passing.length]? = some size)
      (large : UInt64.size ≤ size) : Exit interior sizes tracked passing (.overflow lhs rhs) []
  | refused {size : UInt64} (next : sizes[passing.length]? = some size.toNat) :
      Exit interior sizes tracked passing (.outOfMemory size) [.allocate size none]
  | untracked {size : UInt64} {start : Addr} (latest : passing.getLast? = some ⟨size, start⟩)
      (all : passing.length = sizes.length) (exact' : interior = false)
      (full : tracked = OriginTable.capacity) :
      Exit interior sizes tracked passing (.outOfMemory size) []

/-- A course that fails with an error: all the blocks that it was granted were
misaligned and went back. -/
structure Withdraws (interior : Bool) (alignment : Nat) (sizes : List Nat)
    (s : Layer (Audited σ)) (err : AllocError) (s' : Layer (Audited σ)) (passing : List Grant)
    (last : List PrimitiveCall) : Prop where
  calls : s'.calls = s.calls ++ passing.flatMap Grant.passing ++ last
  asked : passing.map (·.size.toNat) <+: sizes
  misaligned : ∀ g ∈ passing, ¬ alignment ∣ g.start.toNat
  exit : Exit interior sizes s.trackedAlignedBlocks passing err last

variable {c : Contract (Audited σ)} {own : Tenancy} {s t s' : Layer (Audited σ)}
  {alignment size : UInt64} {k need rest : Nat} {sizes : List Nat} {err : AllocError} {p : Addr}

theorem Exit.after_retry {interior : Bool} {first next tracked : Nat} {later : List Nat}
    {passing : List Grant} {last : List PrimitiveCall} (g : Grant)
    (exit : Exit interior (next :: later) tracked passing err last) :
    Exit interior (first :: next :: later) tracked (g :: passing) err last := by
  cases exit with
  | tooLarge next large => exact .tooLarge next large
  | refused next => exact .refused next
  | untracked latest all exact' full =>
    cases passing with
    | nil => cases all
    | cons =>
      exact .untracked ((List.getLast?_cons_cons ..).trans latest) (congrArg Nat.succ all) exact' full

theorem Course.withdraws {result : Except AllocError Addr × Layer (Audited σ)}
    (course : Course alignment sizes s result) (h : s.Backs c own) (pow : alignment.toNat = 2 ^ k)
    (even : 16 ∣ alignment.toNat) (ample : Ample alignment.toNat need rest sizes) :
    ∀ {err s'}, result = (.error err, s') → ∃ passing last,
      Withdraws c.interior alignment.toNat sizes s err s' passing last := by
  induction course with
  | start => nofun
  | inside => nofun
  | tracked => nofun
  | tooLarge large ends =>
    rintro _ _ ⟨⟩
    exact ⟨[], [], by simp [ends.calls], List.nil_prefix, nofun, .tooLarge rfl large⟩
  | refused answer ends =>
    rintro _ _ ⟨⟩
    refine ⟨[], [.allocate _ none], ?_, List.nil_prefix, nofun, .refused rfl⟩
    simp [ends.calls, calls_of_refused answer]
  | retry answer misaligned later ih =>
    intro err s' failed
    obtain ⟨b, rfl, -, new, backs, -, origins⟩ := h.granted answer
    obtain ⟨passing, last, withdraws⟩ := ih (backs.deallocate new).1 ample.tail failed
    have calls := withdraws.calls
    have exit := withdraws.exit
    rw [calls_of_passing answer] at calls
    have tracked : (Layer.deallocate _ b.start).trackedAlignedBlocks = _ :=
      congrArg OriginTable.size origins
    rw [tracked] at exit
    refine ⟨⟨_, b.start⟩ :: passing, last, by simpa using calls,
      (List.prefix_cons_inj _).2 withdraws.asked, ?_, exit.after_retry _⟩
    exact List.forall_mem_cons.2 ⟨misaligned, withdraws.misaligned⟩
  | @untracked size s t s' start answer misaligned exact' full ends =>
    rintro _ _ ⟨⟩
    obtain ⟨b, rfl, -, -, backs, -⟩ := h.granted answer
    have spare : size.toNat = 2 * alignment.toNat + rest := Option.some.inj ample.spare
    have exact'' : c.interior = false := backs.acceptsInterior ▸ exact'
    have tracked := h.full_of_untracked answer pow even spare misaligned exact'' full
    refine ⟨[⟨size, b.start⟩], [], ?_, List.prefix_rfl, ?_, ?_⟩
    · simp [ends.calls, calls_of_passing answer]
    · exact List.forall_mem_singleton.2 misaligned
    · exact .untracked rfl rfl exact'' tracked

/-! ## 2. Failure of a request -/

/-- The number of blocks granted that no address to be handed out starts. -/
def misses (alignment : Nat) (made : List PrimitiveCall) : Nat :=
  (grants made).countP fun g => ¬ alignment ∣ g.start.toNat

/-- From `s` to `s'` a request failed, after the blocks in `passing` had been given
back, and all is as it was. -/
structure Undone (c : Contract σ) (r : Request) (s : Layer (Audited σ)) (owned : Ledger)
    (err : AllocError) (s' : Layer (Audited σ)) (passing : List Grant)
    (last : List PrimitiveCall) : Prop where
  live_eq : c.live (Audited.innerHeap s'.heap) = c.live (Audited.innerHeap s.heap)
  origins_eq : s'.origins = s.origins
  /-- The client has its pointers, and the bytes behind them. -/
  spares : ∀ p ∈ owned, s.Spares c.audited p s'
  /-- The variable of `posix_memalign` is not written. -/
  unwritten : ∀ alignment size, r = .posixMemalign alignment size →
    ∀ surface : CSurface (Audited σ), surface.layer = s →
      (surface.posixMemalign true alignment size).2.1 = none
  calls : s'.calls = s.calls ++ passing.flatMap Grant.passing ++ last
  /-- Nothing was granted that did not go back. -/
  last_eq : last = [] ∨ ∃ size, last = [.allocate size none]
  /-- The size in the error is that of the attempt that failed. -/
  outOfMemory : ∀ size, err = .outOfMemory size →
    last = [.allocate size none] ∨ last = [] ∧ ∃ start, passing.getLast? = some ⟨size, start⟩

/-- What an answer to the request `r` means on pages of the given size. -/
structure AnswersAligned (c : Contract σ) (page : PageSize) (r : Request)
    (s : Layer (Audited σ)) (owned : Ledger) (result : Except AllocError Addr)
    (s' : Layer (Audited σ)) : Prop where
  undone : ∀ err, result = .error err → ∃ passing last, Undone c r s owned err s' passing last
  invalid_iff : (∃ a, result = .error (.invalidAlignment a)) ↔ ¬ r.Representable
  quiet : ¬ r.Representable → s'.calls = s.calls
  /-- With nothing refused and no size too large, only a full table makes it fail. -/
  fails_iff : r.Representable → ∀ made, s'.calls = s.calls ++ made →
    (∀ size, .allocate size none ∉ made) →
    (∀ n ∈ (attemptSizes (r.boundary page) r.extent).take (misses (r.boundary page) made + 1),
      n < UInt64.size) →
    ((∃ err, result = .error err) ↔ ∃ third, (grants made)[2]? = some third ∧
      c.interior = false ∧ ¬ r.boundary page ∣ third.start.toNat ∧
      s.trackedAlignedBlocks = OriginTable.capacity)

theorem misses_passing {alignment : Nat} {passing : List Grant} {last : List PrimitiveCall}
    (misaligned : ∀ g ∈ passing, ¬ alignment ∣ g.start.toNat) (none : grants last = []) :
    misses alignment (passing.flatMap Grant.passing ++ last) = passing.length := by
  rw [misses, grants_append, grants_passing, none, List.append_nil, List.countP_eq_length]
  intro g member
  exact decide_eq_true (misaligned g member)

/-- A course that failed although nothing was refused and no size was too large
stopped at a full table. -/
theorem Withdraws.full {boundary : Nat} {passing : List Grant} {last : List PrimitiveCall}
    (withdraws : Withdraws c.interior boundary sizes s err s' passing last)
    (granted : ∀ size, .allocate size none ∉ passing.flatMap Grant.passing ++ last)
    (fit : ∀ n ∈ sizes.take (misses boundary (passing.flatMap Grant.passing ++ last) + 1),
      n < UInt64.size) :
    passing.length = sizes.length ∧ last = [] ∧ c.interior = false ∧
      s.trackedAlignedBlocks = OriginTable.capacity := by
  rcases withdraws.exit with ⟨next, large⟩ | _ | ⟨latest, all, exact', full⟩
  · rw [misses_passing withdraws.misaligned rfl] at fit
    refine absurd (fit _ ?_) (Nat.not_lt.2 large)
    rw [← List.getElem?_take_of_lt (Nat.lt_succ_self _)] at next
    exact List.mem_of_getElem? next
  · exact absurd (List.mem_append_right _ (.head _)) (granted _)
  · exact ⟨all, rfl, exact', full⟩

/-- A course that placed its pointer in a third block needed no entry, or had a
place for one. -/
theorem Placed.not_full {r : Request} {passing : List Grant} {last : UInt64} {b : Block}
    {third : Grant} (placed : Placed c own (r.boundary s.page) need rest
      (attemptSizes (r.boundary s.page) r.extent) s p s' passing last b)
    (three : (passing ++ [⟨last, b.start⟩])[2]? = some third)
    (misaligned : ¬ r.boundary s.page ∣ third.start.toNat) (exact' : c.interior = false) :
    s.trackedAlignedBlocks ≠ OriginTable.capacity := by
  intro full
  have most : passing.length + 1 ≤ 3 := by simpa [attemptSizes] using placed.asked.length_le
  have two : passing.length = 2 := by
    have := (List.getElem?_eq_some_iff.1 three).1
    rw [List.length_append, List.length_singleton] at this
    omega
  have latest : third = ⟨last, b.start⟩ := by
    rw [← two, List.getElem?_concat_length] at three
    exact (Option.some.inj three).symm
  subst latest
  have ne : p ≠ b.start := fun eq => misaligned (eq ▸ placed.multiple)
  have entry := placed.entry
  have needed : passing.length + 1 = (attemptSizes (r.boundary s.page) r.extent).length ∧
      p ≠ b.start ∧ c.interior = false := ⟨congrArg Nat.succ two, ne, exact'⟩
  rw [if_pos needed, OriginTable.insert, if_pos (show s.origins.live = _ from full)] at entry
  cases entry

/-- The course of a request that fails withdraws. -/
theorem Course.withdraws_request {r : Request}
    (course : Course (UInt64.ofNat (r.boundary s.page))
      (attemptSizes (r.boundary s.page) r.extent) s (.error err, s'))
    (h : s.Backs c own) (aligns : r.Aligns) (representable : r.Representable) :
    ∃ passing last, Withdraws c.interior (r.boundary s.page)
      (attemptSizes (r.boundary s.page) r.extent) s err s' passing last := by
  obtain ⟨word, ⟨k, pow⟩, even⟩ := r.boundary_spec s.page aligns representable
  have withdraws := course.withdraws h (word.trans pow) (word.symm ▸ even)
    (ample_request s.page aligns representable) rfl
  rwa [word] at withdraws

/-- With nothing refused and no size too large, a request that fails found the third
block misaligned and the side table full. -/
theorem Withdraws.third_misaligned {r : Request} {passing : List Grant}
    {last made : List PrimitiveCall}
    (withdraws : Withdraws c.interior (r.boundary s.page)
      (attemptSizes (r.boundary s.page) r.extent) s err s' passing last)
    (calls : s'.calls = s.calls ++ made)
    (granted : ∀ size, .allocate size none ∉ made)
    (fit : ∀ n ∈ (attemptSizes (r.boundary s.page) r.extent).take
      (misses (r.boundary s.page) made + 1), n < UInt64.size) :
    ∃ third, (grants made)[2]? = some third ∧ c.interior = false ∧
      ¬ r.boundary s.page ∣ third.start.toNat ∧ s.trackedAlignedBlocks = OriginTable.capacity := by
  have same := withdraws.calls
  rw [calls, List.append_assoc, List.append_cancel_left_eq] at same
  subst same
  obtain ⟨all, rfl, exact', full⟩ := withdraws.full granted fit
  rw [List.append_nil, grants_passing]
  have three : 2 < passing.length := by
    rw [all]
    exact Nat.lt_succ_self 2
  exact ⟨passing[2], List.getElem?_eq_getElem three, exact',
    withdraws.misaligned _ (List.getElem_mem three), full⟩

/-- A layer that only logged has withdrawn nothing. -/
theorem Accounts.undone {c : Contract σ} {owned : Ledger} {r : Request} {passing : List Grant}
    {last : List PrimitiveCall} (h : s.Accounts c.audited owned own)
    (served : s.serve r = (.pointer (.error err), s')) (backs : s'.Backs c.audited own)
    (kept : s.Kept own s') (origins : s'.origins = s.origins)
    (calls : s'.calls = s.calls ++ passing.flatMap Grant.passing ++ last)
    (last_eq : last = [] ∨ ∃ size, last = [.allocate size none])
    (outOfMemory : ∀ size, err = .outOfMemory size →
      last = [.allocate size none] ∨ last = [] ∧ ∃ start, passing.getLast? = some ⟨size, start⟩) :
    Undone c r s owned err s' passing last where
  live_eq := h.backs.live_of_same backs
  origins_eq := origins
  spares p mine := by
    obtain ⟨b, held⟩ := (h.lists p).1 mine
    exact h.backs.spares held backs kept
  unwritten a n posix surface same := by
    subst posix same
    have answer : surface.layer.posixMemalign a n = (.error err, s') := eq_of_map_pointer served
    simp only [CSurface.posixMemalign, answer, if_true]
  calls := calls
  last_eq := last_eq
  outOfMemory := outOfMemory

theorem Accounts.answersAligned {c : Contract σ} {owned : Ledger} {r : Request}
    {result : Except AllocError Addr} (h : s.Accounts c.audited owned own) (aligns : r.Aligns)
    (served : s.serve r = (.pointer result, s')) :
    AnswersAligned c s.page r s owned result s' := by
  rcases serve_course aligns served with
    ⟨representable, course⟩ | ⟨unrepresentable, ⟨a, rfl⟩, logs⟩
  · have withdraws {err : AllocError} (failed : result = .error err) :=
      (failed ▸ course).withdraws_request h.backs aligns representable
    exact
      { undone := by
          rintro err rfl
          obtain ⟨backs, kept, origins⟩ := course.undone h.backs rfl
          obtain ⟨passing, last, withdraws⟩ := withdraws rfl
          refine ⟨passing, last, h.undone served backs kept origins withdraws.calls ?_ ?_⟩
          · cases withdraws.exit with
            | tooLarge => exact .inl rfl
            | refused => exact .inr ⟨_, rfl⟩
            | untracked => exact .inl rfl
          · rintro size rfl
            cases withdraws.exit with
            | refused => exact .inl rfl
            | untracked latest => exact .inr ⟨rfl, _, latest⟩
        invalid_iff := by
          refine iff_of_false ?_ (not_not_intro representable)
          rintro ⟨a, rfl⟩
          obtain ⟨_, _, withdraws⟩ := withdraws rfl
          cases withdraws.exit
        quiet := fun unrepresentable => absurd representable unrepresentable
        fails_iff := by
          intro _ made calls granted fit
          constructor
          · rintro ⟨err, failed⟩
            obtain ⟨passing, last, withdraws⟩ := withdraws failed
            exact withdraws.third_misaligned calls granted fit
          · rintro ⟨third, three, exact', misaligned, full⟩
            cases result with
            | error err => exact ⟨err, rfl⟩
            | ok p =>
              obtain ⟨passing, last, b, placed⟩ := course.placed_request h.backs aligns representable
              have same := placed.calls
              rw [calls, List.append_assoc, List.append_cancel_left_eq] at same
              subst same
              rw [grants_append, grants_passing] at three
              exact absurd full (placed.not_full three misaligned exact') }
  · exact
      { undone := by
          rintro _ ⟨⟩
          refine ⟨[], [], h.undone served (logs.backs h.backs) (logs.kept own) logs.origins ?_
            (.inl rfl) nofun⟩
          simp [logs.calls]
        invalid_iff := iff_of_true ⟨a, rfl⟩ unrepresentable
        quiet := fun _ => logs.calls
        fails_iff := fun representable => absurd representable unrepresentable }

/-- In every state that a legal program over any conforming primitive leads to,
requests of the aligned family fail for the reasons given and leave nothing behind
when they do. -/
theorem ofHeap_answersAligned (c : Contract σ) {heap : Heap σ} (valid : c.Valid heap)
    (bare : c.live heap = ∅) (page : PageSize) (config : Config) (program : List Request)
    (legal : (ofHeap heap page config).LegalRun ∅ program) :
    (ofHeap (Audited.ofHeap heap) page config).Throughout
      (fun s owned => ∀ r : Request, r.Aligns → ∀ result s',
        s.serve r = (.pointer result, s') → AnswersAligned c page r s owned result s')
      ∅ program := by
  have legal' : (ofHeap (Audited.ofHeap heap) page config).LegalRun ∅ program :=
    (along_legalBy Audited.projects _).1 legal
  have clean : c.audited.Valid (Audited.ofHeap heap) := ⟨valid, nofun⟩
  refine throughout_of_accounts clean bare page config ?_ legal'
  intro s owned own same accounts r aligns result s' served
  exact same ▸ accounts.answersAligned aligns served

/-- An arena without aligned addresses in which the third call fails. -/
def thirdFails : Arena.Script := { skewed with fail := [3] }

theorem thirdFails_fits : Arena.Fits thirdFails := by decide

/-- A layer over that arena, with an audit. -/
def thirdFailsLayer : Layer (Audited Arena) :=
  ofHeap (Audited.ofHeap (Arena.fresh thirdFails)) widePages

/-- The third attempt fails, for its size. -/
theorem ofHeap_answersAligned_thirdFails :
    (Arena.contract thirdFails thirdFails_fits).Valid (Arena.fresh thirdFails) ∧
      (Arena.contract thirdFails thirdFails_fits).live (Arena.fresh thirdFails) = ∅ ∧
      (ofHeap (Arena.fresh thirdFails) widePages).LegalRun ∅ [] ∧
      (thirdFailsLayer.posixMemalign 64 10).1 = .error (.outOfMemory 192) ∧
      AnswersAligned (Arena.contract thirdFails thirdFails_fits) widePages (.posixMemalign 64 10)
        thirdFailsLayer ∅ (.error (.outOfMemory 192)) (thirdFailsLayer.posixMemalign 64 10).2 := by
  have valid := Arena.valid_fresh thirdFails thirdFails_fits
  have bare := Arena.live_fresh thirdFails thirdFails_fits
  have answer : (thirdFailsLayer.posixMemalign 64 10).1 = .error (.outOfMemory 192) := by
    decide +kernel
  have served : thirdFailsLayer.serve (.posixMemalign 64 10) =
      (.pointer (.error (.outOfMemory 192)), (thirdFailsLayer.posixMemalign 64 10).2) :=
    map_pointer answer
  exact ⟨valid, bare, trivial, answer,
    ofHeap_answersAligned _ valid bare widePages {} [] trivial (.posixMemalign 64 10) trivial _ _
      served⟩

end Layer

end MallocLayer
