import MallocLayer.Proofs.AlignedCourse

/-!
# Where an aligned block lies

What a request of the aligned family leaves behind when it succeeds. One block is
live that was not, and it holds the pointer and all that is usable behind it. The
blocks of the attempts before went back one by one. Only the last attempt can
return an address that is not the start of the block, and the side table has an
entry for it exactly then, and only over a primitive that has to be given starts.

`Course.placed` is the induction over the attempts, `ofHeap_places` the statement
about all legal programs.
-/

namespace MallocLayer

open Primitive (Block Contract)

namespace Layer

variable {σ : Type} [Primitive σ]

/-! ## 1. Success at the end of a course -/

/-- The sizes are those of attempts at `need` bytes of which the last leaves room
to look for an aligned address in front of `rest` bytes. -/
structure Ample (alignment need rest : Nat) (sizes : List Nat) : Prop where
  enough : ∀ n ∈ sizes, need ≤ n
  spare : sizes.getLast? = some (2 * alignment + rest)
  covered : need ≤ rest

theorem Ample.tail {alignment need rest size next : Nat} {later : List Nat}
    (ample : Ample alignment need rest (size :: next :: later)) :
    Ample alignment need rest (next :: later) where
  enough n member := ample.enough n (.tail _ member)
  spare := (List.getLast?_cons_cons ..).symm.trans ample.spare
  covered := ample.covered

/-- The pointer `p` was handed out in the block `b`, the last one of a course. -/
structure Placed (c : Contract (Audited σ)) (own : Tenancy) (alignment need rest : Nat)
    (sizes : List Nat) (s : Layer (Audited σ)) (p : Addr) (s' : Layer (Audited σ))
    (passing : List Grant) (last : UInt64) (b : Block) : Prop where
  backs : s'.Backs c (own.give p b)
  new : own p = none
  kept : s.Kept own s'
  multiple : alignment ∣ p.toNat
  room : need ≤ b.room p
  calls : s'.calls = s.calls ++ passing.flatMap Grant.passing ++ [.allocate last (some b.start)]
  asked : passing.map (·.size.toNat) ++ [last.toNat] <+: sizes
  /-- Before the last attempt only the start of a block will do. -/
  early : passing.length + 1 < sizes.length → p = b.start
  /-- At the last attempt the address is sought no further than the alignment. -/
  near : passing.length + 1 = sizes.length →
    b.start.toNat + alignment ≤ UInt64.size ∧ b.start.toNat ≤ p.toNat ∧
      p.toNat < b.start.toNat + alignment ∧
      p.toNat + rest ≤ b.start.toNat + b.capacity.toNat
  entry : if passing.length + 1 = sizes.length ∧ p ≠ b.start ∧ c.interior = false
    then s.origins.insert p b.start = (true, s'.origins) else s'.origins = s.origins

variable {c : Contract (Audited σ)} {own : Tenancy} {s t s' : Layer (Audited σ)}
  {alignment size : UInt64} {k need rest : Nat} {sizes : List Nat} {b : Block} {p : Addr}

/-- An attempt before that was given back leaves no trace but in the calls. -/
theorem Placed.after_retry {later : List Nat} {next : Nat} {passing : List Grant} {last : UInt64}
    {start : Addr} (h : s.Backs c own) (answer : s.malloc size = (.ok start, t))
    (placed : Placed c own alignment.toNat need rest (next :: later) (t.deallocate start) p s'
      passing last b) :
    Placed c own alignment.toNat need rest (size.toNat :: next :: later) s p s'
      (⟨size, start⟩ :: passing) last b := by
  obtain ⟨d, rfl, -, new, backs, kept, origins⟩ := h.granted answer
  obtain ⟨-, kept'⟩ := backs.deallocate new
  have calls := placed.calls
  have entry := placed.entry
  rw [calls_of_passing answer] at calls
  exact
    { backs := placed.backs
      new := placed.new
      kept := (kept.trans kept').trans placed.kept
      multiple := placed.multiple
      room := placed.room
      calls := by simpa using calls
      asked := (List.prefix_cons_inj _).2 placed.asked
      early := fun less => placed.early (Nat.lt_of_succ_lt_succ less)
      near := fun same => placed.near (Nat.succ.inj same)
      entry := by
        rw [show (t.deallocate d.start).origins = s.origins from origins] at entry
        simpa using entry }

/-- The side table, once the pointer has been entered if it has to be. -/
theorem Backs.entered_table {origins : OriginTable} (h : s.Backs c own)
    (held : own b.start = some b) (inside : b.Holds p) (natural : 16 ∣ p.toNat) (ne : p ≠ b.start)
    (entered : if c.interior = false then s.origins.insert p b.start = (true, origins)
      else origins = s.origins) :
    ∃ m, origins.Represents m ∧ ∀ a, m[a]? = c.originIn ((own.drop b.start).give p b) a := by
  by_cases exact' : c.interior = false
  · rw [if_pos exact'] at entered
    rcases h.insert_origin held inside natural ne exact' with ⟨-, full⟩ | ⟨-, table⟩
    · rw [entered] at full
      cases full
    · rwa [entered] at table
  · rw [if_neg exact'] at entered
    obtain ⟨m, represents, entries⟩ := h.table
    rw [Bool.not_eq_false] at exact'
    refine ⟨m, entered ▸ represents, fun a => (entries a).trans ?_⟩
    simp [Contract.originIn, exact']

/-- The last attempt finds an aligned address behind the start of its block. -/
theorem Backs.placed_inside {start : Addr} {origins : OriginTable} (h : s.Backs c own)
    (answer : s.malloc size = (.ok start, t)) (pow : alignment.toNat = 2 ^ k)
    (even : 16 ∣ alignment.toNat) (ample : Ample alignment.toNat need rest [size.toNat])
    (misaligned : ¬ alignment.toNat ∣ start.toNat)
    (entered : if c.interior = false
      then t.origins.insert (alignUp start alignment) start = (true, origins)
      else origins = t.origins)
    (ends : OnlyLogs { t with origins } s') :
    ∃ b, Placed c own alignment.toNat need rest [size.toNat] s (alignUp start alignment) s' []
      size b := by
  obtain ⟨b, rfl, large, new, backs, kept, same⟩ := h.granted answer
  have spare : size.toNat = 2 * alignment.toNat + rest := Option.some.inj ample.spare
  have held : own.give b.start b b.start = some b := Tenancy.give_self
  have proper := backs.proper held
  have pos : 0 < alignment.toNat := pow ▸ Nat.two_pow_pos k
  have fits : b.start.toNat + alignment.toNat ≤ UInt64.size := by
    have := proper.inside
    omega
  have wide : 2 * alignment.toNat + rest ≤ b.capacity.toNat := by omega
  obtain ⟨inside, natural, multiple, left⟩ := alignUp_inside proper pow even wide
  obtain ⟨-, above, below⟩ := alignUp_bounds pow fits
  have ne : alignUp b.start alignment ≠ b.start := fun eq => misaligned (eq ▸ multiple)
  generalize alignUp b.start alignment = p at *
  have table := backs.entered_table held inside natural ne entered
  obtain ⟨unowned, moved⟩ := backs.move_new new inside natural ne table
  have covered := ample.covered
  have kept' : s.Kept own { t with origins } := ⟨kept.bytes, kept.config, kept.page⟩
  have called := calls_of_granted answer
  refine ⟨b, ?_⟩
  exact
    { backs := ends.backs moved
      new := unowned
      kept := kept'.trans (ends.kept own)
      multiple := multiple
      room := by omega
      calls := by
        rw [ends.calls, List.flatMap_nil, List.append_nil]
        exact called
      asked := List.prefix_rfl
      early := fun less => absurd less (Nat.lt_irrefl 1)
      near := fun _ => by
        unfold Block.room at left
        have := inside.2
        omega
      entry := by
        rw [ends.origins]
        by_cases exact' : c.interior = false
        · rw [if_pos exact', same] at entered
          simpa [ne, exact'] using entered
        · rw [if_neg exact', same] at entered
          simpa [exact'] using entered }

theorem Course.placed {result : Except AllocError Addr × Layer (Audited σ)}
    (course : Course alignment sizes s result) (h : s.Backs c own) (pow : alignment.toNat = 2 ^ k)
    (even : 16 ∣ alignment.toNat) (ample : Ample alignment.toNat need rest sizes) :
    ∀ {p s'}, result = (.ok p, s') → ∃ passing last b,
      Placed c own alignment.toNat need rest sizes s p s' passing last b := by
  have pos := Nat.two_pow_pos k
  induction course with
  | tooLarge => nofun
  | refused => nofun
  | untracked => nofun
  | retry answer misaligned later ih =>
    rintro p s' done
    obtain ⟨d, start, -, new, backs, -⟩ := h.granted answer
    subst start
    obtain ⟨passing, last, b, placed⟩ := ih (backs.deallocate new).1 ample.tail done
    exact ⟨_, last, b, placed.after_retry h answer⟩
  | @start size later s t s' b answer multiple ends =>
    rintro _ _ ⟨⟩
    obtain ⟨b, rfl, large, new, backs, kept, origins⟩ := h.granted answer
    have enough := ample.enough _ (.head later)
    refine ⟨[], size, b, ?_⟩
    exact
      { backs := ends.backs backs
        new := new
        kept := kept.trans (ends.kept own)
        multiple := multiple
        room := by
          rw [room_start]
          omega
        calls := by simp [ends.calls, calls_of_granted answer]
        asked := (List.prefix_cons_inj _).2 (List.nil_prefix)
        early := fun _ => rfl
        near := fun only => by
          have none : later = [] := List.length_eq_zero_iff.1 (Nat.succ.inj only).symm
          subst none
          have spare : size.toNat = 2 * alignment.toNat + rest := Option.some.inj ample.spare
          have inside := (backs.proper Tenancy.give_self).inside
          omega
        entry := by simp [ends.origins, origins] }
  | inside answer misaligned interior ends =>
    rintro _ _ ⟨⟩
    obtain ⟨_, -, -, -, backs, -⟩ := h.granted answer
    rw [backs.acceptsInterior] at interior
    obtain ⟨b, placed⟩ := h.placed_inside answer pow even ample misaligned (by simp [interior]) ends
    exact ⟨[], _, b, placed⟩
  | tracked answer misaligned exact' entered ends =>
    rintro _ _ ⟨⟩
    obtain ⟨_, -, -, -, backs, -⟩ := h.granted answer
    rw [backs.acceptsInterior] at exact'
    obtain ⟨b, placed⟩ :=
      h.placed_inside answer pow even ample misaligned (by rwa [if_pos exact']) ends
    exact ⟨[], _, b, placed⟩

theorem ample_attemptSizes {alignment : Nat} (pos : 0 < alignment) (size : Nat) :
    Ample alignment size (paddedTo alignment size) (attemptSizes alignment size) := by
  have padded := le_paddedTo pos size
  constructor
  · simp only [attemptSizes, List.forall_mem_cons]
    exact ⟨Nat.le_refl _, by omega, by omega, nofun⟩
  · rfl
  · omega

theorem Placed.fresh {passing : List Grant} {last : UInt64} (h : s.Backs c own)
    (placed : Placed c own k need rest sizes s p s' passing last b) : b ∉ c.live s.heap := by
  intro old
  obtain ⟨q, held⟩ := (h.mem_live b).1 old
  exact placed.backs.unused placed.new q held

theorem Placed.live_eq {passing : List Grant} {last : UInt64} (h : s.Backs c own)
    (placed : Placed c own k need rest sizes s p s' passing last b) :
    c.live s'.heap = insert b (c.live s.heap) := by
  ext d
  rw [placed.backs.mem_live, Tenancy.exists_give placed.new, Set.mem_insert_iff, h.mem_live]

theorem Placed.represents {passing : List Grant} {last : UInt64} (h : s.Backs c own)
    (placed : Placed c own k need rest sizes s p s' passing last b) :
    ∃ m, s.origins.Represents m ∧ p ∉ m ∧
      s'.origins.Represents
        (if passing.length + 1 = sizes.length ∧ p ≠ b.start ∧ c.interior = false
          then m.insert p b.start else m) := by
  obtain ⟨m, represents, entries⟩ := h.table
  have absent : p ∉ m := by
    rw [Std.ExtHashMap.mem_iff_isSome_getElem?, entries]
    simp [Contract.originIn, placed.new]
  refine ⟨m, represents, absent, ?_⟩
  have entry := placed.entry
  by_cases needed : passing.length + 1 = sizes.length ∧ p ≠ b.start ∧ c.interior = false
  · rw [if_pos needed] at entry ⊢
    have room : m.size ≠ OriginTable.capacity := by
      intro full
      rw [OriginTable.insert_full represents full] at entry
      cases entry
    have address := placed.backs.isAddress Tenancy.give_self
    have entered := (OriginTable.insert_represents (o := b.start) represents address room).2
    rwa [entry] at entered
  · rw [if_neg needed] at entry ⊢
    rwa [entry]

/-! ## 2. Success of a request -/

/-- On pages of the given size, the request `r` was answered with the pointer `p` in the
block `b`, after the blocks in `passing` had been given back, one before the next. -/
structure Places (c : Contract σ) (page : PageSize) (r : Request) (s : Layer (Audited σ))
    (p : Addr) (s' : Layer (Audited σ)) (passing : List Grant) (last : UInt64) (b : Block) :
    Prop where
  multiple : r.boundary page ∣ p.toNat
  usable : r.extent ≤ (s'.usableSize (some p)).1.toNat
  /-- One block is live that was not. -/
  fresh : b ∉ c.live (Audited.innerHeap s.heap)
  live_eq : c.live (Audited.innerHeap s'.heap) = insert b (c.live (Audited.innerHeap s.heap))
  /-- All that is usable lies in that block. -/
  above : b.start.toNat ≤ p.toNat
  below : p.toNat + (s'.usableSize (some p)).1.toNat ≤ b.start.toNat + b.capacity.toNat
  calls : s'.calls = s.calls ++ passing.flatMap Grant.passing ++ [.allocate last (some b.start)]
  asked : passing.map (·.size.toNat) ++ [last.toNat] <+: attemptSizes (r.boundary page) r.extent
  early : passing.length < 2 → p = b.start
  /-- At the third attempt no address wraps around or leaves the block. -/
  third : passing.length = 2 →
    b.start.toNat + r.boundary page - 1 < UInt64.size ∧
      p.toNat - b.start.toNat < r.boundary page ∧
      p.toNat + paddedTo (r.boundary page) r.extent ≤ b.start.toNat + b.capacity.toNat
  /-- The side table has a new entry exactly if it is needed. -/
  entry : ∃ m, s.origins.Represents m ∧ p ∉ m ∧
    s'.origins.Represents
      (if passing.length = 2 ∧ p ≠ b.start ∧ c.interior = false then m.insert p b.start else m)

theorem ample_request {r : Request} (page : PageSize) (aligns : r.Aligns)
    (representable : r.Representable) :
    Ample (UInt64.ofNat (r.boundary page)).toNat r.extent (paddedTo (r.boundary page) r.extent)
      (attemptSizes (r.boundary page) r.extent) := by
  obtain ⟨word, ⟨k, pow⟩, -⟩ := r.boundary_spec page aligns representable
  rw [word]
  exact ample_attemptSizes (pow ▸ Nat.two_pow_pos k) r.extent

/-- The course of a request that succeeds places the pointer. -/
theorem Course.placed_request {r : Request}
    (course : Course (UInt64.ofNat (r.boundary s.page))
      (attemptSizes (r.boundary s.page) r.extent) s (.ok p, s'))
    (h : s.Backs c own) (aligns : r.Aligns) (representable : r.Representable) :
    ∃ passing last b, Placed c own (r.boundary s.page) r.extent
      (paddedTo (r.boundary s.page) r.extent) (attemptSizes (r.boundary s.page) r.extent)
      s p s' passing last b := by
  obtain ⟨word, ⟨k, pow⟩, even⟩ := r.boundary_spec s.page aligns representable
  have ample := ample_request s.page aligns representable
  obtain ⟨passing, last, b, placed⟩ :=
    course.placed h (word.trans pow) (word.symm ▸ even) ample rfl
  rw [word] at placed
  exact ⟨passing, last, b, placed⟩

theorem Accounts.places {c : Contract σ} {owned : Ledger} {r : Request}
    (h : s.Accounts c.audited owned own) (aligns : r.Aligns)
    (served : s.serve r = (.pointer (.ok p), s')) :
    ∃ passing last b, Places c s.page r s p s' passing last b := by
  rcases serve_course aligns served with ⟨representable, course⟩ | ⟨-, ⟨_, failed⟩, -⟩
  · obtain ⟨passing, last, b, placed⟩ := course.placed_request h.backs aligns representable
    have held : own.give p b p = some b := Tenancy.give_self
    have inside := placed.backs.holds held
    have usable : (s'.usableSize (some p)).1.toNat = b.room p := (placed.backs.usableSize held).1
    refine ⟨passing, last, b, ?_⟩
    exact
      { multiple := placed.multiple
        usable := usable ▸ placed.room
        fresh := placed.fresh h.backs
        live_eq := placed.live_eq h.backs
        above := inside.1
        below := by
          have := inside.2
          rw [usable, Block.room]
          omega
        calls := placed.calls
        asked := placed.asked
        early := fun less => placed.early (Nat.succ_lt_succ less)
        third := fun two => by
          obtain ⟨fits, above, near, within⟩ := placed.near (congrArg Nat.succ two)
          exact ⟨by omega, by omega, within⟩
        entry := by
          have third : passing.length + 1 = (attemptSizes (r.boundary s.page) r.extent).length ↔
              passing.length = 2 := Nat.succ_inj
          have entry := placed.represents h.backs
          simp only [third] at entry
          exact entry }
  · cases failed

/-- In every state that a legal program over any conforming primitive leads to, a
request of the aligned family that succeeds has placed its pointer so. -/
theorem ofHeap_places (c : Contract σ) {heap : Heap σ} (valid : c.Valid heap)
    (bare : c.live heap = ∅) (page : PageSize) (config : Config) (program : List Request)
    (legal : (ofHeap heap page config).LegalRun ∅ program) :
    (ofHeap (Audited.ofHeap heap) page config).Throughout
      (fun s _ => ∀ r : Request, r.Aligns → ∀ p s', s.serve r = (.pointer (.ok p), s') →
        ∃ passing last b, Places c page r s p s' passing last b)
      ∅ program := by
  have legal' : (ofHeap (Audited.ofHeap heap) page config).LegalRun ∅ program :=
    (along_legalBy Audited.projects _).1 legal
  have clean : c.audited.Valid (Audited.ofHeap heap) := ⟨valid, nofun⟩
  refine throughout_of_accounts clean bare page config ?_ legal'
  intro s owned own same accounts r aligns p s' served
  exact same ▸ accounts.places aligns served

/-- A layer over that arena, with an audit. -/
def skewedLayer : Layer (Audited Arena) :=
  ofHeap (Audited.ofHeap (Arena.fresh skewed)) widePages

theorem ofHeap_places_skewedLayer :
    (Arena.contract skewed skewed_fits).Valid (Arena.fresh skewed) ∧
      (Arena.contract skewed skewed_fits).live (Arena.fresh skewed) = ∅ ∧
      (ofHeap (Arena.fresh skewed) widePages).LegalRun ∅ [] ∧
      (skewedLayer.valloc 100).1 = .ok 0x40008000 ∧
      ∃ passing last b, Places (Arena.contract skewed skewed_fits) widePages (.valloc 100)
        skewedLayer 0x40008000 (skewedLayer.valloc 100).2 passing last b := by
  have valid := Arena.valid_fresh skewed skewed_fits
  have bare := Arena.live_fresh skewed skewed_fits
  have answer : (skewedLayer.valloc 100).1 = .ok 0x40008000 := by decide +kernel
  have served : skewedLayer.serve (.valloc 100) =
      (.pointer (.ok 0x40008000), (skewedLayer.valloc 100).2) :=
    map_pointer answer
  exact ⟨valid, bare, trivial, answer,
    ofHeap_places _ valid bare widePages {} [] trivial (.valloc 100) trivial _ _ served⟩

/-- It took the third attempt, and an entry. -/
example : (skewedLayer.valloc 100).2.trackedAlignedBlocks = 1 := by decide +kernel

end Layer

end MallocLayer
