import MallocLayer.Proofs.ArenaContract
import MallocLayer.Proofs.Holdings

/-!
# The layer refines the holdings

Whatever the primitive does within its contract, every legal program of a client
runs as the holdings allow. The holdings that match a layer are read off the
memory behind the pointers of its tenancy, and each request is one step of the
simulation: `Accounts.serve` gives the tenancy afterwards, and shows that the
holdings read off before and after are related as `Allows` says.
-/

namespace MallocLayer

open Primitive (Block Contract)

namespace Tenancy

/-- The pointers of the tenancy are those of the ledger. -/
def Lists (own : Tenancy) (owned : Ledger) : Prop := ∀ p, p ∈ owned ↔ ∃ b, own p = some b

variable {own : Tenancy} {owned : Ledger} {p : Addr} {b : Block}

theorem Lists.give (h : own.Lists owned) : (own.give p b).Lists (owned ∪ {p}) := by
  intro q
  rw [Finset.mem_union, Finset.mem_singleton, h q]
  by_cases same : q = p
  · simp [same]
  · simp [same, give_of_ne same]

theorem Lists.drop (h : own.Lists owned) : (own.drop p).Lists (owned \ {p}) := by
  intro q
  rw [Finset.mem_sdiff, Finset.mem_singleton, h q]
  by_cases same : q = p
  · simp [same]
  · simp [same, drop_of_ne same]

end Tenancy

namespace Layer

variable {σ : Type}

/-- The holdings that are read off a layer. -/
def holdings (s : Layer σ) (own : Tenancy) (requested : Addr → Nat) : Holdings :=
  fun p => (own p).map fun b => ⟨s.heap.memory.readRange p (b.room p), requested p⟩

/-- Every pointer has room for what was requested for it. -/
def Enough (own : Tenancy) (requested : Addr → Nat) : Prop :=
  ∀ p b, own p = some b → requested p ≤ b.room p

/-- The tenancy has a block for exactly the pointers of the ledger. -/
structure Accounts [Primitive σ] (s : Layer σ) (c : Contract σ) (owned : Ledger)
    (own : Tenancy) : Prop where
  backs : s.Backs c own
  lists : own.Lists owned

/-- From the layer `s`, a layer on the same pages comes about whose holdings are
related to those before as `R` says. -/
def Simulates [Primitive σ] (s : Layer σ) (c : Contract σ) (own : Tenancy)
    (requested : Addr → Nat) (R : Holdings → Holdings → Prop) (s' : Layer σ) (owned' : Ledger) :
    Prop :=
  s'.page = s.page ∧ ∃ own' requested', s'.Accounts c owned' own' ∧ Enough own' requested' ∧
    R (s.holdings own requested) (s'.holdings own' requested')

/-! ## 1. Reading off holdings -/

section Holdings

variable {s s' : Layer σ} {own : Tenancy} {requested requested' : Addr → Nat} {p : Addr} {b : Block}
  {n : Nat}

theorem holdings_eq_some (held : own p = some b) :
    s.holdings own requested p = some ⟨s.heap.memory.readRange p (b.room p), requested p⟩ := by
  simp [holdings, held]

theorem holdings_eq_none (new : own p = none) : s.holdings own requested p = none := by
  simp [holdings, new]

theorem holdings_drop :
    s.holdings (own.drop p) requested = (s.holdings own requested).drop p := by
  funext q
  unfold holdings Holdings.drop
  by_cases same : q = p
  · simp [same]
  · simp [same, Tenancy.drop_of_ne same]

variable [Primitive σ] {c : Contract σ}

/-- Where bytes are kept, the same holdings are read off. -/
theorem holdings_of_kept {own' : Tenancy} (kept : s.Kept own' s') (h : s.Backs c own)
    (fewer : ∀ {p b}, own' p = some b → own p = some b) :
    s'.holdings own' requested = s.holdings own' requested := by
  funext p
  rcases held : own' p with _ | b
  · rw [holdings_eq_none held, holdings_eq_none held]
  · have held' := fewer held
    rw [holdings_eq_some held, holdings_eq_some held,
      kept.readRange held (h.proper held') (h.holds held')]

/-- A pointer comes, and the bytes behind all others are kept. -/
theorem holdings_give (kept : s.Kept own s') (h : s'.Backs c (own.give p b))
    (new : own p = none) :
    s'.holdings (own.give p b) (Function.update requested p n) =
      (s.holdings own requested).put p ⟨s'.heap.memory.readRange p (b.room p), n⟩ := by
  funext q
  by_cases same : q = p
  · subst same
    rw [holdings_eq_some Tenancy.give_self, Function.update_self, Holdings.put,
      Function.update_self]
  · have passed : own.give p b q = own q := Tenancy.give_of_ne same
    rw [Holdings.put, Function.update_of_ne same]
    rcases held : own q with _ | d
    · rw [holdings_eq_none (passed.trans held), holdings_eq_none held]
    · have held' := passed.trans held
      rw [holdings_eq_some held', holdings_eq_some held, Function.update_of_ne same,
        kept.readRange held (h.proper held') (h.holds held')]

/-- The holding of a pointer that stays changes. -/
theorem holdings_change (kept : s.Kept (own.drop p) s') (h : s'.Backs c own)
    (held : own p = some b) :
    s'.holdings own (Function.update requested p n) =
      (s.holdings own requested).put p ⟨s'.heap.memory.readRange p (b.room p), n⟩ := by
  have whole : (own.drop p).give p b = own := Tenancy.give_drop_self held
  rw [← whole] at h
  have given : s'.holdings own (Function.update requested p n) =
      (s.holdings (own.drop p) requested).put p _ :=
    whole ▸ holdings_give kept h Tenancy.drop_self
  rw [given, holdings_drop, Holdings.put, Holdings.put, Holdings.drop, Function.update_idem]

/-! ## 2. Matching -/

/-- The regions behind two pointers have no address in common. -/
theorem Backs.regions_apart {q : Addr} {d : Block} (h : s.Backs c own) (held : own p = some b)
    (held' : own q = some d) (ne : p ≠ q) :
    p.toNat + b.room p ≤ q.toNat ∨ q.toNat + d.room q ≤ p.toNat := by
  have inside := h.holds held
  have inside' := h.holds held'
  have separate {x : Addr} (both : b.Holds x) : ¬ d.Holds x := fun both' =>
    ne (h.apart held held' both both')
  -- If the regions met, the later of the two pointers would lie in both blocks.
  by_contra meet
  unfold Block.room Block.Holds at *
  rcases Nat.le_total p.toNat q.toNat with le | le
  · exact separate ⟨by omega, by omega⟩ inside'
  · exact separate inside ⟨by omega, by omega⟩

/-- The holdings that are read off a layer match it. -/
theorem Accounts.holdings_match {owned : Ledger} (h : s.Accounts c owned own)
    (enough : Enough own requested) : (s.holdings own requested).Match s owned := by
  have read {p : Addr} {x : Holding} (found : s.holdings own requested p = some x) :
      ∃ b, own p = some b ∧ x = ⟨s.heap.memory.readRange p (b.room p), requested p⟩ := by
    obtain ⟨b, held, rfl⟩ := Option.map_eq_some_iff.1 found
    exact ⟨b, held, rfl⟩
  exact
    { domain := fun p => by
        rw [h.lists p, holdings, Option.isSome_map, Option.isSome_iff_exists]
      usable := fun found => by
        obtain ⟨b, held, rfl⟩ := read found
        rw [(h.backs.usableSize held).1, Memory.length_readRange]
      contents := fun found => by
        obtain ⟨b, held, rfl⟩ := read found
        rw [Memory.length_readRange]
      enough := fun found => by
        obtain ⟨b, held, rfl⟩ := read found
        rw [Memory.length_readRange]
        exact enough _ b held
      inside := fun found => by
        obtain ⟨b, held, rfl⟩ := read found
        have inside := (h.backs.proper held).inside
        have above := (h.backs.holds held).1
        have below := (h.backs.holds held).2
        rw [Memory.length_readRange, Block.room]
        omega
      apart := fun found found' ne => by
        obtain ⟨b, held, rfl⟩ := read found
        obtain ⟨d, held', rfl⟩ := read found'
        rw [Memory.length_readRange, Memory.length_readRange]
        exact h.backs.regions_apart held held' ne }

/-! ## 3. Steps -/

variable {owned : Ledger} {need : Nat} {Good : Addr → List UInt8 → Prop} {Good' : List UInt8 → Prop}
  {result : Except AllocError Addr} {size : UInt64} {onFailure : OnFailure}

theorem Enough.give (enough : Enough own requested) (room : n ≤ b.room p) :
    Enough (own.give p b) (Function.update requested p n) := by
  intro q d held
  by_cases same : q = p
  · subst same
    obtain rfl : b = d := Option.some.inj (Tenancy.give_self.symm.trans held)
    rwa [Function.update_self]
  · rw [Tenancy.give_of_ne same] at held
    rw [Function.update_of_ne same]
    exact enough q d held

theorem Enough.drop (enough : Enough own requested) : Enough (own.drop p) requested :=
  fun _ _ held => enough _ _ (Tenancy.drop_eq_some.1 held).2

theorem Simulates.mono {R R' : Holdings → Holdings → Prop} (h : s.Simulates c own requested R s' owned)
    (weaker : ∀ h', R (s.holdings own requested) h' → R' (s.holdings own requested) h') :
    s.Simulates c own requested R' s' owned := by
  obtain ⟨page, own', requested', accounts, enough, related⟩ := h
  exact ⟨page, own', requested', accounts, enough, weaker _ related⟩

namespace Accounts

/-- All pointers stay. -/
theorem keep (h : s.Accounts c owned own) (enough : Enough own requested)
    (backs : s'.Backs c own) (kept : s.Kept own s') :
    s.Simulates c own requested (fun h h' => h' = h) s' owned :=
  ⟨kept.page, own, requested, ⟨backs, h.lists⟩, enough, holdings_of_kept kept h.backs id⟩

/-- A pointer goes. -/
theorem lose (h : s.Accounts c owned own) (enough : Enough own requested)
    (backs : s'.Backs c (own.drop p)) (kept : s.Kept (own.drop p) s') :
    s.Simulates c own requested (fun h h' => h' = h.drop p) s' (owned \ {p}) := by
  refine ⟨kept.page, own.drop p, requested, ⟨backs, h.lists.drop⟩, enough.drop, ?_⟩
  rw [holdings_of_kept kept h.backs fun held => (Tenancy.drop_eq_some.1 held).2, holdings_drop]

/-- The holding of a pointer changes. -/
theorem change (h : s.Accounts c owned own) (enough : Enough own requested)
    (held : own p = some b) (room : n ≤ b.room p) (backs : s'.Backs c own)
    (kept : s.Kept (own.drop p) s') :
    s.Simulates c own requested
      (fun h h' => h' = h.put p ⟨s'.heap.memory.readRange p (b.room p), n⟩) s' owned := by
  have enough' := Enough.give (p := p) (enough.drop (p := p)) room
  rw [Tenancy.give_drop_self held] at enough'
  exact ⟨kept.page, own, _, ⟨backs, h.lists⟩, enough', holdings_change kept backs held⟩

/-- A request for a new pointer is answered. -/
theorem gain (h : s.Accounts c owned own) (enough : Enough own requested)
    {answer : Except AllocError Addr × Layer σ} (delivers : s.Delivers c own need Good answer)
    (good : ∀ p bytes, Good p bytes → Good' bytes) {r : Request}
    (plain : r.surrenders (.pointer answer.1) = none) :
    s.Simulates c own requested (fun h h' => h.Obtains need Good' answer.1 h') answer.2
      (r.settle owned (.pointer answer.1)) := by
  cases delivers with
  | failed backs kept =>
    rw [Request.settle_quiet plain rfl]
    exact h.keep enough backs kept
  | @delivered p b _ new room backs kept fits =>
    rw [Request.settle_gain plain rfl]
    refine ⟨kept.page, own.give p b, Function.update requested p need, ⟨backs, h.lists.give⟩,
      enough.give (by omega), holdings_eq_none new, _, ?_, good p _ fits,
      holdings_give kept backs new⟩
    rwa [Memory.length_readRange]

/-- A request to resize a pointer is answered. -/
theorem resize {result : Except AllocError Reallocated} (h : s.Accounts c owned own)
    (enough : Enough own requested) (held : own p = some b)
    (resizes : s.Resizes c own p b size onFailure (result, s')) :
    s.Simulates c own requested (fun h h' => h.Resizes p size onFailure result h') s'
      (Request.resettle owned (some p) size onFailure result) := by
  have there : s.holdings own requested p = some _ := holdings_eq_some held
  cases resizes with
  | inPlace nonzero fits backs kept =>
    rw [Request.resettle_inPlace ((h.lists p).2 ⟨b, held⟩)]
    have step := h.change enough held fits backs (kept.drop p)
    rw [kept.readRange held (h.backs.proper held) (h.backs.holds held)] at step
    refine step.mono fun h' changed => ⟨rfl, nonzero, _, there, ?_, changed⟩
    rwa [Memory.length_readRange]
  | @moved q d _ new elsewhere room backs kept copied =>
    rw [Request.resettle_moved]
    refine ⟨kept.page, (own.drop p).give q d, Function.update requested q size.toNat,
      ⟨backs, h.lists.drop.give⟩, enough.drop.give (by omega), ?_, elsewhere, _,
      s'.heap.memory.readRange q (d.room q), there, ?_, ?_, ?_⟩
    · rw [← holdings_drop, holdings_eq_none new]
    · rwa [Memory.length_readRange]
    · rwa [Memory.length_readRange]
    · rw [holdings_give kept backs new, holdings_drop]
  | released zero backs kept =>
    rw [Request.resettle_released]
    exact (h.lose enough backs kept).mono fun h' dropped => ⟨zero, dropped⟩
  | lost forfeits backs kept =>
    rw [Request.resettle_lost forfeits]
    exact (h.lose enough backs kept).mono fun h' dropped => dropped.trans (if_pos forfeits).symm
  | failed keeps backs kept =>
    rw [Request.resettle_failed keeps]
    exact (h.keep enough backs kept).mono fun h' same => same.trans (if_neg keeps).symm

/-- A pointer, or null, is released. -/
theorem release (h : s.Accounts c owned own) (enough : Enough own requested)
    {ptr : Option Addr} (legal : owned.Admits ptr) :
    s.Simulates c own requested (fun h h' => h' = ptr.elim h h.drop) (s.free ptr)
      (owned \ ptr.toFinset ∪ ∅) := by
  rw [Finset.union_empty]
  cases ptr with
  | none =>
    have step := h.keep enough h.backs (.refl s own)
    rwa [← Finset.sdiff_empty (s := owned)] at step
  | some p =>
    obtain ⟨b, held⟩ := (h.lists p).1 legal
    obtain ⟨backs, kept⟩ := h.backs.free held
    exact h.lose enough backs kept

/-- A reallocation is answered. -/
theorem reallocate (h : s.Accounts c owned own) (enough : Enough own requested)
    {ptr : Option Addr} (legal : owned.Admits ptr) :
    s.Simulates c own requested
      (fun h h' => h.Reallocates ptr size onFailure (s.reallocWith ptr size onFailure).1 h')
      (s.reallocWith ptr size onFailure).2
      (Request.resettle owned ptr size onFailure (s.reallocWith ptr size onFailure).1) := by
  cases ptr with
  | some p =>
    obtain ⟨b, held⟩ := (h.lists p).1 legal
    exact h.resize enough held (h.backs.reallocWith_resizes held)
  | none =>
    -- Null asks for a new pointer, as `malloc` does.
    have step := h.gain (r := .malloc size) enough (h.backs.malloc_delivers size)
      (fun _ _ _ => trivial) rfl
    rw [reallocWith_none]
    generalize s.malloc size = answer at step
    rcases answer with ⟨err | p, s'⟩
    · rw [Request.settle_quiet rfl rfl] at step
      exact Request.resettle_none_error.symm ▸ step
    · rw [Request.settle_gain rfl rfl] at step
      exact Request.resettle_none_moved.symm ▸ step

/-- Every legal request is answered as the holdings allow. -/
theorem serve (h : s.Accounts c owned own) (enough : Enough own requested) (r : Request)
    (legal : r.Legal s owned) :
    s.Simulates c own requested (fun h h' => h.Allows r (s.serve r).1 h') (s.serve r).2
      (r.settle owned (s.serve r).1) := by
  cases r with
  | malloc size =>
    exact h.gain enough (h.backs.malloc_delivers size) (fun _ _ _ => trivial) rfl
  | calloc count size =>
    exact h.gain enough (h.backs.calloc_delivers count size) (fun _ _ zeros => zeros) rfl
  | strdup text =>
    have length : text.stored.size = text.bytes.length + 1 := by simp [CString.stored]
    have delivers := h.backs.strdup_delivers text legal
    rw [length] at delivers
    exact h.gain enough delivers (fun _ _ copied => copied) rfl
  | memalign alignment size =>
    exact h.gain enough (h.backs.memalign_delivers alignment size) (fun _ _ _ => trivial) rfl
  | alignedAlloc alignment size =>
    exact h.gain enough (h.backs.alignedAlloc_delivers alignment size) (fun _ _ _ => trivial) rfl
  | posixMemalign alignment size =>
    exact h.gain enough (h.backs.posixMemalign_delivers alignment size) (fun _ _ _ => trivial) rfl
  | valloc size =>
    exact h.gain enough (h.backs.valloc_delivers size) (fun _ _ _ => trivial) rfl
  | realloc ptr size => exact h.reallocate enough legal
  | reallocf ptr size => exact h.reallocate enough legal
  | free ptr => exact h.release enough legal
  | vfree ptr => exact h.release enough legal
  | usableSize ptr =>
    rw [Request.settle_quiet rfl rfl]
    cases ptr with
    | none => exact (h.keep enough h.backs (.refl s own)).mono fun h' same => ⟨rfl, same⟩
    | some p =>
      obtain ⟨b, held⟩ := (h.lists p).1 legal
      obtain ⟨measured, backs, kept⟩ := h.backs.usableSize held
      refine (h.keep enough backs kept).mono fun h' same =>
        ⟨same, _, holdings_eq_some held, ?_⟩
      rw [Memory.length_readRange]
      exact measured
  | goodSize size =>
    rw [Request.settle_quiet rfl rfl]
    obtain ⟨backs, kept⟩ := h.backs.goodSize size
    exact h.keep enough backs kept
  | write p offset bytes =>
    rw [Request.settle_quiet rfl rfl]
    obtain ⟨member, within⟩ := legal
    obtain ⟨b, held⟩ := (h.lists p).1 member
    rw [(h.backs.usableSize held).1] at within
    obtain ⟨backs, kept, written⟩ := h.backs.write held within
    have step := h.change enough held (enough p b held) backs kept
    rw [written] at step
    refine step.mono fun h' changed => ⟨_, holdings_eq_some held, ?_, changed⟩
    rwa [Memory.length_readRange]

/-- After a legal request there is a tenancy again, and the pages are the same. -/
theorem exists_serve (h : s.Accounts c owned own) (r : Request) (legal : r.Legal s owned) :
    (s.serve r).2.page = s.page ∧
      ∃ own', (s.serve r).2.Accounts c (r.settle owned (s.serve r).1) own' := by
  -- What was requested plays no part here, so nothing is said of it.
  have enough : Enough own fun _ => 0 := fun _ _ _ => Nat.zero_le _
  obtain ⟨page, own', _, accounts, _⟩ := h.serve enough r legal
  exact ⟨page, own', accounts⟩

end Accounts

end Holdings

/-! ## 4. Programs -/

section Programs

variable [Primitive σ] {c : Contract σ} {heap : Heap σ}

theorem represents_no_tenancy (c : Contract σ) :
    ∃ m, ({} : OriginTable).Represents m ∧ ∀ a, m[a]? = c.originIn (fun _ => none) a :=
  ⟨∅, OriginTable.represents_empty, fun a => by simp [Contract.originIn]⟩

/-- Without live blocks there is nothing to be backed. -/
theorem backs_of_bare {s : Layer σ} (valid : c.Valid s.heap) (bare : c.live s.heap = ∅)
    (table : ∃ m, s.origins.Represents m ∧ ∀ a, m[a]? = c.originIn (fun _ => none) a) :
    s.Backs c (fun _ => none) where
  valid := valid
  mem_live := by simp [bare]
  holds := nofun
  aligned := nofun
  injective := nofun
  table := table

/-- A new layer over a heap without blocks is the start. -/
theorem accounts_ofHeap (valid : c.Valid heap) (bare : c.live heap = ∅) (page : PageSize)
    (config : Config) :
    (ofHeap heap page config).Accounts c ∅ (fun _ => none) where
  backs := backs_of_bare valid bare (represents_no_tenancy c)
  lists p := by simp

theorem Accounts.refines {s : Layer σ} {owned : Ledger} {own : Tenancy} {requested : Addr → Nat}
    (h : s.Accounts c owned own) (enough : Enough own requested) {program : List Request}
    (legal : s.LegalRun owned program) :
    (s.holdings own requested).Refines s owned program := by
  induction program generalizing s owned own requested with
  | nil => exact h.holdings_match enough
  | cons r rest ih =>
    obtain ⟨-, own', requested', accounts, enough', allowed⟩ := h.serve enough r legal.1
    exact ⟨h.holdings_match enough, _, allowed, ih accounts enough' legal.2⟩

/-- What holds of every layer on these pages with a tenancy for its ledger holds
throughout a legal program that starts with an empty heap. -/
theorem throughout_of_accounts (valid : c.Valid heap) (bare : c.live heap = ∅) (page : PageSize)
    (config : Config) {P : Layer σ → Ledger → Prop}
    (holds : ∀ s owned own, s.page = page → s.Accounts c owned own → P s owned)
    {program : List Request} (legal : (ofHeap heap page config).LegalRun ∅ program) :
    (ofHeap heap page config).Throughout P ∅ program := by
  have start := accounts_ofHeap valid bare page config
  refine throughout_of_invariant (fun s owned => s.page = page ∧ ∃ own, s.Accounts c owned own)
    ?_ ?_ ⟨rfl, _, start⟩ legal
  · rintro s owned r ⟨same, own, accounts⟩ legal
    obtain ⟨kept, own', accounts'⟩ := accounts.exists_serve r legal
    exact ⟨kept.trans same, own', accounts'⟩
  · rintro s owned ⟨same, own, accounts⟩
    exact holds s owned own same accounts

/-- Over any primitive within its contract, every legal program that starts with
an empty heap runs as the holdings allow, which are empty at first. -/
theorem ofHeap_refines (c : Contract σ) {heap : Heap σ} (valid : c.Valid heap)
    (bare : c.live heap = ∅) (page : PageSize) (config : Config) (program : List Request)
    (legal : (ofHeap heap page config).LegalRun ∅ program) :
    Holdings.Refines (fun _ => none) (ofHeap heap page config) ∅ program := by
  have enough : Enough (fun _ => none) fun _ => 0 := nofun
  exact (accounts_ofHeap valid bare page config).refines enough legal

end Programs

/-- An arena that poisons its blocks and starts them where no large alignment
has a multiple. -/
def skewed : Arena.Script where
  placement := .skewed
  interior := false
  gaps := #[0, 8]
  poison := some 0xaa

theorem skewed_fits : Arena.Fits skewed := by decide

/-- Pages of 16 KiB. -/
def widePages : PageSize := ⟨0x4000, by decide, by decide⟩

/-- A client of that arena: its first pointer lies inside a block, and is written
to, measured, moved and given up. -/
def tour : List Request :=
  [.memalign 4096 100, .write 0x40002000 3 #[1, 2, 3], .usableSize (some 0x40002000), .calloc 3 7,
    .realloc (some 0x40002000) 9000, .free (some 0x40004210), .reallocf (some 0x40004290) 0]

end Layer

end MallocLayer
