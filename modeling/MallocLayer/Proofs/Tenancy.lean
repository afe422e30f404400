import MallocLayer.Layer
import MallocLayer.Proofs.Alignment
import MallocLayer.Proofs.ByteRanges
import MallocLayer.Proofs.Contract
import MallocLayer.Proofs.OriginTable

/-!
# Who lives in which block

A layer hands out pointers, and behind each of them is one live block of the
primitive. A `Tenancy` names the block behind each pointer, and `Backs` says
that a layer is in good order with it:

* the blocks of the tenancy are the live blocks, one pointer each;
* a pointer lies in its block;
* the side table holds the pointers that are not the start of their block, and
  is not used at all when the primitive accepts interior addresses.

Everything that the layer does to its heap is one of a few steps: a block comes,
a block goes, a pointer moves inside its block, bytes of live blocks change. For
each of them there is one lemma that gives the tenancy afterwards, and `Kept`
says of which blocks the bytes are as before.
-/

namespace MallocLayer

open Primitive (Block Contract)

/-! ## 1. Tenancies -/

/-- For each pointer that is out, the block behind it. -/
abbrev Tenancy := Addr → Option Block

namespace Tenancy

def give (own : Tenancy) (p : Addr) (b : Block) : Tenancy := fun q => if q = p then some b else own q

def drop (own : Tenancy) (p : Addr) : Tenancy := fun q => if q = p then none else own q

variable {own : Tenancy} {p q : Addr} {b c : Block}

@[simp] theorem give_self : own.give p b p = some b := if_pos rfl

@[simp] theorem drop_self : own.drop p p = none := if_pos rfl

theorem give_of_ne (ne : q ≠ p) : own.give p b q = own q := if_neg ne

theorem drop_of_ne (ne : q ≠ p) : own.drop p q = own q := if_neg ne

theorem give_eq_some : own.give p b q = some c ↔ q = p ∧ b = c ∨ q ≠ p ∧ own q = some c := by
  unfold give
  split <;> simp [*]

theorem drop_eq_some : own.drop p q = some c ↔ q ≠ p ∧ own q = some c := by
  unfold drop
  split <;> simp [*]

theorem ne_of_held (new : own q = none) (held : own p = some b) : q ≠ p := by
  rintro rfl
  rw [new] at held
  cases held

theorem drop_give (new : own p = none) : (own.give p b).drop p = own := by
  funext q
  by_cases same : q = p
  · rw [same, drop_self, new]
  · rw [drop_of_ne same, give_of_ne same]

theorem give_drop_self (held : own p = some b) : (own.drop p).give p b = own := by
  funext q
  by_cases same : q = p
  · rw [same, give_self, held]
  · rw [give_of_ne same, drop_of_ne same]

theorem give_drop_comm (ne : q ≠ p) : (own.give q b).drop p = (own.drop p).give q b := by
  funext x
  unfold give drop
  by_cases same : x = p
  · simp [same, ne.symm]
  · simp [same]

/-- What holds of the old pointers and of the new one holds of all. -/
theorem forall_give {P : Addr → Block → Prop} (here : P p b)
    (others : ∀ {q d}, own q = some d → P q d) {q : Addr} {d : Block}
    (held : own.give p b q = some d) : P q d := by
  rcases give_eq_some.1 held with ⟨rfl, rfl⟩ | ⟨_, held⟩
  · exact here
  · exact others held

theorem exists_give (new : own p = none) {d : Block} :
    (∃ q, own.give p b q = some d) ↔ d = b ∨ ∃ q, own q = some d := by
  constructor
  · rintro ⟨q, held⟩
    rcases give_eq_some.1 held with ⟨_, rfl⟩ | ⟨_, held⟩
    · exact .inl rfl
    · exact .inr ⟨q, held⟩
  · rintro (rfl | ⟨q, held⟩)
    · exact ⟨p, give_self⟩
    · refine ⟨q, ?_⟩
      rw [give_of_ne (ne_of_held new held).symm, held]

/-- No two pointers have the same block behind them. -/
def Injective (own : Tenancy) : Prop := ∀ ⦃p q b⦄, own p = some b → own q = some b → p = q

theorem Injective.give (h : own.Injective) (unused : ∀ q, own q ≠ some b) :
    (own.give p b).Injective := by
  intro q r d held held'
  rcases give_eq_some.1 held with ⟨rfl, rfl⟩ | ⟨_, old⟩ <;>
    rcases give_eq_some.1 held' with ⟨rfl, same⟩ | ⟨_, old'⟩
  · rfl
  · exact absurd old' (unused r)
  · exact absurd (same ▸ old) (unused q)
  · exact h old old'

theorem Injective.drop (h : own.Injective) : (own.drop p).Injective := fun _ _ _ held held' =>
  h (drop_eq_some.1 held).2 (drop_eq_some.1 held').2

/-- Behind the pointers that are left there are the blocks that are left. -/
theorem Injective.exists_drop (h : own.Injective) (held : own p = some b) {d : Block} :
    (∃ q, own.drop p q = some d) ↔ (∃ q, own q = some d) ∧ d ≠ b := by
  constructor
  · rintro ⟨q, kept⟩
    obtain ⟨ne, held'⟩ := drop_eq_some.1 kept
    refine ⟨⟨q, held'⟩, ?_⟩
    rintro rfl
    exact ne (h held' held)
  · rintro ⟨⟨q, held'⟩, ne⟩
    refine ⟨q, drop_eq_some.2 ⟨?_, held'⟩⟩
    rintro rfl
    exact ne (Option.some.inj (held'.symm.trans held))

/-- A block of which the pointer was dropped is behind no pointer. -/
theorem Injective.drop_ne (h : own.Injective) (held : own p = some b) (q : Addr) :
    own.drop p q ≠ some b := fun kept =>
  (drop_eq_some.1 kept).1 (h (drop_eq_some.1 kept).2 held)

end Tenancy

/-- The origin that the side table holds for an address. -/
def Primitive.Contract.originIn {σ : Type} [Primitive σ] (c : Contract σ) (own : Tenancy)
    (a : Addr) : Option Addr :=
  if c.interior then none
  else (own a).bind fun b => if b.start = a then none else some b.start

theorem Primitive.Contract.originIn_eq_some {σ : Type} [Primitive σ] {c : Contract σ}
    {own : Tenancy} {a o : Addr} :
    c.originIn own a = some o ↔
      c.interior = false ∧ ∃ b, own a = some b ∧ b.start = o ∧ a ≠ o := by
  unfold originIn
  split
  · next interior => simp [interior]
  · next exact' =>
    simp only [exact', Option.bind_eq_some_iff, true_and]
    refine exists_congr fun b => and_congr_right fun _ => ?_
    by_cases start : b.start = a
    · rw [if_pos start]
      simp only [reduceCtorEq, false_iff, not_and]
      rintro rfl
      exact fun ne => ne start.symm
    · rw [if_neg start]
      constructor
      · intro same
        cases same
        exact ⟨rfl, Ne.symm start⟩
      · rintro ⟨rfl, _⟩
        rfl

namespace Layer

variable {σ : Type}

/-! ## 2. Layers -/

/-- The layer has one live block for each pointer of the tenancy, and can find
it again. -/
structure Backs [Primitive σ] (s : Layer σ) (c : Contract σ) (own : Tenancy) : Prop where
  valid : c.Valid s.heap
  mem_live : ∀ b, b ∈ c.live s.heap ↔ ∃ p, own p = some b
  holds : ∀ {p b}, own p = some b → b.Holds p
  aligned : ∀ {p b}, own p = some b → 16 ∣ p.toNat
  injective : own.Injective
  table : ∃ m, s.origins.Represents m ∧ ∀ a, m[a]? = c.originIn own a

/-- The bytes behind the pointers of the tenancy, the configuration and the page
size are as they were. -/
structure Kept (s : Layer σ) (own : Tenancy) (s' : Layer σ) : Prop where
  bytes : ∀ {p b}, own p = some b → ∀ x, b.Holds x →
    s'.heap.memory.read x = s.heap.memory.read x
  config : s'.config = s.config
  page : s'.page = s.page

section Kept

variable {s s' s'' : Layer σ} {own own' : Tenancy} {p : Addr} {b : Block}

theorem Kept.refl (s : Layer σ) (own : Tenancy) : s.Kept own s :=
  ⟨fun _ _ _ => rfl, rfl, rfl⟩

theorem Kept.trans (first : s.Kept own s') (second : s'.Kept own s'') : s.Kept own s'' where
  bytes held x inside := (second.bytes held x inside).trans (first.bytes held x inside)
  config := second.config.trans first.config
  page := second.page.trans first.page

theorem Kept.mono (kept : s.Kept own s') (fewer : ∀ p b, own' p = some b → own p = some b) :
    s.Kept own' s' where
  bytes held := kept.bytes (fewer _ _ held)
  config := kept.config
  page := kept.page

theorem Kept.drop (kept : s.Kept own s') (p : Addr) : s.Kept (own.drop p) s' :=
  kept.mono fun _ _ held => (Tenancy.drop_eq_some.1 held).2

theorem Kept.of_give (kept : s.Kept (own.give p b) s') (new : own p = none) : s.Kept own s' := by
  refine kept.mono fun q d held => ?_
  rw [Tenancy.give_of_ne (Tenancy.ne_of_held new held).symm, held]

@[simp] theorem trace_heap (s : Layer σ) (e : Lifecycle.Event) : (s.trace e).heap = s.heap := by
  unfold trace
  split <;> rfl

@[simp] theorem trace_origins (s : Layer σ) (e : Lifecycle.Event) :
    (s.trace e).origins = s.origins := by
  unfold trace
  split <;> rfl

@[simp] theorem trace_config (s : Layer σ) (e : Lifecycle.Event) :
    (s.trace e).config = s.config := by
  unfold trace
  split <;> rfl

@[simp] theorem trace_page (s : Layer σ) (e : Lifecycle.Event) : (s.trace e).page = s.page := by
  unfold trace
  split <;> rfl

theorem Kept.trace (kept : s.Kept own s') (e : Lifecycle.Event) : s.Kept own (s'.trace e) where
  bytes held x inside := by
    rw [trace_heap]
    exact kept.bytes held x inside
  config := (trace_config s' e).trans kept.config
  page := (trace_page s' e).trans kept.page

/-- What is read behind a pointer whose bytes were kept. -/
theorem Kept.readRange (kept : s.Kept own s') (held : own p = some b) (proper : b.Proper)
    (inside : b.Holds p) :
    s'.heap.memory.readRange p (b.room p) = s.heap.memory.readRange p (b.room p) :=
  Memory.readRange_congr fun _ less => kept.bytes held _ (proper.holds_add inside less)

end Kept

/-- Copying is storing what the source reads as. -/
theorem mapMemory_copy (s : Layer σ) (dst src size : UInt64) :
    s.mapMemory (·.copy dst src size) =
      s.mapMemory (·.store dst size fun i => s.heap.memory.read (src + i)) := by
  unfold mapMemory Heap.mapMemory Memory.copy
  rfl

variable [Primitive σ] {s s' : Layer σ} {c : Contract σ} {own : Tenancy} {p q x : Addr} {b d : Block}

/-- Aligned addresses in a block are not among the two that the side table has
set aside. -/
theorem isAddress_of_holds (proper : b.Proper) (inside : b.Holds p) (aligned : 16 ∣ p.toNat) :
    OriginTable.IsAddress p := by
  have start_pos := proper.start_pos
  have above := inside.1
  constructor
  · rintro rfl
    have : OriginTable.vacant.toNat = 0 := rfl
    omega
  · rintro rfl
    have : OriginTable.tombstone.toNat = 0xffffffffffffffff := rfl
    omega

namespace Backs

theorem mem (h : s.Backs c own) (held : own p = some b) : b ∈ c.live s.heap :=
  (h.mem_live b).2 ⟨p, held⟩

theorem proper (h : s.Backs c own) (held : own p = some b) : b.Proper :=
  c.proper h.valid b (h.mem held)

theorem apart (h : s.Backs c own) (held : own p = some b) (held' : own q = some d)
    (inside : b.Holds x) (inside' : d.Holds x) : p = q := by
  obtain rfl := c.apart h.valid b (h.mem held) d (h.mem held') x inside inside'
  exact h.injective held held'

theorem isAddress (h : s.Backs c own) (held : own p = some b) : OriginTable.IsAddress p :=
  isAddress_of_holds (h.proper held) (h.holds held) (h.aligned held)

theorem acceptsInterior (h : s.Backs c own) : s.acceptsInterior = c.interior :=
  c.acceptsInterior_eq h.valid

/-- What fits behind a pointer lies in the block. -/
theorem covers (h : s.Backs c own) (held : own p = some b) {size : UInt64}
    (fits : size.toNat ≤ b.room p) : b.Covers p size :=
  (h.proper held).covers (h.holds held) fits

/-- What the client may write behind a pointer lies in the block. -/
theorem covers_write (h : s.Backs c own) (held : own p = some b) {offset n : Nat}
    (within : offset + n ≤ b.room p) :
    b.Covers (p + UInt64.ofNat offset) (UInt64.ofNat n) := by
  have small := (h.proper held).room_lt (h.holds held)
  have size : (UInt64.ofNat n).toNat = n := UInt64.toNat_ofNat_of_lt (by omega)
  exact (h.proper held).covers_add (h.holds held) (size.symm ▸ within)

/-- The block behind a new pointer was behind no other. -/
theorem unused (h : s.Backs c (own.give p b)) (new : own p = none) (q : Addr) :
    own q ≠ some b := by
  intro held
  have ne : q ≠ p := (Tenancy.ne_of_held new held).symm
  have held' : own.give p b q = some b := by rwa [Tenancy.give_of_ne ne]
  exact ne (h.injective held' Tenancy.give_self)

/-- Only the heap and the side table count. -/
theorem congr (h : s.Backs c own) (heap : s'.heap = s.heap) (origins : s'.origins = s.origins) :
    s'.Backs c own where
  valid := heap ▸ h.valid
  mem_live := heap ▸ h.mem_live
  holds := h.holds
  aligned := h.aligned
  injective := h.injective
  table := origins ▸ h.table

theorem trace (h : s.Backs c own) (e : Lifecycle.Event) : (s.trace e).Backs c own :=
  h.congr (trace_heap s e) (trace_origins s e)

theorem originOf_eq (h : s.Backs c own) (held : own p = some b) :
    s.origins.originOf p = c.originIn own p := by
  obtain ⟨m, represents, entries⟩ := h.table
  rw [OriginTable.originOf_eq represents (h.isAddress held).2, entries]

/-- The pointer that the layer passes on to the primitive: the start of the
block, unless the primitive takes any address inside. -/
theorem getD_originIn (held : own p = some b) :
    (c.originIn own p).getD p = if c.interior then p else b.start := by
  rw [Contract.originIn, held]
  by_cases interior : c.interior
  · simp [interior]
  · by_cases start : b.start = p <;> simp [interior, start]

theorem named (h : s.Backs c own) (held : own p = some b) :
    b.Named c.interior ((c.originIn own p).getD p) := by
  rw [getD_originIn held]
  split
  · next interior => exact .inr ⟨interior, h.holds held⟩
  · exact .inl rfl

/-- Giving up a pointer that is the start of its block concerns no entry of the
side table. -/
theorem originIn_drop_start (held : own b.start = some b) (a : Addr) :
    c.originIn (own.drop b.start) a = c.originIn own a := by
  by_cases same : a = b.start
  · simp [Contract.originIn, same, held]
  · simp only [Contract.originIn, Tenancy.drop_of_ne same]

/-- A pointer that is the start of its block needs no entry. -/
theorem originIn_give_start (new : own b.start = none) (a : Addr) :
    c.originIn (own.give b.start b) a = c.originIn own a := by
  by_cases same : a = b.start
  · simp [Contract.originIn, same, new]
  · simp only [Contract.originIn, Tenancy.give_of_ne same]

/-! ## 3. Steps -/

/-- A block comes, and its start is the pointer to it. -/
theorem give (h : s.Backs c own) {heap : Heap σ} (new : b ∉ c.live s.heap)
    (leads : c.Leads s.heap (insert b (c.live s.heap)) heap) :
    own b.start = none ∧ Backs { s with heap } c (own.give b.start b) ∧
      s.Kept own { s with heap } := by
  have live : b ∈ c.live heap := by simp [leads.live_eq]
  have proper := c.proper leads.valid b live
  -- A pointer at this address would lie in an old block, which the new one does not meet.
  have unowned : own b.start = none := by
    rw [Option.eq_none_iff_forall_ne_some]
    intro d held
    have still : d ∈ c.live heap := by simp [leads.live_eq, h.mem held]
    obtain rfl := c.apart leads.valid b live d still b.start proper.holds_start (h.holds held)
    exact new (h.mem held)
  refine ⟨unowned, ?_, ⟨fun {p d} held x inside => ?_, rfl, rfl⟩⟩
  · exact
      { valid := leads.valid
        mem_live := fun d => by
          rw [leads.live_eq, Set.mem_insert_iff, h.mem_live, Tenancy.exists_give unowned]
        holds := Tenancy.forall_give proper.holds_start h.holds
        aligned := Tenancy.forall_give proper.aligned h.aligned
        injective := h.injective.give fun q held => new (h.mem held)
        table := by
          obtain ⟨m, represents, entries⟩ := h.table
          exact ⟨m, represents, fun a => (entries a).trans (originIn_give_start unowned a).symm⟩ }
  · exact leads.bytes d (h.mem held) (.inr (h.mem held)) x inside

/-- A block goes, and with it the pointer into it. -/
theorem drop (h : s.Backs c own) (held : own p = some b)
    (leads : c.Leads s.heap (c.live s.heap \ {b}) s'.heap)
    (table : ∃ m, s'.origins.Represents m ∧ ∀ a, m[a]? = c.originIn (own.drop p) a)
    (config : s'.config = s.config) (page : s'.page = s.page) :
    s'.Backs c (own.drop p) ∧ s.Kept (own.drop p) s' := by
  refine ⟨?_, ⟨fun {q d} kept x inside => ?_, config, page⟩⟩
  · exact
      { valid := leads.valid
        mem_live := fun d => by
          rw [leads.live_eq, Set.mem_sdiff, Set.mem_singleton_iff, h.mem_live,
            h.injective.exists_drop held]
        holds := fun kept => h.holds (Tenancy.drop_eq_some.1 kept).2
        aligned := fun kept => h.aligned (Tenancy.drop_eq_some.1 kept).2
        injective := h.injective.drop
        table := table }
  · have member := h.mem (Tenancy.drop_eq_some.1 kept).2
    have ne : d ≠ b := ((h.injective.exists_drop held).1 ⟨q, kept⟩).2
    exact leads.bytes d member ⟨member, ne⟩ x inside

/-- The blocks stay, and so do the pointers. -/
theorem stay (h : s.Backs c own) {heap : Heap σ} (leads : c.Leads s.heap (c.live s.heap) heap) :
    Backs { s with heap } c own ∧ s.Kept own { s with heap } where
  left :=
    { valid := leads.valid
      mem_live := leads.live_eq ▸ h.mem_live
      holds := h.holds
      aligned := h.aligned
      injective := h.injective
      table := h.table }
  right := ⟨fun held => leads.bytes _ (h.mem held) (h.mem held), rfl, rfl⟩

/-- A pointer moves from the start of its block to an address inside. -/
theorem move (h : s.Backs c own) (held : own b.start = some b) (inside : b.Holds q)
    (aligned : 16 ∣ q.toNat) (ne : q ≠ b.start) {origins : OriginTable}
    (table : ∃ m, origins.Represents m ∧ ∀ a, m[a]? = c.originIn ((own.drop b.start).give q b) a) :
    own q = none ∧ Backs { s with origins } c ((own.drop b.start).give q b) := by
  -- Only the pointer to the block itself lies in it, and that is the start.
  have unowned : own q = none := by
    rw [Option.eq_none_iff_forall_ne_some]
    intro d held'
    exact ne (h.apart held held' inside (h.holds held')).symm
  have unowned' : own.drop b.start q = none := by rwa [Tenancy.drop_of_ne ne]
  refine ⟨unowned, ?_⟩
  exact
    { valid := h.valid
      mem_live := fun d => by
        rw [h.mem_live, Tenancy.exists_give unowned', h.injective.exists_drop held]
        by_cases same : d = b
        · subst same
          exact ⟨fun _ => .inl rfl, fun _ => ⟨_, held⟩⟩
        · simp [same]
      holds := Tenancy.forall_give (P := fun p b => b.Holds p) inside fun kept =>
        h.holds (Tenancy.drop_eq_some.1 kept).2
      aligned := Tenancy.forall_give (P := fun p _ => 16 ∣ p.toNat) aligned fun kept =>
        h.aligned (Tenancy.drop_eq_some.1 kept).2
      injective := h.injective.drop.give (h.injective.drop_ne held)
      table := table }

/-- Bytes of live blocks change. -/
theorem mapMemory (h : s.Backs c own) {f : Memory → Memory}
    (within : ∀ x, (∀ p b, own p = some b → ¬ b.Holds x) →
      (f s.heap.memory).read x = s.heap.memory.read x) :
    (s.mapMemory f).Backs c own := by
  obtain ⟨valid, live⟩ := c.written (m := f s.heap.memory) h.valid fun x outside =>
    within x fun p b held => outside b (h.mem held)
  exact
    { valid := valid
      mem_live := fun b => by
        rw [← h.mem_live]
        exact iff_of_eq (congrArg (b ∈ ·) live)
      holds := h.holds
      aligned := h.aligned
      injective := h.injective
      table := h.table }

/-- Bytes of one block change. -/
theorem store (h : s.Backs c own) (held : own p = some b) {a size : UInt64}
    (covers : b.Covers a size) (f : UInt64 → UInt8) :
    (s.mapMemory (·.store a size f)).Backs c own ∧
      s.Kept (own.drop p) (s.mapMemory (·.store a size f)) := by
  refine ⟨h.mapMemory fun x free => covers.read_store_outside (free p b held),
    fun kept x inside => ?_, rfl, rfl⟩
  obtain ⟨ne, held'⟩ := Tenancy.drop_eq_some.1 kept
  exact covers.read_store_outside fun both => ne (h.apart held' held inside both)

/-- Bytes are copied into one block. -/
theorem copy (h : s.Backs c own) (held : own p = some b) {dst size : UInt64}
    (covers : b.Covers dst size) (src : Addr) :
    (s.mapMemory (·.copy dst src size)).Backs c own ∧
      s.Kept (own.drop p) (s.mapMemory (·.copy dst src size)) := by
  rw [mapMemory_copy]
  exact h.store held covers fun i => s.heap.memory.read (src + i)

/-- The client writes behind one of its pointers. -/
theorem write (h : s.Backs c own) (held : own p = some b) {offset : Nat} {bytes : Array UInt8}
    (within : offset + bytes.size ≤ b.room p) :
    (s.mapMemory (·.write (p + UInt64.ofNat offset) bytes)).Backs c own ∧
      s.Kept (own.drop p) (s.mapMemory (·.write (p + UInt64.ofNat offset) bytes)) ∧
      (s.mapMemory (·.write (p + UInt64.ofNat offset) bytes)).heap.memory.readRange p (b.room p) =
        Memory.overwrite (s.heap.memory.readRange p (b.room p)) offset bytes.toList := by
  obtain ⟨backs, kept⟩ :=
    h.store held (h.covers_write held within) fun i => bytes[i.toNat]?.getD 0
  have small := (h.proper held).room_lt (h.holds held)
  exact ⟨backs, kept, Memory.readRange_write_inside small within⟩

end Backs

/-! ## 4. The operations without a policy -/

/-- Allocation fails, or hands out the start of a new block. -/
theorem Backs.malloc (h : s.Backs c own) (size : UInt64) :
    (∃ s', s.malloc size = (.error (.outOfMemory size), s') ∧ s'.Backs c own ∧ s.Kept own s') ∨
    ∃ b s', s.malloc size = (.ok b.start, s') ∧ max size.toNat 1 ≤ b.capacity.toNat ∧
      own b.start = none ∧ s'.Backs c (own.give b.start b) ∧ s.Kept own s' := by
  unfold Layer.malloc
  rcases answer : Primitive.allocate s.heap size with ⟨_ | start, heap⟩
  · exact .inl ⟨_, rfl, h.stay (c.refused h.valid answer)⟩
  · obtain ⟨b, rfl, large, new, leads⟩ := c.granted h.valid answer
    exact .inr ⟨b, _, rfl, large, h.give new leads⟩

theorem malloc_origins (s : Layer σ) (size : UInt64) : (s.malloc size).2.origins = s.origins := by
  unfold Layer.malloc
  split <;> rfl

/-- A refusal leaves everything as it was. -/
theorem Backs.refused {size : UInt64} {err : AllocError} (h : s.Backs c own)
    (answer : s.malloc size = (.error err, s')) :
    s'.Backs c own ∧ s.Kept own s' ∧ s'.origins = s.origins := by
  have origins := malloc_origins s size
  rcases h.malloc size with ⟨_, outcome, backs, kept⟩ | ⟨_, _, outcome, _⟩
  · rw [answer] at outcome origins
    cases outcome
    exact ⟨backs, kept, origins⟩
  · rw [answer] at outcome
    cases outcome

/-- What is granted is the start of a new block. -/
theorem Backs.granted {size : UInt64} (h : s.Backs c own) (answer : s.malloc size = (.ok p, s')) :
    ∃ b, b.start = p ∧ max size.toNat 1 ≤ b.capacity.toNat ∧ own p = none ∧
      s'.Backs c (own.give p b) ∧ s.Kept own s' ∧ s'.origins = s.origins := by
  have origins := malloc_origins s size
  rcases h.malloc size with ⟨_, outcome, _⟩ | ⟨b, _, outcome, large, new, backs, kept⟩
  · rw [answer] at outcome
    cases outcome
  · rw [answer] at outcome origins
    cases outcome
    exact ⟨b, rfl, large, new, backs, kept, origins⟩

/-- A block that was just allocated goes back as it is. -/
theorem Backs.deallocate (h : s.Backs c (own.give b.start b)) (new : own b.start = none) :
    (s.deallocate b.start).Backs c own ∧ s.Kept own (s.deallocate b.start) := by
  have held : own.give b.start b b.start = some b := Tenancy.give_self
  obtain ⟨m, represents, entries⟩ := h.table
  rw [← Tenancy.drop_give (b := b) new]
  exact h.drop held (c.released h.valid (h.mem held) (.inl rfl))
    ⟨m, represents, fun a => (entries a).trans (Backs.originIn_drop_start held a).symm⟩ rfl rfl

theorem Backs.free (h : s.Backs c own) (held : own p = some b) :
    (s.free (some p)).Backs c (own.drop p) ∧ s.Kept (own.drop p) (s.free (some p)) := by
  obtain ⟨m, represents, entries⟩ := h.table
  obtain ⟨found, taken⟩ := OriginTable.take_represents represents (h.isAddress held).2
  have named := h.named held
  rw [← entries, ← found] at named
  refine h.drop held (c.released h.valid (h.mem held) named) ⟨_, taken, fun a => ?_⟩ rfl rfl
  rw [Std.ExtHashMap.getElem?_erase, entries]
  by_cases same : p = a
  · simp [same, Contract.originIn]
  · simp [same, Contract.originIn, Tenancy.drop_of_ne (Ne.symm same)]

/-- What is released is what the pointer resolves to. -/
theorem Backs.free_heap (h : s.Backs c own) (held : own p = some b) :
    (s.free (some p)).heap = Primitive.deallocate s.heap ((c.originIn own p).getD p) := by
  obtain ⟨m, represents, entries⟩ := h.table
  rw [← entries, ← (OriginTable.take_represents represents (h.isAddress held).2).1]
  rfl

theorem usableSize_fst (s : Layer σ) (p : Addr) :
    (s.usableSize (some p)).1 =
      Word.subSaturating (Primitive.usableSize s.heap ((s.origins.originOf p).getD p)).1
        (p - (s.origins.originOf p).getD p) :=
  rfl

/-- The usable size is what the block has left behind the pointer, however the
primitive was asked for it. -/
theorem Backs.usableSize (h : s.Backs c own) (held : own p = some b) :
    (s.usableSize (some p)).1.toNat = b.room p ∧ (s.usableSize (some p)).2.Backs c own ∧
      s.Kept own (s.usableSize (some p)).2 := by
  have named := h.named held
  obtain ⟨room, leads⟩ := c.measured h.valid (h.mem held) named
  rw [← h.originOf_eq held] at room leads
  refine ⟨?_, h.stay leads⟩
  have above := (h.holds held).1
  have resolved := getD_originIn (c := c) held
  rw [← h.originOf_eq held] at resolved
  rw [usableSize_fst, Word.toNat_subSaturating, room, resolved]
  split
  · rw [UInt64.sub_self]
    rfl
  · rw [UInt64.toNat_sub_of_le _ _ (UInt64.le_iff_toNat_le.2 above)]
    unfold Block.room
    omega

end Layer

end MallocLayer
