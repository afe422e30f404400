import MallocLayer.Primitive.Arena
import MallocLayer.Proofs.Alignment
import MallocLayer.Proofs.Contract
import Mathlib.Data.List.Pairwise

/-!
# The arena keeps the contract

Whatever its script, the arena is a primitive as the layer expects it, provided
that it ends inside the address space. The invariant is that of a stack with
holes: each block lies above the bump pointer that it was placed at, and every
older block ends there or below. Rewinding the bump pointer keeps it, since the
pointer goes back only when the topmost block is released.
-/

namespace MallocLayer.Arena

/-! ## 1. Placing -/

theorem le_roundUp {step : Nat} (pos : 0 < step) (n : Nat) : n ≤ roundUp n step := by
  have rest := Nat.mod_lt (n + step - 1) pos
  have split := Nat.div_add_mod' (n + step - 1) step
  unfold roundUp
  omega

theorem dvd_roundUp (n step : Nat) : step ∣ roundUp n step := Nat.dvd_mul_left ..

theorem sixteen_dvd_of_pow {k : Nat} (large : 16 ≤ 2 ^ k) : 16 ∣ 2 ^ k := by
  have : 2 ^ 4 ≤ 2 ^ k := large
  exact pow_dvd_pow 2 ((Nat.pow_le_pow_iff_right (by decide)).1 this)

/-- Blocks are placed above the bump pointer, aligned, and with the room that
was asked for. -/
theorem place_spec (placement : Placement) (b size : Nat) :
    b ≤ (place placement b size).1 ∧ 16 ∣ (place placement b size).1 ∧
      max size 1 ≤ (place placement b size).2 := by
  cases placement with
  | natural =>
    exact ⟨le_roundUp (by decide) b, dvd_roundUp b 16, le_roundUp (by decide) _⟩
  | sizeClass =>
    have large := Word.le_leastPowerOfTwo (max size 16)
    obtain ⟨k, pow⟩ := Word.leastPowerOfTwo_eq (max size 16)
    have step : 16 ∣ min (Word.leastPowerOfTwo (max size 16)) 4096 := by
      rcases Nat.le_total (Word.leastPowerOfTwo (max size 16)) 4096 with le | le
      · rw [Nat.min_eq_left le, pow]
        exact sixteen_dvd_of_pow (by omega)
      · rw [Nat.min_eq_right le]
        decide
    refine ⟨le_roundUp (by omega) b, Nat.dvd_trans step (dvd_roundUp ..), ?_⟩
    change max size 1 ≤ Word.leastPowerOfTwo (max size 16)
    omega
  | skewed =>
    refine ⟨?_, ?_, le_roundUp (by decide) _⟩
    · exact Nat.le_trans (le_roundUp (by decide : 0 < 128) b) (Nat.le_add_right ..)
    · have step : 16 ∣ 128 := by decide
      exact Nat.dvd_add (Nat.dvd_trans step (dvd_roundUp b 128)) (Nat.dvd_refl 16)

/-! ## 2. Order -/

/-- A block of an arena of the given size. -/
structure Block.Sound (limit : Nat) (b : Block) : Prop where
  aligned : 16 ∣ b.start
  capacity_pos : 0 < b.capacity
  resume_le : b.resume ≤ b.start
  stop_le : b.stop ≤ limit

/-- The blocks are one, or one was there before the other was placed. -/
def Block.Ordered (b c : Block) : Prop := b = c ∨ b.stop ≤ c.resume ∨ c.stop ≤ b.resume

/-- The live blocks, latest first, are stacked below the bump pointer. -/
structure Orderly (s : Arena) : Prop where
  sound : ∀ b ∈ s.blocks, b.Sound s.script.limit
  below : ∀ b ∈ s.blocks, b.stop ≤ s.bump
  stacked : s.blocks.Pairwise fun later earlier => earlier.stop ≤ later.resume

variable {s : Arena} {b c : Block} {size : UInt64}

theorem nextBlock?_eq_some (next : s.nextBlock? size = some b) :
    b.Sound s.script.limit ∧ b.resume = s.bump ∧ max size.toNat 1 ≤ b.capacity := by
  simp only [nextBlock?] at next
  split at next
  · cases next
  · split at next
    · cases next
    · next fits =>
      cases next
      obtain ⟨above, aligned, large⟩ := place_spec s.script.placement
        (s.bump + s.script.gaps[s.allocations]?.getD 0) size.toNat
      exact ⟨⟨aligned, by simp only; omega, by simp only; omega, Nat.le_of_not_lt fits⟩, rfl, large⟩

namespace Orderly

/-- Of two live blocks, one was there before the other was placed. -/
theorem earlier_or_later (h : s.Orderly) (mem : b ∈ s.blocks) (mem' : c ∈ s.blocks) :
    b.Ordered c := by
  have down : s.blocks.Pairwise Block.Ordered := h.stacked.imp fun order => .inr (.inr order)
  have up : s.blocks.Pairwise (flip Block.Ordered) := h.stacked.imp fun order => .inr (.inl order)
  exact down.forall_of_forall_of_flip (fun _ _ => .inl rfl) up mem mem'

/-- Two blocks with an offset in common are one. -/
theorem eq_of_common (h : s.Orderly) (mem : b ∈ s.blocks) (mem' : c ∈ s.blocks) {n : Nat}
    (inside : b.start ≤ n ∧ n < b.stop) (inside' : c.start ≤ n ∧ n < c.stop) : b = c := by
  have := (h.sound b mem).resume_le
  have := (h.sound c mem').resume_le
  rcases h.earlier_or_later mem mem' with same | order | order
  · exact same
  · omega
  · omega

theorem nodup (h : s.Orderly) : s.blocks.Nodup := by
  refine h.stacked.imp_of_mem fun {later earlier} member _ order same => ?_
  have sound := h.sound later member
  have := sound.resume_le
  have := sound.capacity_pos
  subst same
  unfold Block.stop at order
  omega

theorem cons (h : s.Orderly) (sound : b.Sound s.script.limit) (resume : b.resume = s.bump)
    {n : Nat} : Orderly { s with allocations := n, bump := b.stop, blocks := b :: s.blocks } where
  sound := by
    rintro c (_ | ⟨_, member⟩)
    · exact sound
    · exact h.sound c member
  below := by
    rintro c (_ | ⟨_, member⟩)
    · exact Nat.le_refl _
    · have := h.below c member
      have := sound.resume_le
      have := sound.capacity_pos
      unfold Block.stop at *
      simp only
      omega
  stacked := List.pairwise_cons.2 ⟨fun c member => resume ▸ h.below c member, h.stacked⟩

theorem erase (h : s.Orderly) (mem : b ∈ s.blocks) {n : Nat} :
    Orderly { s with
      deallocations := n
      bump := if s.script.rewind && s.bump == b.stop then b.resume else s.bump
      blocks := s.blocks.erase b } where
  sound c member := h.sound c (List.mem_of_mem_erase member)
  below c member := by
    obtain ⟨ne, member⟩ := h.nodup.mem_erase_iff.1 member
    have below := h.below c member
    split
    · next top =>
      simp only [Bool.and_eq_true, beq_iff_eq] at top
      have sound := h.sound c member
      have := sound.resume_le
      have := sound.capacity_pos
      rcases h.earlier_or_later mem member with same | later | earlier
      · exact absurd same.symm ne
      -- A later block would end above the topmost one.
      · unfold Block.stop at *
        omega
      · exact earlier
    · exact below
  stacked := h.stacked.sublist (List.erase_sublist ..)

end Orderly

/-! ## 3. Addresses -/

/-- The addresses of a block. -/
def Block.range (b : Block) : Primitive.Block := ⟨address b.start, UInt64.ofNat b.capacity⟩

/-- The arena ends inside the address space. -/
def Fits (script : Script) : Prop := base.toNat + script.limit ≤ UInt64.size

instance (script : Script) : Decidable (Fits script) := inferInstanceAs (Decidable (_ ≤ _))

theorem toNat_base : base.toNat = 0x40000000 := rfl

theorem address_offset (p : Addr) : address (offset p) = p := by
  rw [address, offset, UInt64.ofNat_toNat, UInt64.add_comm, UInt64.sub_add_cancel]

section Addresses

variable {script : Script} {p : Addr}

theorem toNat_address (fits : Fits script) {n : Nat} (less : n < script.limit) :
    (address n).toNat = base.toNat + n := by
  unfold Fits at fits
  simp only [UInt64.size] at fits
  rw [address, UInt64.toNat_add, UInt64.toNat_ofNat']
  omega

theorem offset_address (fits : Fits script) {n : Nat} (less : n < script.limit) :
    offset (address n) = n := by
  have small : (UInt64.ofNat n).toNat = n := by
    unfold Fits at fits
    rw [toNat_base] at fits
    exact UInt64.toNat_ofNat_of_lt (by omega)
  rw [offset, address, UInt64.add_comm, UInt64.add_sub_cancel, small]

theorem toNat_capacity (fits : Fits script) (sound : b.Sound script.limit) :
    (UInt64.ofNat b.capacity).toNat = b.capacity := by
  have := sound.stop_le
  unfold Fits at fits
  unfold Block.stop at this
  rw [toNat_base] at fits
  exact UInt64.toNat_ofNat_of_lt (by omega)

theorem start_lt (sound : b.Sound script.limit) : b.start < script.limit := by
  have := sound.stop_le
  have := sound.capacity_pos
  unfold Block.stop at *
  omega

/-- An address lies in a block if its offset does. -/
theorem holds_range (fits : Fits script) (sound : b.Sound script.limit) :
    b.range.Holds p ↔ b.start ≤ offset p ∧ offset p < b.stop := by
  have stop := sound.stop_le
  have position : (p.toNat = base.toNat + offset p) ∨
      p.toNat < base.toNat ∧ script.limit ≤ offset p := by
    unfold Fits at fits
    have := p.toNat_lt
    rw [offset, UInt64.toNat_sub]
    simp only [toNat_base, UInt64.size] at *
    omega
  unfold Primitive.Block.Holds Block.range
  simp only [toNat_address fits (start_lt sound), toNat_capacity fits sound, Block.stop] at *
  omega

/-- A pointer names a block if the arena finds the block by it. -/
theorem named_range (fits : Fits script) (sound : b.Sound script.limit) {interior : Bool}
    (named : b.range.Named interior p) : b.holds interior (offset p) := by
  have := sound.capacity_pos
  rcases named with rfl | ⟨rfl, inside⟩
  · have start : offset b.range.start = b.start := offset_address fits (start_lt sound)
    unfold Block.holds
    rw [start]
    split
    · simpa [Block.stop] using this
    · exact beq_self_eq_true _
  · simpa [Block.holds] using (holds_range fits sound).1 inside

/-- What the arena finds by an address covers its offset. -/
theorem covers_of_holds (sound : b.Sound script.limit) {interior : Bool} {n : Nat}
    (found : b.holds interior n) : b.start ≤ n ∧ n < b.stop := by
  have := sound.capacity_pos
  unfold Block.holds at found
  split at found
  · simpa using found
  · rw [beq_iff_eq] at found
    unfold Block.stop
    omega

/-- The arena finds the block that an address names. -/
theorem Orderly.blockOf?_eq (h : s.Orderly) (fits : Fits s.script) (mem : b ∈ s.blocks)
    (named : b.range.Named s.script.interior p) : s.blockOf? p = some b := by
  have holds := named_range fits (h.sound b mem) named
  have some : (s.blocks.find? (·.holds s.script.interior (offset p))).isSome :=
    List.find?_isSome.2 ⟨b, mem, holds⟩
  obtain ⟨c, found⟩ := Option.isSome_iff_exists.1 some
  have mem' := List.mem_of_find?_eq_some found
  have holds' := List.find?_some found
  obtain rfl := h.eq_of_common mem mem' (covers_of_holds (h.sound b mem) holds)
    (covers_of_holds (h.sound c mem') holds')
  exact found

theorem range_proper (fits : Fits script) (sound : b.Sound script.limit) : b.range.Proper := by
  have start := toNat_address fits (start_lt sound)
  have capacity := toNat_capacity fits sound
  have := sound.stop_le
  have := sound.aligned
  have := sound.capacity_pos
  unfold Fits at fits
  unfold Block.stop at *
  constructor <;> simp only [Block.range, start, capacity, toNat_base] at * <;> omega

end Addresses

/-! ## 4. The contract -/

/-- The live blocks as the contract sees them. -/
def ranges (s : Arena) : Set Primitive.Block := {r | ∃ b ∈ s.blocks, b.range = r}

theorem mem_ranges {r : Primitive.Block} : r ∈ s.ranges ↔ ∃ b ∈ s.blocks, b.range = r := Iff.rfl

section Contract

variable {script : Script} {h h' : Heap Arena}

/-- Two blocks with an address in common are one. -/
theorem Orderly.eq_of_holds (order : s.Orderly) (fits : Fits s.script) (mem : b ∈ s.blocks)
    (mem' : c ∈ s.blocks) {x : Addr} (inside : b.range.Holds x) (inside' : c.range.Holds x) :
    b = c :=
  order.eq_of_common mem mem' ((holds_range fits (order.sound b mem)).1 inside)
    ((holds_range fits (order.sound c mem')).1 inside')

/-- A block that is placed at the bump pointer meets no live block: it starts above
all their ends. -/
theorem Orderly.apart_of_resume (order : s.Orderly) (fits : Fits s.script)
    (sound : b.Sound s.script.limit) (resume : b.resume = s.bump) (mem : c ∈ s.blocks) {x : Addr}
    (inside : c.range.Holds x) : ¬ b.range.Holds x := by
  intro inside'
  have below := order.below c mem
  have above := sound.resume_le
  have := (holds_range fits (order.sound c mem)).1 inside
  have := (holds_range fits sound).1 inside'
  omega

theorem ranges_cons {s' : Arena} (blocks : s'.blocks = b :: s.blocks) :
    s'.ranges = insert b.range s.ranges := by
  ext r
  rw [Set.mem_insert_iff, mem_ranges, mem_ranges, blocks]
  constructor
  · rintro ⟨c, mem, rfl⟩
    rcases List.mem_cons.1 mem with rfl | mem
    · exact .inl rfl
    · exact .inr ⟨c, mem, rfl⟩
  · rintro (rfl | ⟨c, mem, rfl⟩)
    · exact ⟨b, List.mem_cons_self, rfl⟩
    · exact ⟨c, List.mem_cons_of_mem b mem, rfl⟩

/-- Poison reaches no block but the fresh one. -/
theorem read_poison (fits : Fits script) (sound : b.Sound script.limit) {m : Memory} {byte : UInt8}
    {x : Addr} (outside : ¬ b.range.Holds x) :
    (m.fill (address b.start) (UInt64.ofNat b.capacity) byte).read x = m.read x := by
  have proper := range_proper fits sound
  have room : (UInt64.ofNat b.capacity).toNat ≤ b.range.room b.range.start := by
    simp [Primitive.Block.room, Block.range]
  exact (proper.covers proper.holds_start room).read_store_outside outside

/-- An arena with the script is looked at by its stack of blocks. -/
def view (script : Script) : Primitive.View Arena where
  Valid h := h.state.script = script ∧ h.state.Orderly
  live h := h.state.ranges

theorem refused (valid : (view script).Valid h) (answer : allocate h size = (none, h')) :
    (view script).Leads h h.state.ranges h' := by
  obtain ⟨rfl, order⟩ := valid
  simp only [allocate] at answer
  split at answer
  · cases answer
    exact ⟨⟨rfl, order.sound, order.below, order.stacked⟩, rfl, fun _ _ _ _ _ => rfl⟩
  · cases answer

theorem granted (fits : Fits script) (valid : (view script).Valid h) {p : Addr}
    (answer : allocate h size = (some p, h')) :
    ∃ b, b.start = p ∧ max size.toNat 1 ≤ b.capacity.toNat ∧ b ∉ h.state.ranges ∧
      (view script).Leads h (insert b h.state.ranges) h' := by
  obtain ⟨rfl, order⟩ := valid
  simp only [allocate] at answer
  split at answer
  · cases answer
  · next b next =>
    cases answer
    obtain ⟨sound, resume, large⟩ := nextBlock?_eq_some next
    refine ⟨b.range, rfl, ?_, ?_, ⟨rfl, order.cons sound resume⟩, ranges_cons rfl, ?_⟩
    · exact large.trans (toNat_capacity fits sound).ge
    · rintro ⟨c, mem, same⟩
      have inside := (range_proper fits (order.sound c mem)).holds_start
      exact order.apart_of_resume fits sound resume mem inside (same ▸ inside)
    · rintro r ⟨c, mem, rfl⟩ _ x inside
      simp only
      split
      · exact read_poison fits sound (order.apart_of_resume fits sound resume mem inside)
      · rfl

theorem released (fits : Fits script) (valid : (view script).Valid h) {r : Primitive.Block}
    (mem : r ∈ h.state.ranges) {p : Addr} (named : r.Named script.interior p) :
    (view script).Leads h (h.state.ranges \ {r}) (deallocate h p) := by
  obtain ⟨rfl, order⟩ := valid
  obtain ⟨b, mem, rfl⟩ := mem
  have found := order.blockOf?_eq fits mem named
  simp only [deallocate, found]
  refine ⟨⟨rfl, order.erase mem⟩, ?_, fun _ _ _ _ _ => rfl⟩
  ext r
  simp only [view, mem_ranges, Set.mem_sdiff, Set.mem_singleton_iff, order.nodup.mem_erase_iff]
  constructor
  · rintro ⟨c, ⟨ne, mem'⟩, rfl⟩
    refine ⟨⟨c, mem', rfl⟩, fun same => ne ?_⟩
    have inside := (range_proper fits (order.sound c mem')).holds_start
    exact order.eq_of_holds fits mem' mem inside (same ▸ inside)
  · rintro ⟨⟨c, mem', rfl⟩, ne⟩
    exact ⟨c, ⟨fun same => ne (congrArg Block.range same), mem'⟩, rfl⟩

theorem measured (fits : Fits script) (valid : (view script).Valid h) {r : Primitive.Block}
    (mem : r ∈ h.state.ranges) {p : Addr} (named : r.Named script.interior p) :
    (h.state.usableSize p).toNat = r.room p := by
  obtain ⟨rfl, order⟩ := valid
  obtain ⟨b, mem, rfl⟩ := mem
  have found := order.blockOf?_eq fits mem named
  have sound := order.sound b mem
  have inside := (range_proper fits sound).holds_of_named named
  obtain ⟨above, below⟩ := (holds_range fits sound).1 inside
  have stop := sound.stop_le
  have small : b.stop - offset p < UInt64.size := by
    unfold Fits at fits
    rw [toNat_base] at fits
    omega
  have position : p.toNat = base.toNat + offset p := by
    conv_lhs => rw [← address_offset p]
    exact toNat_address fits (by omega)
  have room : b.range.room p = base.toNat + b.start + b.capacity - p.toNat := by
    rw [Primitive.Block.room, Block.range, toNat_address fits (start_lt sound),
      toNat_capacity fits sound]
  rw [usableSize, found, room, position]
  refine (UInt64.toNat_ofNat_of_lt small).trans ?_
  unfold Block.stop
  omega

/-- The arena keeps the contract. -/
def contract (script : Script) (fits : Fits script) : Primitive.Contract Arena where
  toView := view script
  interior := script.interior
  acceptsInterior_eq valid := valid.1 ▸ rfl
  proper := by
    rintro h ⟨rfl, order⟩ _ ⟨b, mem, rfl⟩
    exact range_proper fits (order.sound b mem)
  apart := by
    rintro h ⟨rfl, order⟩ _ ⟨b, mem, rfl⟩ _ ⟨c, mem', rfl⟩ x inside inside'
    rw [order.eq_of_holds fits mem mem' inside inside']
  refused := fun valid answer => refused valid answer
  granted := fun valid answer => granted fits valid answer
  released := fun valid mem named => released fits valid mem named
  measured := fun valid mem named =>
    ⟨measured fits valid mem named, valid, rfl, fun _ _ _ _ _ => rfl⟩
  written valid _ := ⟨valid, rfl⟩

/-- A new arena with nothing in it. -/
def fresh (script : Script) : Heap Arena := ⟨{ script }, Memory.empty⟩

theorem valid_fresh (script : Script) (fits : Fits script) : (contract script fits).Valid (fresh script) :=
  ⟨rfl, nofun, nofun, .nil⟩

theorem live_fresh (script : Script) (fits : Fits script) : (contract script fits).live (fresh script) = ∅ :=
  Set.eq_empty_of_forall_notMem nofun

end Contract

end MallocLayer.Arena
