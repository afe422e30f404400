import MallocLayer.Proofs.Contract

/-!
# Placement policies

Where a primitive places its blocks, and what it does to memory on the way, may
be settled by nothing but its history: which sizes were asked for, and which
blocks were released and measured. Such a primitive follows a policy. Two
primitives may follow the same policy and yet differ in the addresses that they
accept: what goes into the history is the block, however the call named it.

`Variants` is a pair of primitives like that, where one accepts addresses inside
a block and the other does not. As long as the same happens to both, they answer
alike and their memories read alike.
-/

namespace MallocLayer.Primitive

/-! ## 1. Policies -/

/-- What happens to a primitive. -/
inductive Deed where
  | allocate (size : UInt64)
  | release (b : Block)
  | measure (b : Block)

/-- How a primitive acts on its history, which lists deeds from the latest on. -/
structure Policy where
  /-- The block for a request of the given size. -/
  block : List Deed → UInt64 → Option Block
  /-- The bytes of memory after a deed, as a function of those before. -/
  memory : List Deed → Deed → (Addr → UInt8) → Addr → UInt8

variable {σ τ : Type}

/-- The deed is added to the history, and memory is as the policy has it. -/
structure Policy.Step (policy : Policy) (Seen : List Deed → Heap σ → Prop) (past : List Deed)
    (deed : Deed) (h h' : Heap σ) : Prop where
  seen : Seen (deed :: past) h'
  memory : ∀ x, h'.memory.read x = policy.memory past deed h.memory.read x

/-- A primitive follows a policy. `Seen` says which histories a heap may have. -/
structure Contract.Follows [Primitive σ] (c : Contract σ) (policy : Policy)
    (Seen : List Deed → Heap σ → Prop) : Prop where
  allocated : ∀ {past h size answer h'}, c.Valid h → Seen past h →
    allocate h size = (answer, h') →
    answer = (policy.block past size).map Block.start ∧
      (∀ b, policy.block past size = some b → b ∈ c.live h') ∧
      policy.Step Seen past (.allocate size) h h'
  released : ∀ {past h b p}, c.Valid h → Seen past h → b ∈ c.live h → b.Named c.interior p →
    policy.Step Seen past (.release b) h (deallocate h p)
  measured : ∀ {past h b p}, c.Valid h → Seen past h → b ∈ c.live h → b.Named c.interior p →
    policy.Step Seen past (.measure b) h (usableSize h p).2
  written : ∀ {past h m}, c.Valid h → Seen past h →
    (∀ x, (∀ b ∈ c.live h, ¬ b.Holds x) → m.read x = h.memory.read x) → Seen past ⟨h.state, m⟩

namespace Contract.Follows

variable [Primitive σ] {c : Contract σ} {policy : Policy} {Seen : List Deed → Heap σ → Prop}
  {past : List Deed} {h : Heap σ} {size : UInt64} {b : Block}

theorem refused (follows : c.Follows policy Seen) (valid : c.Valid h) (seen : Seen past h)
    (unplaced : policy.block past size = none) :
    ∃ h', allocate h size = (none, h') ∧ c.Leads h (c.live h) h' ∧
      policy.Step Seen past (.allocate size) h h' := by
  rcases answer : allocate h size with ⟨start, h'⟩
  obtain ⟨rfl, _, step⟩ := follows.allocated valid seen answer
  rw [unplaced, Option.map_none] at answer
  rw [unplaced]
  exact ⟨h', rfl, c.refused valid answer, step⟩

theorem granted (follows : c.Follows policy Seen) (valid : c.Valid h) (seen : Seen past h)
    (placed : policy.block past size = some b) :
    ∃ h', allocate h size = (some b.start, h') ∧ max size.toNat 1 ≤ b.capacity.toNat ∧
      b ∉ c.live h ∧ c.Leads h (insert b (c.live h)) h' ∧
      policy.Step Seen past (.allocate size) h h' := by
  rcases answer : allocate h size with ⟨start, h'⟩
  obtain ⟨rfl, live, step⟩ := follows.allocated valid seen answer
  rw [placed, Option.map_some] at answer
  obtain ⟨d, same, large, new, leads⟩ := c.granted valid answer
  -- The contract speaks of some block with this start, and only one can be live.
  have live' : d ∈ c.live h' := by simp [leads.live_eq]
  have inside : b.Holds b.start := (c.proper leads.valid b (live b placed)).holds_start
  have inside' : d.Holds b.start := same ▸ (c.proper leads.valid d live').holds_start
  obtain rfl := c.apart leads.valid b (live b placed) d live' b.start inside inside'
  rw [placed]
  exact ⟨h', rfl, large, new, leads, step⟩

end Contract.Follows

/-! ## 2. Variants -/

/-- Two primitives that follow one policy. The first accepts addresses inside a
block, the second does not. -/
structure Variants (σ τ : Type) [Primitive σ] [Primitive τ] where
  lenient : Contract σ
  strict : Contract τ
  lenient_interior : lenient.interior = true
  strict_interior : strict.interior = false
  policy : Policy
  Seen : List Deed → Heap σ → Prop
  Seen' : List Deed → Heap τ → Prop
  lenient_follows : lenient.Follows policy Seen
  strict_follows : strict.Follows policy Seen'

namespace Variants

variable [Primitive σ] [Primitive τ]

/-- The same happened to both, and memory reads the same. -/
structure Alike (v : Variants σ τ) (h : Heap σ) (h' : Heap τ) : Prop where
  history : ∃ past, v.Seen past h ∧ v.Seen' past h'
  memory : ∀ x, h.memory.read x = h'.memory.read x

variable {v : Variants σ τ} {past : List Deed} {deed : Deed} {h k : Heap σ} {h' k' : Heap τ}
  {b : Block} {p p' : Addr}

/-- One deed on both sides. -/
theorem Alike.step (memory : ∀ x, h.memory.read x = h'.memory.read x)
    (first : v.policy.Step v.Seen past deed h k) (second : v.policy.Step v.Seen' past deed h' k') :
    v.Alike k k' where
  history := ⟨deed :: past, first.seen, second.seen⟩
  memory x := by rw [first.memory, second.memory, funext memory]

/-- Both refuse a request, or both grant the same block. -/
theorem Alike.allocate (alike : v.Alike h h') (valid : v.lenient.Valid h)
    (valid' : v.strict.Valid h') (size : UInt64) :
    (∃ k k', Primitive.allocate h size = (none, k) ∧ Primitive.allocate h' size = (none, k') ∧
      v.lenient.Leads h (v.lenient.live h) k ∧ v.strict.Leads h' (v.strict.live h') k' ∧
      v.Alike k k') ∨
    ∃ b k k', Primitive.allocate h size = (some b.start, k) ∧
      Primitive.allocate h' size = (some b.start, k') ∧ max size.toNat 1 ≤ b.capacity.toNat ∧
      (b ∉ v.lenient.live h ∧ v.lenient.Leads h (insert b (v.lenient.live h)) k) ∧
      (b ∉ v.strict.live h' ∧ v.strict.Leads h' (insert b (v.strict.live h')) k') ∧
      v.Alike k k' := by
  obtain ⟨past, seen, seen'⟩ := alike.history
  rcases placed : v.policy.block past size with _ | b
  · obtain ⟨k, answer, leads, step⟩ := v.lenient_follows.refused valid seen placed
    obtain ⟨k', answer', leads', step'⟩ := v.strict_follows.refused valid' seen' placed
    exact .inl ⟨k, k', answer, answer', leads, leads', .step alike.memory step step'⟩
  · obtain ⟨k, answer, large, new, leads, step⟩ := v.lenient_follows.granted valid seen placed
    obtain ⟨k', answer', _, new', leads', step'⟩ := v.strict_follows.granted valid' seen' placed
    exact .inr ⟨b, k, k', answer, answer', large, ⟨new, leads⟩, ⟨new', leads'⟩,
      .step alike.memory step step'⟩

theorem Alike.deallocate (alike : v.Alike h h') (valid : v.lenient.Valid h)
    (valid' : v.strict.Valid h') (member : b ∈ v.lenient.live h) (member' : b ∈ v.strict.live h')
    (named : b.Named v.lenient.interior p) (named' : b.Named v.strict.interior p') :
    v.Alike (Primitive.deallocate h p) (Primitive.deallocate h' p') := by
  obtain ⟨past, seen, seen'⟩ := alike.history
  exact .step alike.memory (v.lenient_follows.released valid seen member named)
    (v.strict_follows.released valid' seen' member' named')

theorem Alike.usableSize (alike : v.Alike h h') (valid : v.lenient.Valid h)
    (valid' : v.strict.Valid h') (member : b ∈ v.lenient.live h) (member' : b ∈ v.strict.live h')
    (named : b.Named v.lenient.interior p) (named' : b.Named v.strict.interior p') :
    v.Alike (Primitive.usableSize h p).2 (Primitive.usableSize h' p').2 := by
  obtain ⟨past, seen, seen'⟩ := alike.history
  exact .step alike.memory (v.lenient_follows.measured valid seen member named)
    (v.strict_follows.measured valid' seen' member' named')

/-- The same bytes of live blocks are written. -/
theorem Alike.write (alike : v.Alike h h') (valid : v.lenient.Valid h)
    (valid' : v.strict.Valid h') {m m' : Memory} (same : ∀ x, m.read x = m'.read x)
    (within : ∀ x, (∀ b ∈ v.lenient.live h, ¬ b.Holds x) → m.read x = h.memory.read x)
    (within' : ∀ x, (∀ b ∈ v.strict.live h', ¬ b.Holds x) → m'.read x = h'.memory.read x) :
    v.Alike ⟨h.state, m⟩ ⟨h'.state, m'⟩ := by
  obtain ⟨past, seen, seen'⟩ := alike.history
  exact ⟨⟨past, v.lenient_follows.written valid seen within,
    v.strict_follows.written valid' seen' within'⟩, same⟩

end Variants

end MallocLayer.Primitive
