import MallocLayer.Proofs.Growth

/-!
# Growth over coarse primitives

The reallocation policy looks at usable sizes, and a primitive may give more than it is
asked for. A block that grows, but is still asked to hold at most half of what it can
hold, looks like a block that shrinks, and it moves.

Over a primitive that gives a granule at least, every request for at most half of a
granule moves the block. Then growth by single bytes costs a move each
(`ofHeap_moves_each`), and no bound that is logarithmic in the sizes that were asked for
holds over all primitives (`logarithmic_in_request_false`). What `Growth` says is logarithmic
in usable sizes.
-/

namespace MallocLayer

open Primitive (Block Contract View)

/-! ## 1. Requests for at most half -/

/-- A request for at most half of the usable size moves the block, if it succeeds. -/
theorem Layer.Backs.realloc_up_to_half {σ : Type} [Primitive σ] {s s' : Layer σ} {c : Contract σ}
    {own : Tenancy} {p : Addr} {b : Block} {size : UInt64} {result : Reallocated}
    (h : s.Backs c own) (held : own p = some b) (nonzero : size ≠ 0)
    (below : size.toNat ≤ b.room p / 2) (done : s.realloc (some p) size = (.ok result, s')) :
    ∃ d, result = .moved d.start ∧ s'.Backs c ((own.drop p).give d.start d) := by
  obtain ⟨measured, backs, -⟩ := h.usableSize held
  simp only [Layer.realloc, Layer.reallocWith, if_neg nonzero] at done
  generalize (s.usableSize (some p)).1 = old at measured done
  generalize (s.usableSize (some p)).2 = measuredLayer at backs done
  -- The policy takes the request for one to shrink, whatever the block was asked to hold.
  have outside : ¬ (old / 2 < size ∧ size ≤ old) := by
    rintro ⟨above, -⟩
    have half : (old / 2).toNat = old.toNat / 2 := UInt64.toNat_div old 2
    rw [UInt64.lt_iff_toNat_lt, half, measured] at above
    exact absurd below (Nat.not_le_of_lt above)
  rw [if_neg outside] at done
  simp only [Layer.reallocMove] at done
  rcases backs.malloc (Layer.moveTarget old size) with
    ⟨fresh, outcome, -, -⟩ | ⟨d, fresh, outcome, room, new, backs', -⟩
  · rw [outcome] at done
    cases done
  · rw [outcome] at done
    cases done
    have large := Layer.le_moveTarget old size
    have amount : (min old size).toNat = min (b.room p) size.toNat := by
      rw [UInt64.toNat_min, measured]
    obtain ⟨replaced, -⟩ := backs'.replace (n := min old size) new held (by omega) (by omega)
    exact ⟨d, rfl, replaced.trace _⟩

/-! ## 2. Coarse primitives -/

/-- All blocks are of a granule at least. -/
def Primitive.Contract.Coarse {σ : Type} [Primitive σ] (c : Contract σ) (granule : Nat) : Prop :=
  ∀ {h}, c.Valid h → ∀ b ∈ c.live h, granule ≤ b.capacity.toNat

namespace Lease

open Layer (moveCount)

variable {σ : Type} [Primitive σ] {c : Contract σ} {l : Lease σ} {granule : Nat} {size : UInt64}
  {sizes : List UInt64}

/-- The pointer is the start of a live block. -/
def Whole (l : Lease σ) (c : Contract σ) : Prop :=
  ∃ own b, l.layer.Backs c own ∧ own b.start = some b ∧ l.ptr = b.start

/-- All the calls succeed. -/
def Succeeds : Lease σ → List UInt64 → Prop
  | _, [] => True
  | l, size :: rest => (l.answer size).isOk ∧ (l.resize size).Succeeds rest

instance Succeeds.decidable : (l : Lease σ) → (sizes : List UInt64) → Decidable (l.Succeeds sizes)
  | _, [] => inferInstanceAs (Decidable True)
  | l, size :: rest =>
    have := Succeeds.decidable (l.resize size) rest
    inferInstanceAs (Decidable (_ ∧ _))

theorem Whole.step (h : l.Whole c) (coarse : c.Coarse granule) (ok : (l.answer size).isOk)
    (nonzero : size ≠ 0) (half : 2 * size.toNat ≤ granule) :
    moveCount (l.answer size) = 1 ∧ (l.resize size).Whole c := by
  obtain ⟨own, b, backs, held, start⟩ := h
  have large := coarse backs.valid b (backs.mem held)
  have below : size.toNat ≤ b.room b.start / 2 := by
    rw [Layer.room_start]
    omega
  rw [← start] at held below
  rcases done : l.layer.realloc (some l.ptr) size with ⟨_ | result, layer⟩
  · rw [answer, done] at ok
    cases ok
  · obtain ⟨d, rfl, backs'⟩ := backs.realloc_up_to_half held nonzero below done
    have next : l.resize size = ⟨layer, d.start⟩ := resize_eq done rfl
    rw [answer, done, next]
    exact ⟨rfl, _, d, backs', Tenancy.give_self, rfl⟩

/-- Over a coarse primitive, calls for at most half of a granule cost a move each. -/
theorem Whole.moves_eq (h : l.Whole c) (coarse : c.Coarse granule)
    (small : ∀ size ∈ sizes, size ≠ 0 ∧ 2 * size.toNat ≤ granule) (succeeds : l.Succeeds sizes) :
    l.moves sizes = sizes.length := by
  induction sizes generalizing l with
  | nil => rfl
  | cons size rest ih =>
    obtain ⟨ok, succeeds⟩ := succeeds
    obtain ⟨⟨nonzero, half⟩, small⟩ := List.forall_mem_cons.1 small
    obtain ⟨moved, whole⟩ := h.step coarse ok nonzero half
    rw [moves, moved, ih whole small succeeds, List.length_cons, Nat.add_comm]

end Lease

/-! ## 3. A primitive made coarse -/

/-- A primitive that asks another one for a granule at least. -/
structure Rounded (granule : UInt64) (σ : Type) where
  inner : σ

namespace Rounded

variable {granule : UInt64} {σ : Type}

/-- The heap of the primitive that is asked. -/
def innerHeap (h : Heap (Rounded granule σ)) : Heap σ := ⟨h.state.inner, h.memory⟩

/-- A heap of the primitive that is asked, as one of the coarse primitive. -/
def ofHeap (h : Heap σ) : Heap (Rounded granule σ) := ⟨⟨h.state⟩, h.memory⟩

instance [Primitive σ] : Primitive (Rounded granule σ) where
  allocate h size := (Primitive.allocate (innerHeap h) (max size granule)).map id ofHeap
  deallocate h ptr := ofHeap (Primitive.deallocate (innerHeap h) ptr)
  usableSize h ptr := (Primitive.usableSize (innerHeap h) ptr).map id ofHeap
  lock h := ofHeap (Primitive.lock (innerHeap h))
  unlock h := ofHeap (Primitive.unlock (innerHeap h))
  acceptsInterior s := Primitive.acceptsInterior s.inner

theorem allocate_eq [Primitive σ] {h h' : Heap (Rounded granule σ)} {size : UInt64}
    {block : Option Addr} (answer : Primitive.allocate h size = (block, h')) :
    Primitive.allocate (innerHeap h) (max size granule) = (block, innerHeap h') :=
  congrArg (Prod.map id innerHeap) answer

end Rounded

namespace Primitive.Contract

variable {granule : UInt64} {σ : Type} [Primitive σ]

/-- The contract of a primitive that was made coarse. -/
def rounded (granule : UInt64) (c : Contract σ) : Contract (Rounded granule σ) where
  Valid h := c.Valid (Rounded.innerHeap h) ∧
    ∀ b ∈ c.live (Rounded.innerHeap h), granule.toNat ≤ b.capacity.toNat
  live h := c.live (Rounded.innerHeap h)
  interior := c.interior
  acceptsInterior_eq valid := c.acceptsInterior_eq valid.1
  proper valid := c.proper valid.1
  apart valid := c.apart valid.1
  refused := by
    intro h size h' valid answer
    have leads := c.refused valid.1 (Rounded.allocate_eq answer)
    exact ⟨⟨leads.valid, leads.live_eq ▸ valid.2⟩, leads.live_eq, leads.bytes⟩
  granted := by
    intro h size p h' valid answer
    obtain ⟨b, start, large, new, leads⟩ := c.granted valid.1 (Rounded.allocate_eq answer)
    rw [UInt64.toNat_max] at large
    have all : ∀ d ∈ insert b (c.live (Rounded.innerHeap h)), granule.toNat ≤ d.capacity.toNat := by
      intro d member
      rcases Set.mem_insert_iff.1 member with rfl | earlier
      · omega
      · exact valid.2 d earlier
    exact ⟨b, start, by omega, new, ⟨leads.valid, leads.live_eq ▸ all⟩, leads.live_eq, leads.bytes⟩
  released := by
    intro h b p valid member named
    have leads := c.released valid.1 member named
    have all : ∀ d ∈ c.live (Rounded.innerHeap h) \ {b}, granule.toNat ≤ d.capacity.toNat :=
      fun d left => valid.2 d left.1
    exact ⟨⟨leads.valid, leads.live_eq ▸ all⟩, leads.live_eq, leads.bytes⟩
  measured := by
    intro h b p valid member named
    obtain ⟨room, leads⟩ := c.measured valid.1 member named
    exact ⟨room, ⟨leads.valid, leads.live_eq ▸ valid.2⟩, leads.live_eq, leads.bytes⟩
  written := by
    intro h m valid outside
    obtain ⟨written, same⟩ := c.written valid.1 outside
    exact ⟨⟨written, same ▸ valid.2⟩, same⟩

theorem coarse_rounded (c : Contract σ) : (c.rounded granule).Coarse granule.toNat :=
  fun valid => valid.2

end Primitive.Contract

/-! ## 4. Programs -/

namespace Layer

/-- The sizes from one to another, in steps of one byte, without the first. -/
def byteSteps (start final : Nat) : List UInt64 :=
  (List.range (final - start)).map fun i => UInt64.ofNat (start + 1 + i)

variable {σ : Type} [Primitive σ]

theorem Backs.malloc_whole {s s' : Layer σ} {c : Contract σ} {own : Tenancy} {size : UInt64}
    {p : Addr} (h : s.Backs c own) (given : s.malloc size = (.ok p, s')) :
    (Lease.mk s' p).Whole c := by
  rcases h.malloc size with ⟨s'', outcome, -, -⟩ | ⟨b, s'', outcome, -, -, backs, -⟩
  · rw [outcome] at given
    cases given
  · rw [outcome] at given
    cases given
    exact ⟨_, b, backs, Tenancy.give_self, rfl⟩

theorem mem_byteSteps {start final size : UInt64}
    (member : size ∈ byteSteps start.toNat final.toNat) :
    start.toNat < size.toNat ∧ size.toNat ≤ final.toNat := by
  obtain ⟨i, less, rfl⟩ := List.mem_map.1 member
  have less := List.mem_range.1 less
  have bound : final.toNat < UInt64.size := final.toNat_lt
  rw [UInt64.toNat_ofNat_of_lt' (by omega)]
  omega

/-- Over any coarse primitive within its contract, and in every state that a legal
program leads to: a new block that grows byte by byte up to half of a granule moves with
every call. -/
theorem ofHeap_moves_each (c : Contract σ) {granule : Nat} (coarse : c.Coarse granule)
    {heap : Heap σ} (valid : c.Valid heap) (bare : c.live heap = ∅) (page : PageSize)
    (config : Config) (program : List Request) (legal : (ofHeap heap page config).LegalRun ∅ program) :
    (ofHeap heap page config).Throughout
      (fun s _ => ∀ start p s', s.malloc start = (.ok p, s') →
        ∀ final : UInt64, 2 * final.toNat ≤ granule →
          (Lease.mk s' p).Succeeds (byteSteps start.toNat final.toNat) →
          (Lease.mk s' p).moves (byteSteps start.toNat final.toNat) =
            final.toNat - start.toNat)
      ∅ program := by
  refine throughout_of_accounts valid bare page config ?_ legal
  intro s owned own _ accounts start p s' given final half succeeds
  have whole := accounts.backs.malloc_whole given
  have small : ∀ size ∈ byteSteps start.toNat final.toNat,
      size ≠ 0 ∧ 2 * size.toNat ≤ granule := by
    intro size member
    obtain ⟨above, within⟩ := mem_byteSteps member
    refine ⟨?_, by omega⟩
    rintro rfl
    exact absurd above (Nat.not_lt_zero _)
  rw [whole.moves_eq coarse small succeeds, byteSteps, List.length_map, List.length_range]

/-- An arena whose blocks are of half a kilobyte at least. -/
def coarseHeap : Heap (Rounded 512 Arena) := Rounded.ofHeap (Arena.fresh skewed)

/-- The contract of that arena. -/
def coarseContract : Contract (Rounded 512 Arena) := (Arena.contract skewed skewed_fits).rounded 512

/-- What a client has after its first request, for 100 bytes. -/
def coarseLease : Lease (Rounded 512 Arena) :=
  ⟨((ofHeap coarseHeap widePages).malloc 100).2, 0x40000010⟩

theorem coarseHeap_valid : coarseContract.Valid coarseHeap ∧ coarseContract.live coarseHeap = ∅ := by
  have bare := Arena.live_fresh skewed skewed_fits
  refine ⟨⟨Arena.valid_fresh skewed skewed_fits, fun b member => ?_⟩, bare⟩
  exact absurd (bare ▸ member) (Set.notMem_empty b)

theorem malloc_coarseHeap :
    (ofHeap coarseHeap widePages).malloc 100 = (.ok coarseLease.ptr, coarseLease.layer) :=
  Prod.ext (by decide +kernel) rfl

theorem coarseLease_succeeds : coarseLease.Succeeds (byteSteps 100 133) := by decide +kernel

theorem ofHeap_moves_each_coarseLease :
    coarseContract.Coarse 512 ∧
      coarseContract.Valid coarseHeap ∧ coarseContract.live coarseHeap = ∅ ∧
      (ofHeap coarseHeap widePages).LegalRun ∅ [] ∧
      (ofHeap coarseHeap widePages).malloc 100 = (.ok coarseLease.ptr, coarseLease.layer) ∧
      coarseLease.Succeeds (byteSteps 100 133) ∧ coarseLease.moves (byteSteps 100 133) = 33 := by
  have coarse : coarseContract.Coarse 512 := Primitive.Contract.coarse_rounded _
  obtain ⟨valid, bare⟩ := coarseHeap_valid
  have each := ofHeap_moves_each coarseContract coarse valid bare widePages {} [] trivial
  exact ⟨coarse, valid, bare, trivial, malloc_coarseHeap, coarseLease_succeeds,
    each 100 _ _ malloc_coarseHeap 133 (by decide) coarseLease_succeeds⟩

/-- A bound that is logarithmic in the sizes asked for, `k` being the logarithm, does not
hold over all primitives within their contract. -/
theorem logarithmic_in_request_false :
    ¬ ∀ (σ : Type) [Primitive σ] (c : Contract σ) (heap : Heap σ) (page : PageSize)
        (start final : UInt64) (p : Addr) (s : Layer σ),
      c.Valid heap → c.live heap = ∅ → 1 ≤ start.toNat → start.toNat ≤ final.toNat →
      (ofHeap heap page).malloc start = (.ok p, s) →
      (Lease.mk s p).Succeeds (byteSteps start.toNat final.toNat) →
      ∀ k, final.toNat ≤ 2 ^ k * start.toNat →
        (Lease.mk s p).moves (byteSteps start.toNat final.toNat) ≤ 16 * (1 + k) := by
  intro bounded
  obtain ⟨valid, bare⟩ := coarseHeap_valid
  have moves : coarseLease.moves (byteSteps 100 133) = 33 := by decide +kernel
  have few : coarseLease.moves (byteSteps 100 133) ≤ 16 * (1 + 1) :=
    bounded _ coarseContract coarseHeap widePages 100 133 _ _ valid bare (by decide) (by decide)
      malloc_coarseHeap coarseLease_succeeds 1 (by decide)
  rw [moves] at few
  exact absurd few (by decide)

end Layer

end MallocLayer
