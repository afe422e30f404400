import MallocLayer.Proofs.Projection
import MallocLayer.Proofs.Refinement

/-!
# Ownership

After every step of a legal program, the pointers of the client and the live
blocks of the primitive are in one-to-one correspondence: nothing leaks, and
nothing is released twice. All that the layer ever asks of the primitive is
about blocks that are live when it asks, and a primitive that knows the starts
of its blocks only is never given anything else.

To speak of all the calls of a run, the primitive is audited: every call is
noted with the heap that it was made on. By `Audited.projects` the layer answers
as it would without the audit.
-/

namespace MallocLayer

open Primitive (Block Contract)

/-! ## 1. Audits -/

/-- A primitive with the calls that were made to it, each with the heap that it
found, latest first. -/
structure Audited (σ : Type) where
  inner : σ
  calls : List (Heap σ × PrimitiveCall)

namespace Audited

variable {σ : Type}

/-- A heap with no calls noted yet. -/
def ofHeap (h : Heap σ) : Heap (Audited σ) := ⟨⟨h.state, []⟩, h.memory⟩

/-- The heap of the audited primitive itself. -/
def innerHeap (h : Heap (Audited σ)) : Heap σ := ⟨h.state.inner, h.memory⟩

/-- The heap after a call that left the audited primitive at `inner`. -/
def after (h : Heap (Audited σ)) (inner : Heap σ) (call : PrimitiveCall) : Heap (Audited σ) :=
  ⟨⟨inner.state, (innerHeap h, call) :: h.state.calls⟩, inner.memory⟩

/-- An audit changes no answer. -/
instance [Primitive σ] : Primitive (Audited σ) where
  allocate h size :=
    let (block, inner) := Primitive.allocate (innerHeap h) size
    (block, after h inner (.allocate size block))
  deallocate h ptr := after h (Primitive.deallocate (innerHeap h) ptr) (.deallocate ptr)
  usableSize h ptr :=
    let (size, inner) := Primitive.usableSize (innerHeap h) ptr
    (size, after h inner (.usableSize ptr size))
  lock h := after h (Primitive.lock (innerHeap h)) .lock
  unlock h := after h (Primitive.unlock (innerHeap h)) .unlock
  acceptsInterior s := Primitive.acceptsInterior s.inner

theorem allocate_eq [Primitive σ] (h : Heap (Audited σ)) (size : UInt64) :
    Primitive.allocate h size =
      ((Primitive.allocate (innerHeap h) size).1,
        after h (Primitive.allocate (innerHeap h) size).2
          (.allocate size (Primitive.allocate (innerHeap h) size).1)) :=
  rfl

/-- Without its audit, the primitive is the one that was audited. -/
theorem projects [Primitive σ] : Primitive.Projects (@innerHeap σ) where
  allocate _ _ := rfl
  deallocate _ _ := rfl
  usableSize _ _ := rfl
  acceptsInterior _ := rfl
  mapMemory _ _ := rfl

end Audited

/-- The call names a live block, or is about none. -/
def PrimitiveCall.Permitted {σ : Type} [Primitive σ] (c : Contract σ) (h : Heap σ) :
    PrimitiveCall → Prop
  | .deallocate p | .usableSize p _ => ∃ b ∈ c.live h, b.Named c.interior p
  | _ => True

namespace Primitive.Contract

variable {σ : Type} [Primitive σ]

/-- All the calls noted were permitted. -/
def Clean (c : Contract σ) (h : Heap (Audited σ)) : Prop :=
  ∀ call ∈ h.state.calls, call.2.Permitted c call.1

variable {c : Contract σ} {h : Heap (Audited σ)} {inner : Heap σ} {call : PrimitiveCall}

theorem Clean.after (clean : c.Clean h) (permitted : call.Permitted c (Audited.innerHeap h)) :
    c.Clean (Audited.after h inner call) := by
  intro noted member
  rcases List.mem_cons.1 member with rfl | earlier
  · exact permitted
  · exact clean noted earlier

/-- A permitted call of the audited primitive leads where the call leads. -/
theorem View.Leads.audited {blocks : Set Block} (clean : c.Clean h)
    (permitted : call.Permitted c (Audited.innerHeap h))
    (leads : c.Leads (Audited.innerHeap h) blocks inner) :
    View.Leads ⟨fun h => c.Valid (Audited.innerHeap h) ∧ c.Clean h,
      fun h => c.live (Audited.innerHeap h)⟩ h blocks (Audited.after h inner call) where
  valid := ⟨leads.valid, clean.after permitted⟩
  live_eq := leads.live_eq
  bytes := leads.bytes

/-- An audited primitive keeps the contract, and its audit clean. -/
def audited (c : Contract σ) : Contract (Audited σ) where
  Valid h := c.Valid (Audited.innerHeap h) ∧ c.Clean h
  live h := c.live (Audited.innerHeap h)
  interior := c.interior
  acceptsInterior_eq valid := c.acceptsInterior_eq valid.1
  proper valid := c.proper valid.1
  apart valid := c.apart valid.1
  refused := by
    intro h size h' valid answer
    rcases inner : Primitive.allocate (Audited.innerHeap h) size with ⟨block, heap⟩
    rw [Audited.allocate_eq, inner] at answer
    cases answer
    exact View.Leads.audited valid.2 trivial (c.refused valid.1 inner)
  granted := by
    intro h size p h' valid answer
    rcases inner : Primitive.allocate (Audited.innerHeap h) size with ⟨block, heap⟩
    rw [Audited.allocate_eq, inner] at answer
    cases answer
    obtain ⟨b, start, large, new, leads⟩ := c.granted valid.1 inner
    exact ⟨b, start, large, new, View.Leads.audited valid.2 trivial leads⟩
  released valid member named :=
    View.Leads.audited valid.2 ⟨_, member, named⟩ (c.released valid.1 member named)
  measured valid member named :=
    have measured := c.measured valid.1 member named
    ⟨measured.1, View.Leads.audited valid.2 ⟨_, member, named⟩ measured.2⟩
  written valid outside :=
    have written := c.written valid.1 outside
    ⟨⟨written.1, valid.2⟩, written.2⟩

end Primitive.Contract

/-! ## 2. The account of a client -/

namespace Layer

variable {σ : Type} [Primitive σ]

/-- What holds between a client, the layer and the audited primitive. -/
structure Sound (c : Contract σ) (s : Layer (Audited σ)) (owned : Ledger) : Prop where
  /-- Each pointer of the client lies in exactly one live block. -/
  block : ∀ p ∈ owned, ∃! b, b ∈ c.live (Audited.innerHeap s.heap) ∧ b.Holds p
  /-- Each live block holds exactly one pointer of the client. -/
  pointer : ∀ b ∈ c.live (Audited.innerHeap s.heap), ∃! p, p ∈ owned ∧ b.Holds p
  /-- Every call so far named a block that was live. -/
  permitted : ∀ call ∈ s.heap.state.calls, call.2.Permitted c call.1
  /-- The side table has the client's pointers that are not the start of their
  block, when the primitive needs to know the start, and no others. -/
  tracked : ∀ p o, p ≠ OriginTable.tombstone → (s.origins.originOf p = some o ↔
    c.interior = false ∧ p ∈ owned ∧ p ≠ o ∧
      ∃ b ∈ c.live (Audited.innerHeap s.heap), b.start = o ∧ b.Holds p)
  /-- The layer counts those pointers. -/
  counted : s.trackedAlignedBlocks = {p | c.interior = false ∧ p ∈ owned ∧
    ∀ b ∈ c.live (Audited.innerHeap s.heap), b.start ≠ p}.ncard

theorem Accounts.sound {c : Contract σ} {s : Layer (Audited σ)} {owned : Ledger} {own : Tenancy}
    (h : s.Accounts c.audited owned own) : s.Sound c owned := by
  have live {b : Block} : b ∈ c.live (Audited.innerHeap s.heap) ↔ ∃ p, own p = some b :=
    h.backs.mem_live b
  have same {p : Addr} {b d : Block} (held : own p = some b)
      (member : d ∈ c.live (Audited.innerHeap s.heap)) (inside : d.Holds p) : d = b := by
    obtain ⟨q, held'⟩ := live.1 member
    obtain rfl := h.backs.apart held' held inside (h.backs.holds held)
    exact Option.some.inj (held'.symm.trans held)
  exact
    { block := fun p member => by
        obtain ⟨b, held⟩ := (h.lists p).1 member
        exact ⟨b, ⟨live.2 ⟨p, held⟩, h.backs.holds held⟩, fun d both => same held both.1 both.2⟩
      pointer := fun b member => by
        obtain ⟨p, held⟩ := live.1 member
        refine ⟨p, ⟨(h.lists p).2 ⟨b, held⟩, h.backs.holds held⟩, ?_⟩
        rintro q ⟨mine, inside⟩
        obtain ⟨d, held'⟩ := (h.lists q).1 mine
        exact h.backs.apart held' held (h.backs.holds held') inside
      permitted := h.backs.valid.2
      tracked := fun p o reserved => by
        obtain ⟨m, represents, entries⟩ := h.backs.table
        rw [OriginTable.originOf_eq represents reserved, entries, Contract.originIn_eq_some]
        refine and_congr_right fun _ => ⟨?_, ?_⟩
        · rintro ⟨b, held, rfl, ne⟩
          exact ⟨(h.lists p).2 ⟨b, held⟩, ne, b, live.2 ⟨p, held⟩, rfl, h.backs.holds held⟩
        · rintro ⟨mine, ne, b, member, rfl, inside⟩
          obtain ⟨d, held⟩ := (h.lists p).1 mine
          obtain rfl := same held member inside
          exact ⟨b, held, rfl, ne⟩
      counted := by
        obtain ⟨m, represents, entries⟩ := h.backs.table
        refine represents.live_eq_ncard.trans (congrArg Set.ncard (Set.ext fun p => ?_))
        rw [Set.mem_ofPred_eq, Set.mem_ofPred_eq, Std.ExtHashMap.mem_iff_isSome_getElem?,
          Option.isSome_iff_exists, entries]
        simp only [Contract.originIn_eq_some, exists_and_left]
        refine and_congr_right fun _ => ⟨?_, ?_⟩
        · rintro ⟨o, b, held, rfl, ne⟩
          refine ⟨(h.lists p).2 ⟨b, held⟩, ?_⟩
          rintro d member rfl
          obtain rfl := same held member (c.proper h.backs.valid.1 d member).holds_start
          exact ne rfl
        · rintro ⟨mine, starts⟩
          obtain ⟨b, held⟩ := (h.lists p).1 mine
          exact ⟨b.start, b, held, rfl, (starts b (live.2 ⟨p, held⟩)).symm⟩ }

/-- Over any primitive within its contract, every legal program that starts with
an empty heap keeps the account of the client sound, as the audit shows. -/
theorem ofHeap_sound (c : Contract σ) {heap : Heap σ} (valid : c.Valid heap)
    (bare : c.live heap = ∅) (page : PageSize) (config : Config) (program : List Request)
    (legal : (ofHeap heap page config).LegalRun ∅ program) :
    (ofHeap (Audited.ofHeap heap) page config).Throughout (Sound c) ∅ program := by
  have legal' : (ofHeap (Audited.ofHeap heap) page config).LegalRun ∅ program :=
    (along_legalBy Audited.projects _).1 legal
  have clean : c.audited.Valid (Audited.ofHeap heap) := ⟨valid, nofun⟩
  exact throughout_of_accounts clean bare page config (fun _ _ _ _ => Accounts.sound) legal'

end Layer

end MallocLayer
