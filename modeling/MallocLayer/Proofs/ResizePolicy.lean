import MallocLayer.Proofs.CallTrace
import MallocLayer.Proofs.FailedRealloc
import MallocLayer.Proofs.Growth

/-!
# The policy of reallocation

What `reallocWith` does with a size that is not zero, in every detail that the
primitive can see. With more than half of the usable size, and not more than all of
it, the block stays: the primitive is asked for its size and for nothing else. In
all other cases there is one call of `allocate`, for the exact size when the block
shrinks and with a quarter to spare when it grows. If that call fails the caller
keeps the block or loses it, as it chose.

`Resizing` has one constructor for each of the four ends, with the calls made on the
way there. `ofHeap_followsPolicy` says which of them a request comes to.
-/

namespace MallocLayer

open Primitive (Block Contract)

namespace Layer

variable {σ : Type}

/-! ## 1. The ends of a reallocation -/

/-- A block with this usable size is left where it is. -/
def Suits (usable size : Nat) : Prop := usable / 2 < size ∧ size ≤ usable

/-- The size of the block that takes the place of another. -/
def resizeTarget (usable size : Nat) : Nat :=
  if usable < size then max size (min (usable + usable / 4) (2 ^ 64 - 1)) else size

/-- The bytes of the blocks are as they were. -/
def KeepsBytes (blocks : Set Block) (s s' : Layer σ) : Prop :=
  ∀ d ∈ blocks, ∀ x, d.Holds x → s'.heap.memory.read x = s.heap.memory.read x

theorem KeepsBytes.trans {blocks : Set Block} {s m t : Layer σ} (first : KeepsBytes blocks s m)
    (second : KeepsBytes blocks m t) : KeepsBytes blocks s t :=
  fun d mem x inside => (second d mem x inside).trans (first d mem x inside)

variable [Primitive σ]

/-- What a request to resize the pointer `p` into the block `b` comes to, when the
usable size is `usable`. -/
inductive Resizing (c : Contract σ) (s : Layer (Audited σ)) (p : Addr) (b : Block)
    (usable : Nat) (size : UInt64) :
    OnFailure → Except AllocError Reallocated → Layer (Audited σ) → Prop
  /-- After the question for its size the block is where it was. -/
  | stays {onFailure : OnFailure} {s' : Layer (Audited σ)} {a n : UInt64}
      (suits : Suits usable size.toNat)
      (calls : s'.calls = s.calls ++ [.usableSize a n])
      (logs : (s.usableSize (some p)).2.OnlyLogs s') (origins_eq : s'.origins = s.origins)
      (live_eq : c.live (Audited.innerHeap s'.heap) = c.live (Audited.innerHeap s.heap))
      (bytes : KeepsBytes (c.live (Audited.innerHeap s.heap)) s s') :
      Resizing c s p b usable size onFailure (.ok (.inPlace p)) s'
  /-- A new block has the contents, and the old one is released. -/
  | moves {onFailure : OnFailure} {s' : Layer (Audited σ)} {a a' n target : UInt64} {d : Block}
      (unsuited : ¬ Suits usable size.toNat) (target_eq : target.toNat = resizeTarget usable size.toNat)
      (calls : s'.calls =
        s.calls ++ [.usableSize a n, .allocate target (some d.start), .deallocate a'])
      (named : b.Named c.interior a') (elsewhere : d.start ≠ p)
      (room : target.toNat ≤ (s'.usableSize (some d.start)).1.toNat)
      (copied : s'.heap.memory.readRange d.start (min usable size.toNat) =
        s.heap.memory.readRange p (min usable size.toNat))
      (fresh : d ∉ c.live (Audited.innerHeap s.heap))
      (live_eq : c.live (Audited.innerHeap s'.heap) =
        insert d (c.live (Audited.innerHeap s.heap) \ {b}))
      (entry : ∃ m, s.origins.Represents m ∧ s'.origins.Represents (m.erase p))
      (bytes : KeepsBytes (c.live (Audited.innerHeap s.heap) \ {b}) s s') :
      Resizing c s p b usable size onFailure (.ok (.moved d.start)) s'
  /-- There is no new block, and the caller has the old one. -/
  | keeps {s' : Layer (Audited σ)} {a n target : UInt64}
      (unsuited : ¬ Suits usable size.toNat) (target_eq : target.toNat = resizeTarget usable size.toNat)
      (calls : s'.calls = s.calls ++ [.usableSize a n, .allocate target none])
      (origins_eq : s'.origins = s.origins)
      (live_eq : c.live (Audited.innerHeap s'.heap) = c.live (Audited.innerHeap s.heap))
      (bytes : KeepsBytes (c.live (Audited.innerHeap s.heap)) s s') :
      Resizing c s p b usable size .keepBlock (.error (.outOfMemory target)) s'
  /-- There is no new block, and the old one is released. -/
  | loses {s' : Layer (Audited σ)} {a a' n target : UInt64}
      (unsuited : ¬ Suits usable size.toNat) (target_eq : target.toNat = resizeTarget usable size.toNat)
      (calls : s'.calls = s.calls ++ [.usableSize a n, .allocate target none, .deallocate a'])
      (named : b.Named c.interior a')
      (live_eq : c.live (Audited.innerHeap s'.heap) = c.live (Audited.innerHeap s.heap) \ {b})
      (entry : ∃ m, s.origins.Represents m ∧ s'.origins.Represents (m.erase p))
      (bytes : KeepsBytes (c.live (Audited.innerHeap s.heap) \ {b}) s s') :
      Resizing c s p b usable size .releaseBlock (.error (.outOfMemory target)) s'

/-! ## 2. Steps -/

section Steps

variable {c : Contract σ} {s s' t : Layer σ} {own : Tenancy} {p : Addr} {b d : Block}
  {old size n : UInt64}

theorem toNat_moveTarget_eq (old size : UInt64) :
    (moveTarget old size).toNat = resizeTarget old.toNat size.toNat := by
  unfold resizeTarget
  by_cases grows : old < size
  · rw [toNat_moveTarget grows, if_pos (UInt64.lt_iff_toNat_lt.1 grows)]
    rfl
  · rw [moveTarget, if_neg grows, if_neg fun less => grows (UInt64.lt_iff_toNat_lt.2 less)]

theorem suits_iff : old / 2 < size ∧ size ≤ old ↔ Suits old.toNat size.toNat := by
  rw [UInt64.lt_iff_toNat_lt, UInt64.le_iff_toNat_le, UInt64.toNat_div]
  rfl

/-- Where all pointers keep their bytes, so do all blocks. -/
theorem Backs.keepsBytes (h : s.Backs c own) (kept : s.Kept own s') :
    KeepsBytes (c.live s.heap) s s' := by
  intro d member
  obtain ⟨q, held⟩ := (h.mem_live d).1 member
  exact kept.bytes held

theorem Backs.keepsBytes_drop (h : s.Backs c own) (held : own p = some b)
    (kept : s.Kept (own.drop p) s') : KeepsBytes (c.live s.heap \ {b}) s s' := by
  rintro d ⟨member, ne⟩
  obtain ⟨q, held'⟩ := (h.injective.exists_drop held).2 ⟨(h.mem_live d).1 member, ne⟩
  exact kept.bytes held'

/-- A pointer that is given up takes its entry along. -/
theorem Backs.entry_free (h : s.Backs c own) (held : own p = some b) :
    ∃ m, s.origins.Represents m ∧ (s.free (some p)).origins.Represents (m.erase p) := by
  obtain ⟨m, represents, -⟩ := h.table
  exact ⟨m, represents, (OriginTable.take_represents represents (h.isAddress held).2).2⟩

theorem Backs.live_of_move (h : s.Backs c own) (held : own p = some b)
    (new : own d.start = none) (h' : s'.Backs c ((own.drop p).give d.start d)) :
    c.live s'.heap = insert d (c.live s.heap \ {b}) := by
  have new' : own.drop p d.start = none := by
    rwa [Tenancy.drop_of_ne (Tenancy.ne_of_held new held)]
  ext x
  rw [h'.mem_live, Tenancy.exists_give new', h.injective.exists_drop held, Set.mem_insert_iff,
    Set.mem_sdiff, Set.mem_singleton_iff, h.mem_live]

end Steps

/-! ## 3. The policy -/

variable {c : Contract σ} {s m s' : Layer (Audited σ)} {own : Tenancy} {owned : Ledger} {p : Addr}
  {b : Block} {old size a n : UInt64} {onFailure : OnFailure}
  {result : Except AllocError Reallocated}

/-- The layer `m` was told the usable size, and nothing else has happened since `s`. -/
structure Measured (c : Contract σ) (s : Layer (Audited σ)) (own : Tenancy) (p : Addr) (b : Block)
    (old a n : UInt64) (m : Layer (Audited σ)) : Prop where
  room : old.toNat = b.room p
  backs : m.Backs c.audited own
  kept : s.Kept own m
  origins : m.origins = s.origins
  calls : m.calls = s.calls ++ [.usableSize a n]

theorem Backs.measured (h : s.Backs c.audited own) (held : own p = some b) :
    ∃ a n, Measured c s own p b (s.usableSize (some p)).1 a n (s.usableSize (some p)).2 := by
  obtain ⟨room, backs, kept⟩ := h.usableSize held
  obtain ⟨a, n, calls⟩ := calls_usableSize s p
  exact ⟨a, n, room, backs, kept, rfl, calls⟩

namespace Measured

variable {t : Layer (Audited σ)} {q : Addr} {target : UInt64} {err : AllocError}

/-- The contents move to the block that was granted. -/
theorem moves (measured : Measured c s own p b old a n m) (h : s.Backs c.audited own)
    (held : own p = some b) (unsuited : ¬ Suits old.toNat size.toNat)
    (target_eq : target.toNat = resizeTarget old.toNat size.toNat)
    (least : size.toNat ≤ target.toNat) (answer : m.malloc target = (.ok q, t))
    (ends : ((t.mapMemory (·.copy q p (min old size))).free (some p)).OnlyLogs s') :
    Resizing c s p b old.toNat size onFailure (.ok (.moved q)) s' := by
  obtain ⟨d, rfl, large, new, backs, kept, origins⟩ := measured.backs.granted answer
  have room := measured.room
  have amount : (min old size).toNat = min old.toNat size.toNat := UInt64.toNat_min _ _
  have fits : (min old size).toNat ≤ d.capacity.toNat := by omega
  have within : (min old size).toNat ≤ b.room p := by omega
  have kept' := measured.kept.trans kept
  -- The copy reaches the new block only, so what is released is what it was before.
  have elsewhere : d.start ≠ p := Tenancy.ne_of_held new held
  have held' : own.give d.start d p = some b := by rwa [Tenancy.give_of_ne elsewhere.symm]
  have covers := backs.covers Tenancy.give_self ((room_start d).symm ▸ fits)
  obtain ⟨copied, -⟩ := backs.copy Tenancy.give_self covers p
  obtain ⟨a', named, released⟩ := copied.calls_free held'
  obtain ⟨table, represents, erased⟩ := copied.entry_free held'
  obtain ⟨backs', dropped, contents⟩ := backs.replace new held fits within
  have calls : s'.calls =
      s.calls ++ [.usableSize a n, .allocate target (some d.start), .deallocate a'] := by
    rw [ends.calls, released, calls_mapMemory, calls_of_granted answer, measured.calls]
    simp
  have backs'' := ends.backs backs'
  have usable := (backs''.usableSize Tenancy.give_self).1
  have fresh : d ∉ c.live (Audited.innerHeap s.heap) := by
    intro old'
    obtain ⟨x, held''⟩ := (h.mem_live d).1 old'
    exact backs.unused new x held''
  refine .moves unsuited target_eq calls named elsewhere ?_ ?_ fresh
    (h.live_of_move held new backs'') ⟨table, ?_, ?_⟩
    (h.keepsBytes_drop held (((kept'.drop p).trans dropped).trans (ends.kept _)))
  · rw [usable, room_start]
    omega
  · have same := congrArg (List.take (min old size).toNat)
      (kept'.readRange held (h.proper held) (h.holds held))
    have fits' : (min old size).toNat ≤ d.room d.start := (room_start d).symm ▸ fits
    rw [same, Memory.take_readRange fits', Memory.take_readRange within, amount] at contents
    rwa [ends.heap]
  · exact (origins.trans measured.origins) ▸ represents
  · exact ends.origins ▸ erased

/-- No block was granted, and the caller keeps the old one. -/
theorem keeps (measured : Measured c s own p b old a n m) (h : s.Backs c.audited own)
    (unsuited : ¬ Suits old.toNat size.toNat)
    (target_eq : target.toNat = resizeTarget old.toNat size.toNat)
    (answer : m.malloc target = (.error err, t)) (ends : t.OnlyLogs s') :
    Resizing c s p b old.toNat size .keepBlock (.error (.outOfMemory target)) s' := by
  obtain ⟨backs, kept, origins⟩ := measured.backs.refused answer
  have calls : s'.calls = s.calls ++ [.usableSize a n, .allocate target none] := by
    rw [ends.calls, calls_of_refused answer, measured.calls]
    simp
  exact .keeps unsuited target_eq calls ((ends.origins.trans origins).trans measured.origins)
    (h.live_of_same (ends.backs backs))
    (h.keepsBytes ((measured.kept.trans kept).trans (ends.kept own)))

/-- No block was granted, and the old one is released. -/
theorem loses (measured : Measured c s own p b old a n m) (h : s.Backs c.audited own)
    (held : own p = some b) (unsuited : ¬ Suits old.toNat size.toNat)
    (target_eq : target.toNat = resizeTarget old.toNat size.toNat)
    (answer : m.malloc target = (.error err, t)) (ends : (t.free (some p)).OnlyLogs s') :
    Resizing c s p b old.toNat size .releaseBlock (.error (.outOfMemory target)) s' := by
  obtain ⟨backs, kept, origins⟩ := measured.backs.refused answer
  obtain ⟨backs', dropped⟩ := backs.free held
  obtain ⟨a', named, released⟩ := backs.calls_free held
  obtain ⟨table, represents, erased⟩ := backs.entry_free held
  have calls : s'.calls = s.calls ++ [.usableSize a n, .allocate target none, .deallocate a'] := by
    rw [ends.calls, released, calls_of_refused answer, measured.calls]
    simp
  have kept' := (measured.kept.trans kept).drop p
  refine .loses unsuited target_eq calls named (h.live_of_drop held (ends.backs backs'))
    ⟨table, ?_, ?_⟩ (h.keepsBytes_drop held ((kept'.trans dropped).trans (ends.kept _)))
  · exact (origins.trans measured.origins) ▸ represents
  · exact ends.origins ▸ erased

end Measured

/-- The end that a request for a size that is not zero comes to. -/
theorem Backs.reallocWith_resizing (h : s.Backs c.audited own) (held : own p = some b)
    (nonzero : size ≠ 0) (done : s.reallocWith (some p) size onFailure = (result, s')) :
    Resizing c s p b (s.usableSize (some p)).1.toNat size onFailure result s' := by
  obtain ⟨a, n, measured⟩ := h.measured held
  simp only [reallocWith, if_neg nonzero] at done
  split at done
  · next suits =>
    cases done
    have logs := (OnlyLogs.refl (s.usableSize (some p)).2).trace
      { level := .trace, symbol := "realloc", event := "realloc_in_place",
        outcome := "success", ptr := some p, size := some size }
    refine .stays (suits_iff.1 suits) (logs.calls.trans measured.calls) logs
      (logs.origins.trans measured.origins) (h.live_of_same (logs.backs measured.backs))
      (h.keepsBytes (measured.kept.trans (logs.kept own)))
  · next outside =>
    have unsuited : ¬ Suits _ size.toNat := fun suits => outside (suits_iff.2 suits)
    have target_eq := toNat_moveTarget_eq (s.usableSize (some p)).1 size
    have least := le_moveTarget (s.usableSize (some p)).1 size
    simp only [reallocMove] at done
    rcases answer : (s.usableSize (some p)).2.malloc (moveTarget (s.usableSize (some p)).1 size)
      with ⟨err | q, t⟩
    · rw [answer] at done
      obtain rfl := malloc_error answer
      cases onFailure with
      | keepBlock =>
        cases done
        exact measured.keeps h unsuited target_eq answer ((OnlyLogs.refl t).trace _)
      | releaseBlock =>
        cases done
        exact measured.loses h held unsuited target_eq answer ((OnlyLogs.refl _).trace _)
    · rw [answer] at done
      cases done
      exact measured.moves h held unsuited target_eq least answer ((OnlyLogs.refl _).trace _)

/-- What the answer to a request to resize the pointer `p` means. -/
structure FollowsPolicy (c : Contract σ) (s : Layer (Audited σ)) (p : Addr) (size : UInt64)
    (onFailure : OnFailure) (result : Except AllocError Reallocated) (s' : Layer (Audited σ)) :
    Prop where
  inPlace_iff : result = .ok (.inPlace p) ↔ Suits (s.usableSize (some p)).1.toNat size.toNat
  resizing : ∃ b ∈ c.live (Audited.innerHeap s.heap), b.Holds p ∧
    Resizing c s p b (s.usableSize (some p)).1.toNat size onFailure result s'

theorem Resizing.inPlace_iff {usable : Nat}
    (h : Resizing c s p b usable size onFailure result s') :
    result = .ok (.inPlace p) ↔ Suits usable size.toNat := by
  cases h with
  | stays suits => exact iff_of_true rfl suits
  | moves unsuited => exact iff_of_false nofun unsuited
  | keeps unsuited => exact iff_of_false nofun unsuited
  | loses unsuited => exact iff_of_false nofun unsuited

theorem Accounts.followsPolicy (h : s.Accounts c.audited owned own) (mine : p ∈ owned)
    (nonzero : size ≠ 0) (done : s.reallocWith (some p) size onFailure = (result, s')) :
    FollowsPolicy c s p size onFailure result s' := by
  obtain ⟨b, held⟩ := (h.lists p).1 mine
  have resizing := h.backs.reallocWith_resizing held nonzero done
  exact ⟨resizing.inPlace_iff, b, h.backs.mem held, h.backs.holds held, resizing⟩

/-- In every state that a legal program over any conforming primitive leads to, every
pointer of the client is resized to a size that is not zero as the policy says. -/
theorem ofHeap_followsPolicy (c : Contract σ) {heap : Heap σ} (valid : c.Valid heap)
    (bare : c.live heap = ∅) (page : PageSize) (config : Config) (program : List Request)
    (legal : (ofHeap heap page config).LegalRun ∅ program) :
    (ofHeap (Audited.ofHeap heap) page config).Throughout
      (fun s owned => ∀ p ∈ owned, ∀ size ≠ 0, ∀ onFailure result s',
        s.reallocWith (some p) size onFailure = (result, s') →
        FollowsPolicy c s p size onFailure result s')
      ∅ program := by
  have legal' : (ofHeap (Audited.ofHeap heap) page config).LegalRun ∅ program :=
    (along_legalBy Audited.projects _).1 legal
  have clean : c.audited.Valid (Audited.ofHeap heap) := ⟨valid, nofun⟩
  refine throughout_of_accounts clean bare page config ?_ legal'
  intro s owned own _ accounts p mine size nonzero onFailure result s' done
  exact accounts.followsPolicy mine nonzero done

/-- A layer of which the client has one pointer, inside its block. -/
def skewedPointer : Layer (Audited Arena) :=
  ((ofHeap (Audited.ofHeap (Arena.fresh skewed)) widePages).serve (.memalign 4096 100)).2

theorem ofHeap_followsPolicy_skewedPointer :
    (Arena.contract skewed skewed_fits).Valid (Arena.fresh skewed) ∧
      (Arena.contract skewed skewed_fits).live (Arena.fresh skewed) = ∅ ∧
      (ofHeap (Arena.fresh skewed) widePages).LegalRun ∅ [.memalign 4096 100] ∧
      FollowsPolicy (Arena.contract skewed skewed_fits) skewedPointer 0x40002000 9000 .releaseBlock
        (skewedPointer.reallocWith (some 0x40002000) 9000 .releaseBlock).1
        (skewedPointer.reallocWith (some 0x40002000) 9000 .releaseBlock).2 := by
  have valid := Arena.valid_fresh skewed skewed_fits
  have bare := Arena.live_fresh skewed skewed_fits
  have legal : (ofHeap (Arena.fresh skewed) widePages).LegalRun ∅ [.memalign 4096 100] := by decide +kernel
  have nonzero : (9000 : UInt64) ≠ 0 := by decide
  obtain ⟨-, follows⟩ := ofHeap_followsPolicy _ valid bare widePages {} [.memalign 4096 100] legal
  refine ⟨valid, bare, legal, follows 0x40002000 ?_ 9000 nonzero .releaseBlock _ _ Prod.mk.eta.symm⟩
  decide +kernel

/-- Up to half of the usable size moves the block, one byte more does not. -/
example : ¬ Suits 129 64 ∧ Suits 129 65 ∧ Suits 129 129 ∧ resizeTarget 129 130 = 161 := by
  unfold Suits
  decide

end Layer

end MallocLayer
