import MallocLayer.Proofs.ArenaContract
import MallocLayer.Proofs.Policy

/-!
# The arena follows a policy

All that an arena does is settled by its script and by what happened to it, so
it follows a policy: the one that replays the history. Whether the script
accepts addresses inside a block makes no difference to the replay, and so the
two arenas that differ in this alone are variants of one primitive.
-/

namespace MallocLayer.Arena

open Primitive (Deed Policy Variants)

/-- The arena with another answer to the question whether it accepts addresses
inside a block. -/
def accepting (s : Arena) (interior : Bool) : Arena :=
  { s with script := { s.script with interior := interior } }

/-- The arena to which all this happened, latest first. -/
def replay (script : Script) : List Deed → Arena
  | [] => { script }
  | .allocate size :: past => (allocate ⟨replay script past, .empty⟩ size).2.state
  | .release b :: past => (deallocate ⟨replay script past, .empty⟩ b.start).state
  | .measure _ :: past => replay script past

/-- The arena places blocks as the replay would. A fresh block is poisoned, and
nothing else is written. -/
def policy (script : Script) : Policy where
  block past size := ((replay script past).nextBlock? size).map Block.range
  memory past deed bytes x :=
    match deed with
    | .allocate size =>
      match (replay script past).nextBlock? size, script.poison with
      | some b, some byte =>
        if x - address b.start < UInt64.ofNat b.capacity then byte else bytes x
      | _, _ => bytes x
    | .release _ | .measure _ => bytes x

variable {script : Script} {s : Arena} {interior : Bool} {size : UInt64} {m : Memory}

@[simp] theorem nextBlock?_accepting :
    (s.accepting interior).nextBlock? size = s.nextBlock? size := rfl

theorem allocate_fst (h : Heap Arena) (size : UInt64) :
    (allocate h size).1 = ((h.state.nextBlock? size).map Block.range).map Primitive.Block.start := by
  unfold allocate
  rcases h.state.nextBlock? size with _ | b <;> rfl

theorem mem_allocate {h : Heap Arena} {b : Block} (next : h.state.nextBlock? size = some b) :
    b ∈ (allocate h size).2.state.blocks := by
  simp [allocate, next]

theorem read_allocate (h : Heap Arena) (size : UInt64) (x : Addr) :
    (allocate h size).2.memory.read x =
      match h.state.nextBlock? size, h.state.script.poison with
      | some b, some byte =>
        if x - address b.start < UInt64.ofNat b.capacity then byte else h.memory.read x
      | _, _ => h.memory.read x := by
  unfold allocate
  rcases h.state.nextBlock? size with _ | b
  · rfl
  · rcases h.state.script.poison with _ | byte
    · rfl
    · exact Memory.read_store ..

theorem allocate_accepting :
    (allocate ⟨s.accepting interior, m⟩ size).2.state =
      (allocate ⟨s, .empty⟩ size).2.state.accepting interior := by
  simp only [allocate, nextBlock?_accepting]
  rcases s.nextBlock? size with _ | b <;> rfl

theorem deallocate_accepting {p q : Addr} {b : Block}
    (found : (s.accepting interior).blockOf? p = some b) (found' : s.blockOf? q = some b) :
    (deallocate ⟨s.accepting interior, m⟩ p).state =
      (deallocate ⟨s, .empty⟩ q).state.accepting interior := by
  simp only [deallocate, found, found']
  rfl

/-- The heap of an arena to which the history happened. -/
def Seen (script : Script) (interior : Bool) (past : List Deed) (h : Heap Arena) : Prop :=
  h.state = (replay script past).accepting interior

/-- The replay finds the block that the arena finds. -/
theorem blockOf?_replay {past : List Deed} {b : Block} (order : s.Orderly) (fits : Fits s.script)
    (mem : b ∈ s.blocks) (same : s = (replay script past).accepting interior) :
    (replay script past).blockOf? b.range.start = some b := by
  subst same
  have order' : (replay script past).Orderly := ⟨order.sound, order.below, order.stacked⟩
  exact order'.blockOf?_eq fits mem (.inl rfl)

theorem follows (fits : Fits script) (interior : Bool) :
    (contract { script with interior := interior } fits).Follows (policy script)
      (Seen script interior) where
  allocated := by
    rintro past h size answer h' ⟨valid, order⟩ seen answered
    obtain ⟨rfl, rfl⟩ : (allocate h size).1 = answer ∧ (allocate h size).2 = h' :=
      Prod.mk.inj answered
    have next : h.state.nextBlock? size = (replay script past).nextBlock? size :=
      seen ▸ nextBlock?_accepting
    refine ⟨?_, ?_, ?_, fun x => ?_⟩
    · rw [allocate_fst, next]
      rfl
    · intro r placed
      obtain ⟨b, found, rfl⟩ := Option.map_eq_some_iff.1 placed
      exact ⟨b, mem_allocate (next.trans found), rfl⟩
    · obtain ⟨_, m⟩ := h
      cases seen
      exact allocate_accepting
    · rw [read_allocate, next, valid]
      rfl
  released := by
    rintro past h _ p ⟨valid, order⟩ seen ⟨b, mem, rfl⟩ named
    have fits' : Fits h.state.script := valid ▸ fits
    have accepts : h.state.script.interior = interior := congrArg Script.interior valid
    have found := order.blockOf?_eq fits' mem (accepts.symm ▸ named)
    have found' := blockOf?_replay order fits' mem seen
    refine ⟨?_, fun x => ?_⟩
    · obtain ⟨_, m⟩ := h
      cases seen
      exact deallocate_accepting found found'
    · change (deallocate h p).memory.read x = h.memory.read x
      simp only [deallocate, found]
  measured _ seen _ _ := ⟨seen, fun _ => rfl⟩
  written _ seen _ := seen

/-- The arenas that differ in nothing but whether they accept addresses inside a
block. -/
def variants (script : Script) (fits : Fits script) : Variants Arena Arena where
  lenient := contract { script with interior := true } fits
  strict := contract { script with interior := false } fits
  lenient_interior := rfl
  strict_interior := rfl
  policy := policy script
  Seen := Seen script true
  Seen' := Seen script false
  lenient_follows := follows fits true
  strict_follows := follows fits false

theorem variants_fresh (script : Script) (fits : Fits script) :
    (variants script fits).Alike (fresh { script with interior := true })
      (fresh { script with interior := false }) :=
  ⟨⟨[], rfl, rfl⟩, fun _ => rfl⟩

end MallocLayer.Arena
