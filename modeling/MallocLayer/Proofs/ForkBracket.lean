import MallocLayer.Fork
import MallocLayer.Primitive.Arena
import MallocLayer.Proofs.LifecycleLog
import Mathlib.Algebra.BigOperators.Group.Finset.Piecewise
import Mathlib.Algebra.Order.BigOperators.Group.Finset
import Mathlib.Data.Fintype.Basic

/-!
# Fork brackets

Several coordinators share one layer, and their hooks run in any order: doubled,
missing, crossed. The layer has three things to hold across a fork, which are the
side table, the log and the lock of the primitive.

At any time at most one prepare is outstanding, and `holder` says whose, by
looking at nothing but the order of the hooks. `run_bracketed` says that the
coordinators and the three locks agree with it after every sequence of hooks, and
that the next hook, whichever it is, releases nothing that its own coordinator does
not hold. The counters are words: after fewer hooks than there are words, they
tally with the calls that the primitive got.

What a hook can do is said once, in `Steps`. All else is read off its four cases.
-/

namespace MallocLayer

open Lifecycle

/-! ## 1. The lock of a primitive -/

/-- What a call does to the lock. Locking it twice, or unlocking what is not
locked, has no outcome. -/
def PrimitiveCall.lockAfter (held : Bool) : PrimitiveCall → Option Bool
  | .lock => if held then none else some true
  | .unlock => if held then some false else none
  | _ => some held

namespace Layer

variable {σ : Type}

/-- The calls made to the primitive, oldest first. -/
def primitiveCalls (s : Layer (Recorded σ)) : List PrimitiveCall := s.heap.state.calls.toList

/-- Whether the primitive is locked, if its lock was never misused. -/
def locked? (s : Layer (Recorded σ)) : Option Bool :=
  s.primitiveCalls.foldlM PrimitiveCall.lockAfter false

theorem locked?_append {s t : Layer (Recorded σ)} {calls : List PrimitiveCall} {held : Bool}
    (appended : t.primitiveCalls = s.primitiveCalls ++ calls) (before : s.locked? = some held) :
    t.locked? = calls.foldlM PrimitiveCall.lockAfter held := by
  unfold locked? at *
  rw [appended, List.foldlM_append, before]
  rfl

/-- Other calls leave the lock as it is. -/
theorem foldlM_lockAfter {calls : List PrimitiveCall} (other : .lock ∉ calls ∧ .unlock ∉ calls)
    (held : Bool) : calls.foldlM PrimitiveCall.lockAfter held = some held := by
  induction calls with
  | nil => rfl
  | cons call rest ih =>
    obtain ⟨noLock, noUnlock⟩ := other
    have after : call.lockAfter held = some held := by
      cases call with
      | lock => exact absurd List.mem_cons_self noLock
      | unlock => exact absurd List.mem_cons_self noUnlock
      | _ => rfl
    rw [List.foldlM_cons, after]
    exact ih ⟨List.not_mem_of_not_mem_cons noLock, List.not_mem_of_not_mem_cons noUnlock⟩

theorem primitiveCalls_lockPrimitive [Primitive σ] (s : Layer (Recorded σ)) :
    s.lockPrimitive.primitiveCalls = s.primitiveCalls ++ [.lock] := Array.toList_push ..

theorem primitiveCalls_unlockPrimitive [Primitive σ] (s : Layer (Recorded σ)) :
    s.unlockPrimitive.primitiveCalls = s.primitiveCalls ++ [.unlock] := Array.toList_push ..

end Layer

namespace Fork

/-! ## 2. Coordinators over one layer -/

/-- A hook that a process runs around its duplication. -/
inductive Hook where
  | prepare
  | resume (side : Side)
deriving DecidableEq, Repr

/-- Coordinators over one layer. -/
structure Fleet (ι σ : Type) where
  coordinator : ι → Coordinator
  layer : Layer σ

section Holder

variable {ι : Type} [DecidableEq ι]

/-- Whose prepare is outstanding after a hook. -/
def holderAfter (holder : Option ι) (i : ι) : Hook → Option ι
  | .prepare => holder.or (some i)
  | .resume _ => if holder = some i then none else holder

/-- Whose prepare is outstanding after some hooks, the first one first. -/
def holder (hooks : List (ι × Hook)) : Option ι :=
  hooks.foldl (fun holder (i, hook) => holderAfter holder i hook) none

end Holder

namespace Fleet

variable {ι σ : Type} [DecidableEq ι]

/-- New coordinators over a layer. -/
def ofLayer (s : Layer σ) : Fleet ι σ := ⟨fun _ => {}, s⟩

/-- One coordinator and the layer change. -/
def set (f : Fleet ι σ) (i : ι) (next : Coordinator × Layer σ) : Fleet ι σ :=
  ⟨Function.update f.coordinator i next.1, next.2⟩

variable [Primitive σ]

/-- Runs a hook. A prepare that has to wait changes nothing. -/
def step (f : Fleet ι σ) (i : ι) : Hook → Fleet ι σ
  | .prepare => ((f.coordinator i).prepare f.layer).elim f (f.set i)
  | .resume side => f.set i ((f.coordinator i).resume side f.layer)

/-- Runs hooks one after the other. -/
def run (f : Fleet ι σ) (hooks : List (ι × Hook)) : Fleet ι σ :=
  hooks.foldl (fun f (i, hook) => f.step i hook) f

end Fleet

/-! ## 3. What a hook can do -/

/-- The four things that a hook of coordinator `i` can do. -/
inductive Fleet.Steps {ι σ : Type} [DecidableEq ι] [Primitive σ] (f : Fleet ι σ) (i : ι) :
    Hook → Fleet ι σ → Prop
  | waits (frozen : f.layer.log.frozen = true) : f.Steps i .prepare f
  | takes (e : Event) (free : f.layer.log.frozen = false) :
    f.Steps i .prepare <| f.set i
      ({ f.coordinator i with phase := .prepared, prepares := (f.coordinator i).prepares + 1 },
        (f.layer.record e).freeze.lockPrimitive)
  | refuses (side : Side) (e : Event) (error : e.level = .error)
      (idle : (f.coordinator i).phase = .idle) :
    f.Steps i (.resume side) <| f.set i
      ({ f.coordinator i with unmatchedResumes := (f.coordinator i).unmatchedResumes + 1 },
        f.layer.tryRecord e)
  | releases (side : Side) (e : Event) (prepared : (f.coordinator i).phase = .prepared) :
    f.Steps i (.resume side) <| f.set i
      ({ f.coordinator i with phase := .idle }.countResume side,
        f.layer.unlockPrimitive.thaw.tryRecord e)

namespace Fleet

section Steps

variable {ι σ : Type} [Primitive σ] (f : Fleet ι σ) (i : ι)

theorem prepare_eq_none :
    (f.coordinator i).prepare f.layer = none ↔ f.layer.log.frozen = true := by
  unfold Coordinator.prepare
  cases f.layer.log.frozen with
  | true => exact iff_of_true rfl rfl
  | false => exact iff_of_false nofun nofun

theorem step_steps [DecidableEq ι] (hook : Hook) : f.Steps i hook (f.step i hook) := by
  cases hook with
  | prepare =>
    unfold step Coordinator.prepare
    cases frozen : f.layer.log.frozen with
    | true => exact .waits frozen
    | false => exact .takes _ frozen
  | resume side =>
    show f.Steps i (.resume side) (f.set i ((f.coordinator i).resume side f.layer))
    unfold Coordinator.resume
    split
    · next idle => exact .refuses side _ rfl idle
    · next prepared => exact .releases side _ prepared

end Steps

/-! ## 4. Brackets and guards -/

variable {ι σ : Type}

/-- All three locks are held. -/
structure Held (f : Fleet ι (Recorded σ)) : Prop where
  ring : f.layer.log.frozen = true
  table : f.layer.origins.frozen = true
  primitive : f.layer.locked? = some true

/-- From `f` to `f'` one of the locks is released. -/
def Releases (f f' : Fleet ι (Recorded σ)) : Prop :=
  (f.layer.log.frozen = true ∧ f'.layer.log.frozen = false) ∨
    (f.layer.origins.frozen = true ∧ f'.layer.origins.frozen = false) ∨
    f'.layer.primitiveCalls.count .unlock ≠ f.layer.primitiveCalls.count .unlock

/-- From `f` to `f'` a resume of `i` is counted as unmatched and changes nothing
else, but for one error in the log if the log can be written. -/
structure Refuses (f : Fleet ι (Recorded σ)) (i : ι) (f' : Fleet ι (Recorded σ)) : Prop where
  counted : f'.coordinator i =
    { f.coordinator i with unmatchedResumes := (f.coordinator i).unmatchedResumes + 1 }
  others : ∀ j ≠ i, f'.coordinator j = f.coordinator j
  heap : f'.layer.heap = f.layer.heap
  table : f'.layer.origins = f.layer.origins
  ring : f'.layer.log.frozen = f.layer.log.frozen
  silent : f.layer.log.frozen = true → f'.layer.log = f.layer.log
  recorded : f.layer.log.frozen = false → ∃ r : Record, r.level = .error ∧
    f'.layer.log.snapshot = (f.layer.log.snapshot ++ [r]).drop f.layer.log.overwrites

/-- The coordinators and the locks agree on whose prepare is outstanding. -/
structure Bracketed (f : Fleet ι (Recorded σ)) (holder : Option ι) : Prop where
  prepared : ∀ i, (f.coordinator i).phase = .prepared ↔ holder = some i
  ring : f.layer.log.frozen = holder.isSome
  table : f.layer.origins.frozen = holder.isSome
  primitive : f.layer.locked? = some holder.isSome
  difference : f.layer.primitiveCalls.count .lock =
    f.layer.primitiveCalls.count .unlock + holder.toList.length
  log : f.layer.log.WellFormed

/-- The counters tally with the calls to the primitive, and with each other. -/
structure Tallied [Fintype ι] (f : Fleet ι (Recorded σ)) : Prop where
  locks : f.layer.primitiveCalls.count .lock = ∑ i, (f.coordinator i).prepares.toNat
  unlocks : f.layer.primitiveCalls.count .unlock =
    ∑ i, ((f.coordinator i).parentResumes.toNat + (f.coordinator i).childResumes.toNat)
  balance : ∀ i, (f.coordinator i).prepares.toNat =
    (f.coordinator i).parentResumes.toNat + (f.coordinator i).childResumes.toNat +
      if (f.coordinator i).phase = .prepared then 1 else 0

/-- What the hooks do next. -/
structure Guarded [DecidableEq ι] [Primitive σ] (f : Fleet ι (Recorded σ)) (holder : Option ι) :
    Prop where
  waits : ∀ i, (f.coordinator i).prepare f.layer = none ↔ holder.isSome
  waiting : ∀ i, holder.isSome → f.step i .prepare = f
  /-- Nothing is released but by the coordinator that holds it. -/
  releases : ∀ i hook, f.Releases (f.step i hook) →
    f.Held ∧ holder = some i ∧ ∃ side, hook = .resume side
  refuses : ∀ i side, holder ≠ some i → f.Refuses i (f.step i (.resume side))

end Fleet

/-- The layer can be written to, and nobody has locked its primitive so far. -/
structure Quiet {σ : Type} (s : Layer (Recorded σ)) : Prop where
  log : s.log.WellFormed
  ring : s.log.frozen = false
  table : s.origins.frozen = false
  calls : .lock ∉ s.primitiveCalls ∧ .unlock ∉ s.primitiveCalls

/-! ## 5. One hook -/

theorem tryRecord_of_frozen {log : LifecycleLog} (frozen : log.frozen = true) (e : Event) :
    log.tryRecord e = (none, log) := if_pos frozen

theorem tryRecord_of_free {log : LifecycleLog} (free : log.frozen = false) (e : Event) :
    log.tryRecord e = (some (log.record e).1, (log.record e).2) := by
  unfold LifecycleLog.tryRecord
  rw [free]
  rfl

theorem tryRecord_frozen (log : LifecycleLog) (e : Event) :
    (log.tryRecord e).2.frozen = log.frozen := by
  cases frozen : log.frozen with
  | true => rw [tryRecord_of_frozen frozen, frozen]
  | false =>
    rw [tryRecord_of_free frozen]
    exact frozen

theorem wellFormed_tryRecord {log : LifecycleLog} (h : log.WellFormed) (e : Event) :
    (log.tryRecord e).2.WellFormed := by
  cases frozen : log.frozen with
  | true =>
    rw [tryRecord_of_frozen frozen]
    exact h
  | false =>
    rw [tryRecord_of_free frozen]
    exact h.record e

theorem countResume_phase (c : Coordinator) (side : Side) :
    (c.countResume side).phase = c.phase := by
  cases side <;> rfl

theorem countResume_prepares (c : Coordinator) (side : Side) :
    (c.countResume side).prepares = c.prepares := by
  cases side <;> rfl

/-- A counter that is not at its end counts one more. -/
theorem toNat_count {n : UInt64} (small : n.toNat + 1 < UInt64.size) :
    (n + 1).toNat = n.toNat + 1 := by
  rw [UInt64.toNat_add, UInt64.toNat_one]
  exact Nat.mod_eq_of_lt small

theorem countResume_resumes (c : Coordinator) (side : Side)
    (small : c.parentResumes.toNat + c.childResumes.toNat + 1 < UInt64.size) :
    (c.countResume side).parentResumes.toNat + (c.countResume side).childResumes.toNat =
      c.parentResumes.toNat + c.childResumes.toNat + 1 := by
  cases side with
  | parent =>
    show (c.parentResumes + 1).toNat + c.childResumes.toNat = _
    rw [toNat_count (by omega)]
    omega
  | child =>
    show c.parentResumes.toNat + (c.childResumes + 1).toNat = _
    rw [toNat_count (by omega)]
    omega

namespace Fleet

theorem not_releases_self {ι σ : Type} {f : Fleet ι (Recorded σ)} : ¬ f.Releases f := by
  rintro (⟨frozen, thawed⟩ | ⟨frozen, thawed⟩ | unlocked)
  · exact absurd (frozen.symm.trans thawed) nofun
  · exact absurd (frozen.symm.trans thawed) nofun
  · exact unlocked rfl

section One

variable {ι σ : Type} [DecidableEq ι] {f : Fleet ι σ} {i : ι} {c : Coordinator} {s : Layer σ}

theorem forall_set {P : ι → Coordinator → Prop} :
    (∀ j, P j ((f.set i (c, s)).coordinator j)) ↔ P i c ∧ ∀ j ≠ i, P j (f.coordinator j) :=
  Function.forall_update_iff ..

/-- A sum over the coordinators changes as much as the term of the one that does. -/
theorem sum_set [Fintype ι] (count : Coordinator → Nat) :
    ∑ j, count ((f.set i (c, s)).coordinator j) + count (f.coordinator i) =
      ∑ j, count (f.coordinator j) + count c := by
  have self : (f.set i (c, s)).coordinator i = c := Function.update_self ..
  have others : ∑ j ∈ Finset.univ.erase i, count ((f.set i (c, s)).coordinator j) =
      ∑ j ∈ Finset.univ.erase i, count (f.coordinator j) := by
    refine Finset.sum_congr rfl fun j member => ?_
    exact congrArg count (Function.update_of_ne (Finset.ne_of_mem_erase member) ..)
  rw [← Finset.add_sum_erase _ _ (Finset.mem_univ i), others, self,
    ← Finset.add_sum_erase _ (fun j => count (f.coordinator j)) (Finset.mem_univ i)]
  omega

end One

namespace Bracketed

variable {ι σ : Type} {f f' : Fleet ι (Recorded σ)} {holder holder' : Option ι} {i : ι}
  {hook : Hook} {c : Coordinator} {s : Layer (Recorded σ)}

/-- While no prepare is outstanding, no coordinator is prepared. -/
theorem idle (h : f.Bracketed none) (j : ι) : (f.coordinator j).phase ≠ .prepared :=
  fun phase => nomatch (h.prepared j).1 phase

/-- No prepare is outstanding if the log can be written. -/
theorem holder_eq_none (h : f.Bracketed holder) (free : f.layer.log.frozen = false) :
    holder = none := by
  rw [h.ring] at free
  exact Option.isNone_iff_eq_none.1 (Option.isSome_eq_false_iff.1 free)

variable [DecidableEq ι]

/-- One coordinator and the layer change together. -/
theorem set (h : f.Bracketed holder) (calls : List PrimitiveCall)
    (phase : c.phase = .prepared ↔ holder' = some i)
    (others : ∀ j ≠ i, (f.coordinator j).phase = .prepared ↔ holder' = some j)
    (ring : s.log.frozen = holder'.isSome) (table : s.origins.frozen = holder'.isSome)
    (log : s.log.WellFormed) (appended : s.primitiveCalls = f.layer.primitiveCalls ++ calls)
    (primitive : calls.foldlM PrimitiveCall.lockAfter holder.isSome = some holder'.isSome)
    (difference : calls.count .lock + holder.toList.length =
      calls.count .unlock + holder'.toList.length) :
    (f.set i (c, s)).Bracketed holder' := by
  have layer : (f.set i (c, s)).layer = s := rfl
  constructor
  · exact (forall_set (P := fun j c => c.phase = .prepared ↔ holder' = some j)).2 ⟨phase, others⟩
  · exact ring
  · exact table
  · exact (Layer.locked?_append appended h.primitive).trans primitive
  · have before := h.difference
    rw [layer, appended, List.count_append, List.count_append]
    omega
  · exact log

theorem step [Primitive σ] (h : f.Bracketed holder) (does : f.Steps i hook f') :
    f'.Bracketed (holderAfter holder i hook) := by
  cases does with
  | waits frozen =>
    -- Somebody is prepared, and a prepare does not take that away.
    rw [h.ring] at frozen
    obtain ⟨j, rfl⟩ := Option.isSome_iff_exists.1 frozen
    exact h
  | takes e free =>
    obtain rfl := h.holder_eq_none free
    refine h.set [.lock] (iff_of_true rfl rfl) ?_ rfl rfl ((h.log.record e).setFrozen true)
      (Layer.primitiveCalls_lockPrimitive _) rfl rfl
    intro j ne
    exact iff_of_false (h.idle j) fun same => ne (Option.some.inj same).symm
  | refuses side e error idle =>
    -- The prepare that is outstanding, if any, is that of another coordinator.
    have other : holder ≠ some i := by
      intro same
      rw [(h.prepared i).2 same] at idle
      cases idle
    rw [holderAfter, if_neg other]
    refine h.set [] (h.prepared i) (fun j _ => h.prepared j) ?_ h.table
      (wellFormed_tryRecord h.log e) (List.append_nil _).symm rfl rfl
    exact (tryRecord_frozen _ e).trans h.ring
  | releases side e prepared =>
    obtain rfl := (h.prepared i).1 prepared
    rw [holderAfter, if_pos rfl]
    have phase : ({ f.coordinator i with phase := .idle }.countResume side).phase = .idle :=
      countResume_phase _ side
    refine h.set [.unlock] (iff_of_false ?_ nofun) ?_ (tryRecord_frozen _ e) rfl
      (wellFormed_tryRecord (h.log.setFrozen false) e) (Layer.primitiveCalls_unlockPrimitive _)
      rfl rfl
    · rw [phase]
      exact nofun
    · intro j ne
      exact (h.prepared j).trans (iff_of_false (fun same => ne (Option.some.inj same).symm) nofun)

theorem guarded [Primitive σ] (h : f.Bracketed holder) : f.Guarded holder := by
  have waits (i : ι) : (f.coordinator i).prepare f.layer = none ↔ holder.isSome := by
    rw [prepare_eq_none, h.ring]
  constructor
  · exact waits
  · intro i held
    show ((f.coordinator i).prepare f.layer).elim f (f.set i) = f
    rw [(waits i).2 held]
    rfl
  · intro i hook
    have does := f.step_steps i hook
    generalize f.step i hook = f' at does
    cases does with
    | waits frozen => exact fun releases => absurd releases not_releases_self
    | takes e free =>
      rintro (⟨-, thawed⟩ | ⟨-, thawed⟩ | unlocked)
      · cases thawed
      · cases thawed
      · refine absurd ?_ unlocked
        show ((f.layer.record e).freeze.lockPrimitive).primitiveCalls.count .unlock = _
        rw [Layer.primitiveCalls_lockPrimitive, List.count_append]
        rfl
    | refuses side e error idle =>
      rintro (⟨frozen, thawed⟩ | ⟨frozen, thawed⟩ | unlocked)
      · exact absurd (frozen.symm.trans ((tryRecord_frozen _ e).symm.trans thawed)) nofun
      · exact absurd (frozen.symm.trans thawed) nofun
      · exact absurd rfl unlocked
    | releases side e prepared =>
      intro
      obtain rfl := (h.prepared i).1 prepared
      exact ⟨⟨h.ring, h.table, h.primitive⟩, rfl, side, rfl⟩
  · intro i side other
    have does := f.step_steps i (.resume side)
    generalize f.step i (.resume side) = f' at does
    cases does with
    | releases side e prepared => exact absurd ((h.prepared i).1 prepared) other
    | refuses side e error idle =>
      constructor
      · exact Function.update_self ..
      · exact fun j ne => Function.update_of_ne ne ..
      · rfl
      · rfl
      · exact tryRecord_frozen _ e
      · exact fun frozen => congrArg Prod.snd (tryRecord_of_frozen frozen e)
      · intro free
        refine ⟨f.layer.log.stamp e, error, ?_⟩
        show (f.layer.log.tryRecord e).2.snapshot = _
        rw [tryRecord_of_free free]
        exact LifecycleLog.snapshot_record h.log e

end Bracketed

/-! ## 6. Counters -/

/-- The calls so far that are about the lock of the primitive. -/
def lockCalls {ι σ : Type} (f : Fleet ι (Recorded σ)) : Nat :=
  f.layer.primitiveCalls.count .lock + f.layer.primitiveCalls.count .unlock

/-- A hook makes one of these calls at most. -/
theorem Steps.lockCalls_le {ι σ : Type} [DecidableEq ι] [Primitive σ]
    {f f' : Fleet ι (Recorded σ)} {i : ι} {hook : Hook} (does : f.Steps i hook f') :
    f'.lockCalls ≤ f.lockCalls + 1 := by
  have append {calls : List PrimitiveCall} (one : calls.count .lock + calls.count .unlock = 1)
      (same : f'.layer.primitiveCalls = f.layer.primitiveCalls ++ calls) :
      f'.lockCalls ≤ f.lockCalls + 1 := by
    unfold lockCalls
    rw [same, List.count_append, List.count_append]
    omega
  cases does with
  | waits => exact Nat.le_succ _
  | takes => exact append rfl (Layer.primitiveCalls_lockPrimitive _)
  | refuses => exact Nat.le_succ _
  | releases => exact append rfl (Layer.primitiveCalls_unlockPrimitive _)

namespace Tallied

variable {ι σ : Type} [Fintype ι] {f f' : Fleet ι (Recorded σ)}
  {holder : Option ι} {i : ι} {hook : Hook} {c : Coordinator} {s : Layer (Recorded σ)}

theorem prepares_le (t : f.Tallied) (i : ι) :
    (f.coordinator i).prepares.toNat ≤ f.layer.primitiveCalls.count .lock := by
  rw [t.locks]
  exact Finset.single_le_sum (f := fun j => (f.coordinator j).prepares.toNat)
    (fun _ _ => Nat.zero_le _) (Finset.mem_univ i)

theorem resumes_le (t : f.Tallied) (i : ι) :
    (f.coordinator i).parentResumes.toNat + (f.coordinator i).childResumes.toNat ≤
      f.layer.primitiveCalls.count .unlock := by
  rw [t.unlocks]
  exact Finset.single_le_sum
    (f := fun j => (f.coordinator j).parentResumes.toNat + (f.coordinator j).childResumes.toNat)
    (fun _ _ => Nat.zero_le _) (Finset.mem_univ i)

variable [DecidableEq ι]

/-- One coordinator and the layer change together. -/
theorem set (t : f.Tallied) (calls : List PrimitiveCall)
    (appended : s.primitiveCalls = f.layer.primitiveCalls ++ calls)
    (prepares : c.prepares.toNat = (f.coordinator i).prepares.toNat + calls.count .lock)
    (resumes : c.parentResumes.toNat + c.childResumes.toNat =
      (f.coordinator i).parentResumes.toNat + (f.coordinator i).childResumes.toNat +
        calls.count .unlock)
    (balance : calls.count .lock + (if (f.coordinator i).phase = .prepared then 1 else 0) =
      calls.count .unlock + if c.phase = .prepared then 1 else 0) :
    (f.set i (c, s)).Tallied := by
  have layer : (f.set i (c, s)).layer = s := rfl
  have balanced : c.prepares.toNat = c.parentResumes.toNat + c.childResumes.toNat +
      if c.phase = .prepared then 1 else 0 := by
    have before := t.balance i
    omega
  constructor
  · have sum := sum_set (f := f) (i := i) (c := c) (s := s) fun c => c.prepares.toNat
    have locks := t.locks
    rw [layer, appended, List.count_append]
    omega
  · have sum := sum_set (f := f) (i := i) (c := c) (s := s)
      fun c => c.parentResumes.toNat + c.childResumes.toNat
    have unlocks := t.unlocks
    rw [layer, appended, List.count_append]
    omega
  · exact (forall_set (P := fun _ c => c.prepares.toNat =
      c.parentResumes.toNat + c.childResumes.toNat + if c.phase = .prepared then 1 else 0)).2
      ⟨balanced, fun j _ => t.balance j⟩

/-- What a hook counts tallies, if no counter has come to its end before. -/
theorem step [Primitive σ] (t : f.Tallied) (h : f.Bracketed holder) (does : f.Steps i hook f')
    (few : f.lockCalls + 1 < UInt64.size) : f'.Tallied := by
  unfold lockCalls at few
  cases does with
  | waits frozen => exact t
  | takes e free =>
    obtain rfl := h.holder_eq_none free
    have le := t.prepares_le i
    refine t.set [.lock] (Layer.primitiveCalls_lockPrimitive _) (toNat_count (by omega)) rfl ?_
    rw [if_neg (h.idle i)]
    rfl
  | refuses side e error idle => exact t.set [] (List.append_nil _).symm rfl rfl rfl
  | releases side e prepared =>
    have le := t.resumes_le i
    have phase : ({ f.coordinator i with phase := .idle }.countResume side).phase = .idle :=
      countResume_phase _ side
    have counted := countResume_resumes { f.coordinator i with phase := .idle } side
      (show (f.coordinator i).parentResumes.toNat + (f.coordinator i).childResumes.toNat + 1 < _ by
        omega)
    refine t.set [.unlock] (Layer.primitiveCalls_unlockPrimitive _) ?_ counted ?_
    · rw [countResume_prepares]
      rfl
    · rw [phase, if_pos prepared]
      rfl

end Tallied

/-! ## 7. All hooks -/

section All

variable {ι σ : Type} {s : Layer (Recorded σ)}

theorem bracketed_ofLayer (quiet : Quiet s) :
    (ofLayer s : Fleet ι (Recorded σ)).Bracketed none where
  prepared _ := iff_of_false nofun nofun
  ring := quiet.ring
  table := quiet.table
  primitive := Layer.foldlM_lockAfter quiet.calls false
  difference := (List.count_eq_zero.2 quiet.calls.1).trans (List.count_eq_zero.2 quiet.calls.2).symm
  log := quiet.log

theorem tallied_ofLayer [Fintype ι] (quiet : Quiet s) :
    (ofLayer s : Fleet ι (Recorded σ)).Tallied where
  locks := (List.count_eq_zero.2 quiet.calls.1).trans Finset.sum_const_zero.symm
  unlocks := (List.count_eq_zero.2 quiet.calls.2).trans Finset.sum_const_zero.symm
  balance _ := rfl

variable [DecidableEq ι] [Primitive σ] {f : Fleet ι (Recorded σ)}

theorem Bracketed.run {holder : Option ι} (h : f.Bracketed holder) (hooks : List (ι × Hook)) :
    (f.run hooks).Bracketed
      (hooks.foldl (fun holder (i, hook) => holderAfter holder i hook) holder) := by
  induction hooks generalizing f holder with
  | nil => exact h
  | cons next rest ih => exact ih (h.step (f.step_steps next.1 next.2))

theorem Tallied.run [Fintype ι] {holder : Option ι} (t : f.Tallied) (h : f.Bracketed holder)
    (hooks : List (ι × Hook)) (few : f.lockCalls + hooks.length < UInt64.size) :
    (f.run hooks).Tallied := by
  induction hooks generalizing f holder with
  | nil => exact t
  | cons next rest ih =>
    rw [List.length_cons] at few
    have does := f.step_steps next.1 next.2
    have le := does.lockCalls_le
    exact ih (t.step h does (by omega)) (h.step does)
      (show (f.step next.1 next.2).lockCalls + rest.length < UInt64.size by omega)

/-- After every sequence of hooks, coordinators and locks agree with the order of
the hooks, and every next hook is guarded. The counters tally, unless there were more
hooks than a counter can count. -/
theorem run_bracketed [Fintype ι] (quiet : Quiet s) (hooks : List (ι × Hook)) :
    ((ofLayer s).run hooks).Bracketed (holder hooks) ∧
      ((ofLayer s).run hooks).Guarded (holder hooks) ∧
      (hooks.length < UInt64.size → ((ofLayer s).run hooks).Tallied) := by
  have start : (ofLayer s : Fleet ι (Recorded σ)).Bracketed none := bracketed_ofLayer quiet
  have bracketed : ((ofLayer s).run hooks).Bracketed (holder hooks) := start.run hooks
  refine ⟨bracketed, bracketed.guarded, fun few => ?_⟩
  have silent : (ofLayer s : Fleet ι (Recorded σ)).lockCalls = 0 :=
    Nat.add_eq_zero_iff.2
      ⟨List.count_eq_zero.2 quiet.calls.1, List.count_eq_zero.2 quiet.calls.2⟩
  exact (tallied_ofLayer quiet).run start hooks (by omega)

/-- A new layer over an arena. -/
def newLayer : Layer (Recorded Arena) :=
  .ofHeap ⟨.ofState { script := {} }, .empty⟩ .fallback

/-- Two coordinators whose hooks cross: each one resumes in the bracket of the
other, and one prepare has to wait. -/
def crossed : List (Fin 2 × Hook) :=
  [(0, .prepare), (1, .resume .child), (1, .prepare), (0, .resume .parent), (1, .prepare),
    (0, .resume .child), (1, .resume .child)]

theorem run_bracketed_crossed :
    Quiet newLayer ∧ ((ofLayer newLayer).run crossed).Bracketed (holder crossed) ∧
      ((ofLayer newLayer).run crossed).Guarded (holder crossed) ∧
      ((ofLayer newLayer).run crossed).Tallied := by
  have quiet : Quiet newLayer :=
    ⟨LifecycleLog.wellFormed_of_size_eq_zero rfl, rfl, rfl, List.not_mem_nil, List.not_mem_nil⟩
  obtain ⟨bracketed, guarded, tallied⟩ := run_bracketed quiet crossed
  exact ⟨quiet, bracketed, guarded, tallied (by decide)⟩

end All

end Fleet

end Fork

end MallocLayer
