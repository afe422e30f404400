import MallocLayer.Proofs.ResizePolicy
import MallocLayer.Zone
import Mathlib.Data.List.ReduceOption

/-!
# Batches of a zone

A batch of allocations is one plain allocation after the other, up to the first that
fails (`Fills`). What it leaves is as after those allocations: each block is new, and
nothing that was there before has changed (`Adds`), so a batch that was cut short is
not taken back.

A batch of releases takes the blocks of its pointers and their entries in the side
table, and nothing else (`Removes`). That is said of the pointers as a set, and so the
order of the list plays no part. In particular, a batch that goes back leaves the blocks
that were there before it came.

The layers in question are those that a client brings about with requests and batches
alike (`InUse`).
-/

namespace MallocLayer

open Primitive (Block Contract)

/-- The entries of the list are null, or pointers of the client, none of them twice. -/
structure Ledger.AdmitsAll (owned : Ledger) (entries : List (Option Addr)) : Prop where
  admits : ∀ entry ∈ entries, owned.Admits entry
  distinct : entries.reduceOption.Nodup

namespace Layer

variable {σ : Type} [Primitive σ]

/-! ## 1. What batches come to -/

/-- Blocks of the size are granted one after the other, at these addresses. -/
inductive Grants (size : UInt64) : Layer σ → List Addr → Layer σ → Prop
  | nil (s : Layer σ) : Grants size s [] s
  | cons {s m t : Layer σ} {p : Addr} {ps : List Addr} (granted : s.malloc size = (.ok p, m))
      (later : Grants size m ps t) : Grants size s (p :: ps) t

/-- The array is filled with the addresses that are granted before the first refusal. -/
inductive Fills (s : Layer (Audited σ)) (size : UInt64) (results : List (Option Addr))
    (ps : List Addr) : Nat → List (Option Addr) → Layer (Audited σ) → Prop
  /-- There is no refusal, and one call for each entry. -/
  | complete {t : Layer (Audited σ)} (grants : s.Grants size ps t)
      (all : ps.length = results.length)
      (calls : t.calls = s.calls ++ ps.map fun p => .allocate size (some p)) :
      Fills s size results ps ps.length (ps.map some) t
  /-- The next entry is null, and those behind it are as they were. -/
  | cut {m t : Layer (Audited σ)} {err : AllocError} (grants : s.Grants size ps m)
      (refused : m.malloc size = (.error err, t)) (less : ps.length < results.length)
      (calls : t.calls =
        s.calls ++ (ps.map fun p => .allocate size (some p)) ++ [.allocate size none]) :
      Fills s size results ps ps.length (ps.map some ++ none :: results.drop (ps.length + 1)) t

/-- The blocks are new, and nothing else has changed from `s` to `t`. -/
structure Adds (c : Contract σ) (s : Layer (Audited σ)) (owned : Ledger) (size : UInt64)
    (blocks : List Block) (t : Layer (Audited σ)) : Prop where
  new : ∀ b ∈ blocks, b ∉ c.live (Audited.innerHeap s.heap)
  unowned : ∀ b ∈ blocks, b.start ∉ owned
  distinct : (blocks.map Block.start).Nodup
  large : ∀ b ∈ blocks, size.toNat ≤ b.capacity.toNat
  live_eq : c.live (Audited.innerHeap t.heap) =
    c.live (Audited.innerHeap s.heap) ∪ {b | b ∈ blocks}
  bytes : KeepsBytes (c.live (Audited.innerHeap s.heap)) s t
  origins_eq : t.origins = s.origins

/-- The call releases the block that holds the pointer. -/
def Releases (c : Contract σ) (s : Layer (Audited σ)) (p : Addr) (call : PrimitiveCall) : Prop :=
  ∃ b ∈ c.live (Audited.innerHeap s.heap), b.Holds p ∧
    ∃ a, b.Named c.interior a ∧ call = .deallocate a

/-- The blocks behind the pointers and the entries for the pointers are gone, and nothing
else has changed from `s` to `t`. -/
structure Removes (c : Contract σ) (s : Layer (Audited σ)) (ps : List Addr)
    (t : Layer (Audited σ)) : Prop where
  live_eq : c.live (Audited.innerHeap t.heap) =
    {b ∈ c.live (Audited.innerHeap s.heap) | ∀ p ∈ ps, ¬ b.Holds p}
  entries : ∃ m m', s.origins.Represents m ∧ t.origins.Represents m' ∧
    ∀ a, m'[a]? = if a ∈ ps then none else m[a]?
  bytes : KeepsBytes (c.live (Audited.innerHeap t.heap)) s t
  /-- The primitive was asked for one release after the other. -/
  calls : ∃ made, t.calls = s.calls ++ made ∧ List.Forall₂ (Releases c s) ps made

/-- A batch of allocations brings the blocks, and the client may use them like any other. -/
structure Brings (c : Contract σ) (s : Layer (Audited σ)) (owned : Ledger) (size : UInt64)
    (results : List (Option Addr)) (blocks : List Block) (filled : Nat)
    (entries : List (Option Addr)) (t : Layer (Audited σ)) : Prop where
  fills : Fills s size results (blocks.map Block.start) filled entries t
  adds : Adds c s owned size blocks t
  apart : ∀ b ∈ blocks, ∀ d ∈ c.live (Audited.innerHeap t.heap), ∀ x,
    b.Holds x → d.Holds x → b = d
  usable : ∀ b ∈ blocks, size.toNat ≤ (t.usableSize (some b.start)).1.toNat
  sound : Sound c t (owned ∪ (blocks.map Block.start).toFinset)

/-- What a client that has the given pointers gets from the batches of a zone. -/
structure ServesBatches (c : Contract σ) (s : Layer (Audited σ)) (owned : Ledger) : Prop where
  batchMalloc : ∀ size results filled entries t,
    Zone.batchMalloc s size results = (filled, entries, t) →
    ∃ blocks, Brings c s owned size results blocks filled entries t
  batchFree : ∀ entries, owned.AdmitsAll entries →
    Removes c s entries.reduceOption (Zone.batchFree s entries) ∧
      Sound c (Zone.batchFree s entries) (owned \ entries.reduceOption.toFinset)
  /-- The order of a list of releases plays no part. -/
  batchFree_perm : ∀ entries others, owned.AdmitsAll entries → entries.Perm others →
    c.live (Audited.innerHeap (Zone.batchFree s entries).heap) =
        c.live (Audited.innerHeap (Zone.batchFree s others).heap) ∧
      ∃ m, (Zone.batchFree s entries).origins.Represents m ∧
        (Zone.batchFree s others).origins.Represents m
  /-- What a batch of allocations filled in can go back in any order. -/
  restores : ∀ size results filled entries t,
    Zone.batchMalloc s size results = (filled, entries, t) →
    ∀ others, (entries.take filled).Perm others →
    c.live (Audited.innerHeap (Zone.batchFree t others).heap) =
        c.live (Audited.innerHeap s.heap) ∧
      Sound c (Zone.batchFree t others) owned

/-- The layers that a client brings about from `start`, and the pointers that it has then. -/
inductive InUse (start : Layer σ) : Layer σ → Ledger → Prop
  | start : InUse start start ∅
  | served {s : Layer σ} {owned : Ledger} {r : Request} (before : InUse start s owned)
      (legal : r.Legal s owned) : InUse start (s.serve r).2 (r.settle owned (s.serve r).1)
  | batchMalloc {s t : Layer σ} {owned : Ledger} {size : UInt64} {filled : Nat}
      {results entries : List (Option Addr)} (before : InUse start s owned)
      (done : Zone.batchMalloc s size results = (filled, entries, t)) :
      InUse start t (owned ∪ (entries.take filled).reduceOption.toFinset)
  | batchFree {s : Layer σ} {owned : Ledger} {entries : List (Option Addr)}
      (before : InUse start s owned) (legal : owned.AdmitsAll entries) :
      InUse start (Zone.batchFree s entries) (owned \ entries.reduceOption.toFinset)

variable {c : Contract σ} {s m t : Layer (Audited σ)} {own : Tenancy} {owned : Ledger}
  {size : UInt64} {p : Addr} {ps : List Addr} {b : Block} {blocks : List Block} {filled : Nat}
  {results entries others : List (Option Addr)}

/-! ## 2. Allocations -/

theorem Grants.calls (grants : s.Grants size ps t) :
    t.calls = s.calls ++ ps.map fun p => .allocate size (some p) := by
  induction grants with
  | nil => rw [List.map_nil, List.append_nil]
  | cons granted _ ih =>
    rw [ih, calls_of_granted granted, List.append_assoc]
    rfl

/-- The first entry is filled, and then the others. -/
theorem Fills.cons (granted : s.malloc size = (.ok p, m))
    (later : Fills m size results ps filled entries t) (entry : Option Addr) :
    Fills s size (entry :: results) (p :: ps) (filled + 1) (some p :: entries) t := by
  cases later with
  | complete grants all =>
    have grants' := Grants.cons granted grants
    exact .complete grants' (congrArg Nat.succ all) grants'.calls
  | cut grants refused less =>
    have grants' := Grants.cons granted grants
    refine .cut grants' refused (Nat.succ_lt_succ less) ?_
    rw [calls_of_refused refused, grants'.calls]

theorem batchMalloc_fills (done : Zone.batchMalloc s size results = (filled, entries, t)) :
    ∃ ps, Fills s size results ps filled entries t := by
  induction results generalizing s filled entries with
  | nil =>
    cases done
    exact ⟨[], .complete (.nil _) rfl (List.append_nil _).symm⟩
  | cons entry rest ih =>
    unfold Zone.batchMalloc at done
    rcases answer : s.malloc size with ⟨err | p, m⟩
    · rw [answer] at done
      cases done
      refine ⟨[], .cut (.nil s) answer (Nat.succ_pos _) ?_⟩
      rw [calls_of_refused answer, List.map_nil, List.append_nil]
    · rw [answer] at done
      rcases later : Zone.batchMalloc m size rest with ⟨filled', entries', t'⟩
      simp only [later] at done
      cases done
      obtain ⟨ps, fills⟩ := ih later
      exact ⟨p :: ps, fills.cons answer entry⟩

/-- The entries that count are the addresses that were granted. -/
theorem Fills.take_eq (fills : Fills s size results ps filled entries t) :
    entries.take filled = ps.map some := by
  cases fills with
  | complete => rw [List.take_of_length_le (List.length_map _).le]
  | cut => rw [List.take_left' (List.length_map _)]

theorem reduceOption_perm (perm : entries.Perm others) :
    entries.reduceOption.Perm others.reduceOption :=
  perm.filterMap id

theorem reduceOption_map_some (ps : List Addr) : (ps.map some).reduceOption = ps := by
  rw [List.reduceOption, List.filterMap_map]
  exact List.filterMap_some

namespace Adds

theorem live_of_mem (adds : Adds c s owned size blocks t) (mem : b ∈ blocks) :
    b ∈ c.live (Audited.innerHeap t.heap) := by
  rw [adds.live_eq]
  exact .inr mem

theorem live_of_old (adds : Adds c s owned size blocks t)
    (old : b ∈ c.live (Audited.innerHeap s.heap)) : b ∈ c.live (Audited.innerHeap t.heap) := by
  rw [adds.live_eq]
  exact .inl old

theorem refl : Adds c s owned size [] s where
  new := nofun
  unowned := nofun
  distinct := List.nodup_nil
  large := nofun
  live_eq := by simp
  bytes _ _ _ _ := rfl
  origins_eq := rfl

/-- One block comes, and then others do. -/
theorem cons (first : Adds c s owned size [b] m)
    (later : Adds c m (owned ∪ {b.start}) size blocks t) : Adds c s owned size (b :: blocks) t where
  new := List.forall_mem_cons.2
    ⟨first.new b (.head _), fun d mem old => later.new d mem (first.live_of_old old)⟩
  unowned := by
    refine List.forall_mem_cons.2 ⟨first.unowned b (.head _), fun d mem mine => ?_⟩
    exact later.unowned d mem (Finset.mem_union_left _ mine)
  distinct := by
    refine List.nodup_cons.2 ⟨fun again => ?_, later.distinct⟩
    obtain ⟨d, mem, same⟩ := List.mem_map.1 again
    exact later.unowned d mem (Finset.mem_union_right _ (Finset.mem_singleton.2 same))
  large := List.forall_mem_cons.2 ⟨first.large b (.head _), later.large⟩
  live_eq := by
    rw [later.live_eq, first.live_eq, Set.union_assoc]
    exact congrArg (_ ∪ ·) (Set.ext fun d => by simp)
  bytes := first.bytes.trans fun d old => later.bytes d (first.live_of_old old)
  origins_eq := later.origins_eq.trans first.origins_eq

/-- At the end nothing more comes. -/
theorem quiet (adds : Adds c s owned size blocks m)
    (live_eq : c.live (Audited.innerHeap t.heap) = c.live (Audited.innerHeap m.heap))
    (bytes : KeepsBytes (c.live (Audited.innerHeap m.heap)) m t)
    (origins_eq : t.origins = m.origins) : Adds c s owned size blocks t :=
  { adds with
    live_eq := live_eq.trans adds.live_eq
    bytes := adds.bytes.trans fun d old => bytes d (adds.live_of_old old)
    origins_eq := origins_eq.trans adds.origins_eq }

end Adds

namespace Accounts

theorem granted (h : s.Accounts c.audited owned own) (answer : s.malloc size = (.ok p, m)) :
    ∃ b, b.start = p ∧ m.Accounts c.audited (owned ∪ {p}) (own.give p b) ∧
      Adds c s owned size [b] m := by
  obtain ⟨b, rfl, large, new, backs, kept, origins⟩ := h.backs.granted answer
  refine ⟨b, rfl, ⟨backs, h.lists.give⟩, ?_⟩
  exact
    { new := by
        refine List.forall_mem_singleton.2 fun old => ?_
        obtain ⟨q, held⟩ := (h.backs.mem_live b).1 old
        exact backs.unused new q held
      unowned := by
        refine List.forall_mem_singleton.2 fun mine => ?_
        obtain ⟨d, held⟩ := (h.lists b.start).1 mine
        rw [new] at held
        cases held
      distinct := List.nodup_singleton _
      large := List.forall_mem_singleton.2 ((Nat.le_max_left _ _).trans large)
      live_eq := by
        ext d
        refine ((backs.mem_live d).trans (Tenancy.exists_give new)).trans ?_
        rw [Set.mem_union, or_comm, ← h.backs.mem_live]
        simp [Contract.audited]
      bytes := h.backs.keepsBytes kept
      origins_eq := origins }

theorem grants (h : s.Accounts c.audited owned own) (grants : s.Grants size ps t) :
    ∃ blocks own', blocks.map Block.start = ps ∧
      t.Accounts c.audited (owned ∪ ps.toFinset) own' ∧ Adds c s owned size blocks t := by
  induction grants generalizing owned own with
  | nil => exact ⟨[], own, rfl, by rwa [List.toFinset_nil, Finset.union_empty], .refl⟩
  | @cons s m t p ps answer _ ih =>
    obtain ⟨b, rfl, accounts, first⟩ := h.granted answer
    obtain ⟨blocks, own', starts, accounts', later⟩ := ih accounts
    refine ⟨b :: blocks, own', congrArg (b.start :: ·) starts, ?_, first.cons later⟩
    rwa [List.toFinset_cons, Finset.insert_eq, ← Finset.union_assoc]

theorem fills (h : s.Accounts c.audited owned own)
    (fills : Fills s size results ps filled entries t) :
    ∃ blocks own', blocks.map Block.start = ps ∧
      t.Accounts c.audited (owned ∪ ps.toFinset) own' ∧ Adds c s owned size blocks t := by
  cases fills with
  | complete grants => exact h.grants grants
  | cut grants refused =>
    obtain ⟨blocks, own', starts, accounts, adds⟩ := h.grants grants
    obtain ⟨backs, kept, origins⟩ := accounts.backs.refused refused
    exact ⟨blocks, own', starts, ⟨backs, accounts.lists⟩,
      adds.quiet (accounts.backs.live_of_same backs) (accounts.backs.keepsBytes kept) origins⟩

end Accounts

/-! ## 3. Releases -/

end Layer

namespace Ledger

theorem AdmitsAll.of_none {owned : Ledger} {rest : List (Option Addr)}
    (h : owned.AdmitsAll (none :: rest)) : owned.AdmitsAll rest where
  admits := (List.forall_mem_cons.1 h.admits).2
  distinct := h.distinct

theorem AdmitsAll.of_some {owned : Ledger} {p : Addr} {rest : List (Option Addr)}
    (h : owned.AdmitsAll (some p :: rest)) : p ∈ owned ∧ Ledger.AdmitsAll (owned \ {p}) rest := by
  obtain ⟨mine, others⟩ := List.forall_mem_cons.1 h.admits
  have distinct := h.distinct
  rw [List.reduceOption_cons_of_some, List.nodup_cons, List.reduceOption_mem_iff] at distinct
  refine ⟨mine, ⟨fun entry mem => ?_, distinct.2⟩⟩
  cases entry with
  | none => trivial
  | some q =>
    refine Finset.mem_sdiff.2 ⟨others _ mem, fun same => distinct.1 ?_⟩
    rwa [← Finset.mem_singleton.1 same]

theorem AdmitsAll.perm {owned : Ledger} {entries others : List (Option Addr)}
    (h : owned.AdmitsAll entries) (perm : entries.Perm others) : owned.AdmitsAll others where
  admits entry mem := h.admits entry (perm.mem_iff.2 mem)
  distinct := (Layer.reduceOption_perm perm).nodup_iff.1 h.distinct

theorem AdmitsAll.mem {owned : Ledger} {p : Addr} {entries : List (Option Addr)}
    (h : owned.AdmitsAll entries) (mem : p ∈ entries.reduceOption) : p ∈ owned :=
  h.admits (some p) (List.reduceOption_mem_iff.1 mem)

end Ledger

namespace Tenancy

/-- Several pointers are given up. -/
def dropAll (own : Tenancy) (ps : List Addr) : Tenancy := fun q => if q ∈ ps then none else own q

variable {own : Tenancy} {p q : Addr} {ps qs : List Addr} {b : Block}

theorem dropAll_cons : own.dropAll (p :: ps) = (own.drop p).dropAll ps := by
  funext q
  unfold dropAll drop
  by_cases first : q = p
  · simp [first]
  · simp [first]

theorem dropAll_perm (perm : ps.Perm qs) : own.dropAll ps = own.dropAll qs := by
  funext q
  unfold dropAll
  simp only [perm.mem_iff]

theorem dropAll_eq_some : own.dropAll ps q = some b ↔ q ∉ ps ∧ own q = some b := by
  unfold dropAll
  split
  · next gone => simp [gone]
  · next stays => simp [stays]

end Tenancy

theorem Primitive.Contract.originIn_dropAll {σ : Type} [Primitive σ] (c : Contract σ)
    (own : Tenancy) (ps : List Addr) (a : Addr) :
    c.originIn (own.dropAll ps) a = if a ∈ ps then none else c.originIn own a := by
  unfold originIn Tenancy.dropAll
  by_cases gone : a ∈ ps
  · simp [gone]
  · simp [gone]

namespace Layer

variable {σ : Type} [Primitive σ] {c : Contract σ} {s m t : Layer (Audited σ)} {own own' : Tenancy}
  {owned : Ledger} {size : UInt64} {p : Addr} {ps : List Addr} {b : Block} {blocks : List Block}
  {filled : Nat} {results entries others : List (Option Addr)}

/-- One pointer after the other is given up, each with one call. -/
theorem Accounts.batchFree (h : s.Accounts c.audited owned own) (legal : owned.AdmitsAll entries) :
    (Zone.batchFree s entries).Accounts c.audited (owned \ entries.reduceOption.toFinset)
        (own.dropAll entries.reduceOption) ∧
      s.Kept (own.dropAll entries.reduceOption) (Zone.batchFree s entries) ∧
      ∃ made, (Zone.batchFree s entries).calls = s.calls ++ made ∧
        List.Forall₂ (Releases c s) entries.reduceOption made := by
  induction entries generalizing s owned own with
  | nil =>
    refine ⟨?_, .refl s _, [], (List.append_nil _).symm, .nil⟩
    rwa [List.reduceOption_nil, List.toFinset_nil, Finset.sdiff_empty]
  | cons entry rest ih =>
    cases entry with
    | none => exact ih h legal.of_none
    | some p =>
      -- No pointer is in the list twice, so those behind this one are still the client's.
      obtain ⟨mine, legal'⟩ := legal.of_some
      obtain ⟨b, held⟩ := (h.lists p).1 mine
      obtain ⟨backs, kept⟩ := h.backs.free held
      obtain ⟨a, named, call⟩ := h.backs.calls_free held
      obtain ⟨accounts, kept', made, calls, releases⟩ := ih ⟨backs, h.lists.drop⟩ legal'
      have left : c.live (Audited.innerHeap (s.free (some p)).heap) ⊆
          c.live (Audited.innerHeap s.heap) := by
        intro d mem
        have gone := h.backs.live_of_drop held backs
        exact (gone ▸ mem : d ∈ c.audited.live s.heap \ {b}).1
      rw [List.reduceOption_cons_of_some, Tenancy.dropAll_cons]
      refine ⟨?_, (kept.mono ?_).trans kept', .deallocate a :: made, ?_, .cons ?_ ?_⟩
      · rwa [List.toFinset_cons, Finset.insert_eq, ← Finset.sup_eq_union, ← sdiff_sdiff_left]
      · exact fun q d held' => (Tenancy.dropAll_eq_some.1 held').2
      · show (Zone.batchFree (s.free (some p)) rest).calls = _
        rw [calls, call, List.append_assoc]
        rfl
      · exact ⟨b, h.backs.mem held, h.backs.holds held, a, named, rfl⟩
      · exact releases.imp fun q call ⟨d, mem, rest⟩ => ⟨d, left mem, rest⟩

/-- What is left after pointers were given up, in the terms of the primitive. -/
theorem Backs.removes (h : s.Backs c.audited own) (mine : ∀ p ∈ ps, ∃ b, own p = some b)
    (h' : t.Backs c.audited (own.dropAll ps)) (kept : s.Kept (own.dropAll ps) t)
    (calls : ∃ made, t.calls = s.calls ++ made ∧ List.Forall₂ (Releases c s) ps made) :
    Removes c s ps t where
  live_eq := by
    ext b
    refine (h'.mem_live b).trans ⟨?_, ?_⟩
    · rintro ⟨q, held⟩
      obtain ⟨stays, held'⟩ := Tenancy.dropAll_eq_some.1 held
      -- One pointer to a block: if it held one that is gone, that would be this one.
      refine ⟨h.mem held', fun p gone inside => stays ?_⟩
      obtain ⟨d, held⟩ := mine p gone
      rwa [h.apart held' held inside (h.holds held)]
    · rintro ⟨mem, free⟩
      obtain ⟨q, held⟩ := (h.mem_live b).1 mem
      exact ⟨q, Tenancy.dropAll_eq_some.2 ⟨fun gone => free q gone (h.holds held), held⟩⟩
  entries := by
    obtain ⟨m, represents, before⟩ := h.table
    obtain ⟨m', represents', after⟩ := h'.table
    refine ⟨m, m', represents, represents', fun a => ?_⟩
    rw [after, before, Contract.originIn_dropAll]
  bytes d mem := by
    obtain ⟨q, held⟩ := (h'.mem_live d).1 mem
    exact kept.bytes held
  calls := calls

theorem Accounts.removes (h : s.Accounts c.audited owned own) (legal : owned.AdmitsAll entries) :
    Removes c s entries.reduceOption (Zone.batchFree s entries) := by
  obtain ⟨accounts, kept, calls⟩ := h.batchFree legal
  exact h.backs.removes (fun p mem => (h.lists p).1 (legal.mem mem)) accounts.backs kept calls

/-- Two tables for the same tenancy have the same entries. -/
theorem Backs.same_table (h : s.Backs c.audited own) (h' : t.Backs c.audited own) :
    ∃ m, s.origins.Represents m ∧ t.origins.Represents m := by
  obtain ⟨m, represents, entries⟩ := h.table
  obtain ⟨m', represents', entries'⟩ := h'.table
  obtain rfl : m = m' :=
    Std.ExtHashMap.ext_getElem? fun a => (entries a).trans (entries' a).symm
  exact ⟨m, represents, represents'⟩

theorem Accounts.batchFree_perm (h : s.Accounts c.audited owned own)
    (legal : owned.AdmitsAll entries) (perm : entries.Perm others) :
    c.live (Audited.innerHeap (Zone.batchFree s entries).heap) =
        c.live (Audited.innerHeap (Zone.batchFree s others).heap) ∧
      ∃ m, (Zone.batchFree s entries).origins.Represents m ∧
        (Zone.batchFree s others).origins.Represents m := by
  obtain ⟨accounts, -⟩ := h.batchFree legal
  obtain ⟨accounts', -⟩ := h.batchFree (legal.perm perm)
  rw [← Tenancy.dropAll_perm (reduceOption_perm perm)] at accounts'
  exact ⟨accounts'.backs.live_of_same accounts.backs, accounts.backs.same_table accounts'.backs⟩

/-! ## 4. Rounds -/

/-- The pointers of a batch are new to the client. -/
theorem Adds.disjoint (adds : Adds c s owned size blocks t) :
    Disjoint owned (blocks.map Block.start).toFinset := by
  rw [Finset.disjoint_right]
  intro p mem
  obtain ⟨b, mem', rfl⟩ := List.mem_map.1 (List.mem_toFinset.1 mem)
  exact adds.unowned b mem'

/-- What a batch brought may go back, in any order. -/
theorem Adds.admitsAll (adds : Adds c s owned size blocks t)
    (perm : ((blocks.map Block.start).map some).Perm others) :
    Ledger.AdmitsAll (owned ∪ (blocks.map Block.start).toFinset) others := by
  refine Ledger.AdmitsAll.perm ⟨fun entry mem => ?_, ?_⟩ perm
  · obtain ⟨p, mem', rfl⟩ := List.mem_map.1 mem
    exact Finset.mem_union_right _ (List.mem_toFinset.2 mem')
  · rw [reduceOption_map_some]
    exact adds.distinct

/-- Without the blocks that came there are those from before. -/
theorem Adds.live_restored (adds : Adds c s owned size blocks t)
    (valid : c.Valid (Audited.innerHeap t.heap)) :
    {b ∈ c.live (Audited.innerHeap t.heap) | ∀ p ∈ blocks.map Block.start, ¬ b.Holds p} =
      c.live (Audited.innerHeap s.heap) := by
  have holds {b : Block} (mem : b ∈ blocks) : b.Holds b.start :=
    (c.proper valid b (adds.live_of_mem mem)).holds_start
  ext d
  constructor
  · rintro ⟨mem, free⟩
    rw [adds.live_eq] at mem
    rcases mem with old | added
    · exact old
    · exact absurd (holds added) (free _ (List.mem_map_of_mem added))
  · intro old
    have still := adds.live_of_old old
    refine ⟨still, fun p mem inside => ?_⟩
    obtain ⟨b, mem', rfl⟩ := List.mem_map.1 mem
    obtain rfl := c.apart valid d still b (adds.live_of_mem mem') _ inside (holds mem')
    exact adds.new _ mem' old

/-- A batch that was filled in goes back. -/
theorem Accounts.restores (h : s.Accounts c.audited owned own)
    (done : Zone.batchMalloc s size results = (filled, entries, t))
    (perm : (entries.take filled).Perm others) :
    c.live (Audited.innerHeap (Zone.batchFree t others).heap) =
        c.live (Audited.innerHeap s.heap) ∧
      Sound c (Zone.batchFree t others) owned := by
  obtain ⟨ps, fills⟩ := batchMalloc_fills done
  obtain ⟨blocks, own', rfl, accounts, adds⟩ := h.fills fills
  rw [fills.take_eq] at perm
  have legal := adds.admitsAll perm
  have pointers : (blocks.map Block.start).Perm others.reduceOption := by
    have perm' := reduceOption_perm perm
    rwa [reduceOption_map_some] at perm'
  obtain ⟨left, -⟩ := accounts.batchFree legal
  have live_eq := (accounts.removes legal).live_eq
  simp only [← pointers.mem_iff] at live_eq
  rw [← List.toFinset_eq_of_perm _ _ pointers,
    Finset.union_sdiff_cancel_right adds.disjoint] at left
  exact ⟨live_eq.trans (adds.live_restored accounts.backs.valid.1), left.sound⟩

/-! ## 5. Clients of a zone -/

/-- A pointer of the client that is the start of a live block is the pointer to that block. -/
theorem Accounts.held_start (h : s.Accounts c.audited owned own)
    (mem : b ∈ c.live (Audited.innerHeap s.heap)) (mine : b.start ∈ owned) :
    own b.start = some b := by
  obtain ⟨d, held⟩ := (h.lists b.start).1 mine
  have proper := c.proper h.backs.valid.1 b mem
  obtain rfl := c.apart h.backs.valid.1 b mem d (h.backs.mem held) _ proper.holds_start
    (h.backs.holds held)
  exact held

theorem Accounts.brings (h : s.Accounts c.audited owned own)
    (done : Zone.batchMalloc s size results = (filled, entries, t)) :
    ∃ blocks, Brings c s owned size results blocks filled entries t := by
  obtain ⟨ps, fills⟩ := batchMalloc_fills done
  obtain ⟨blocks, own', rfl, accounts, adds⟩ := h.fills fills
  refine ⟨blocks, fills, adds, fun b mem => ?_, fun b mem => ?_, accounts.sound⟩
  · exact c.apart accounts.backs.valid.1 b (adds.live_of_mem mem)
  · have mine : b.start ∈ owned ∪ (blocks.map Block.start).toFinset :=
      Finset.mem_union_right _ (List.mem_toFinset.2 (List.mem_map_of_mem mem))
    rw [(accounts.backs.usableSize (accounts.held_start (adds.live_of_mem mem) mine)).1, room_start]
    exact adds.large b mem

theorem Accounts.batches (h : s.Accounts c.audited owned own) : ServesBatches c s owned where
  batchMalloc _ _ _ _ _ done := h.brings done
  batchFree entries legal := by
    obtain ⟨accounts, -⟩ := h.batchFree legal
    exact ⟨h.removes legal, accounts.sound⟩
  batchFree_perm _ _ legal perm := h.batchFree_perm legal perm
  restores _ _ _ _ _ done _ perm := h.restores done perm

theorem InUse.accounts {heap : Heap σ} (valid : c.Valid heap) (bare : c.live heap = ∅)
    {page : PageSize} {config : Config}
    (inUse : InUse (ofHeap (Audited.ofHeap heap) page config) s owned) :
    ∃ own, s.Accounts c.audited owned own := by
  have clean : c.audited.Valid (Audited.ofHeap heap) := ⟨valid, nofun⟩
  induction inUse with
  | start => exact ⟨_, accounts_ofHeap clean bare page config⟩
  | @served _ _ r _ legal ih =>
    obtain ⟨own, accounts⟩ := ih
    exact (accounts.exists_serve r legal).2
  | batchMalloc _ done ih =>
    obtain ⟨own, accounts⟩ := ih
    obtain ⟨ps, fills⟩ := batchMalloc_fills done
    obtain ⟨blocks, own', rfl, accounts', -⟩ := accounts.fills fills
    rw [fills.take_eq, reduceOption_map_some]
    exact ⟨own', accounts'⟩
  | batchFree _ legal ih =>
    obtain ⟨own, accounts⟩ := ih
    exact ⟨_, (accounts.batchFree legal).1⟩

/-- In every state that a client of a zone over any conforming primitive brings about, the
batches of the zone do what they should. -/
theorem InUse.servesBatches (c : Contract σ) {heap : Heap σ} (valid : c.Valid heap)
    (bare : c.live heap = ∅) {page : PageSize} {config : Config}
    (inUse : InUse (ofHeap (Audited.ofHeap heap) page config) s owned) : ServesBatches c s owned := by
  obtain ⟨own, accounts⟩ := inUse.accounts valid bare
  exact accounts.batches

/-- An arena like `skewed` of which the sixth call fails. -/
def failingSixth : Arena.Script := { skewed with fail := [6] }

theorem failingSixth_fits : Arena.Fits failingSixth := by decide

/-- A layer of which the client has one pointer, inside its block, after three calls. -/
def thriceCalled : Layer (Audited Arena) :=
  ((ofHeap (Audited.ofHeap (Arena.fresh failingSixth)) widePages).serve (.memalign 4096 100)).2

theorem inUse_thriceCalled :
    InUse (ofHeap (Audited.ofHeap (Arena.fresh failingSixth)) widePages) thriceCalled {0x40002000} := by
  have ledger : Request.settle ∅ (.memalign 4096 100)
      ((ofHeap (Audited.ofHeap (Arena.fresh failingSixth)) widePages).serve (.memalign 4096 100)).1 =
        {0x40002000} := by decide +kernel
  rw [← ledger]
  exact .served .start trivial

/-- Two of four entries are filled. They can go back in the wrong order, and one of them
can go back with the pointer from before. -/
theorem InUse.servesBatches_thriceCalled :
    (Arena.contract failingSixth failingSixth_fits).Valid (Arena.fresh failingSixth) ∧
      (Arena.contract failingSixth failingSixth_fits).live (Arena.fresh failingSixth) = ∅ ∧
      InUse (ofHeap (Audited.ofHeap (Arena.fresh failingSixth)) widePages) thriceCalled {0x40002000} ∧
      ServesBatches (Arena.contract failingSixth failingSixth_fits) thriceCalled {0x40002000} ∧
      ∃ t, Zone.batchMalloc thriceCalled 64 [some 1, some 2, none, some 3] =
          (2, [some 0x40004210, some 0x40004290, none, some 3], t) ∧
        (Arena.contract failingSixth failingSixth_fits).live (Audited.innerHeap
            (Zone.batchFree t [some 0x40004290, some 0x40004210]).heap) =
          (Arena.contract failingSixth failingSixth_fits).live
            (Audited.innerHeap thriceCalled.heap) ∧
        (Zone.batchFree t [some 0x40004210, none, some 0x40002000]).trackedAlignedBlocks = 0 := by
  have valid := Arena.valid_fresh failingSixth failingSixth_fits
  have bare := Arena.live_fresh failingSixth failingSixth_fits
  have serves := inUse_thriceCalled.servesBatches _ valid bare
  have done : Zone.batchMalloc thriceCalled 64 [some 1, some 2, none, some 3] =
      (2, [some 0x40004210, some 0x40004290, none, some 3],
        (Zone.batchMalloc thriceCalled 64 [some 1, some 2, none, some 3]).2.2) :=
    Prod.ext (by decide +kernel) (Prod.ext (by decide +kernel) (by dsimp only))
  refine ⟨valid, bare, inUse_thriceCalled, serves, _, done, ?_, by decide +kernel⟩
  exact (serves.restores _ _ _ _ _ done _ (.swap _ _ _)).1

end Layer

end MallocLayer
