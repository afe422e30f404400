import MallocLayer.Files.Tree
import MallocLayer.Proofs.FewRequests
import MallocLayer.Proofs.ScenarioPasses
import Mathlib.Data.List.Infix

/-!
# The self-check raises no false alarm

A self-check runs the selected scenarios over a new layer, and the layer runs over a system
allocator. When the system allocator keeps its contract and satisfies all requests of at
most one MiB, every report of the run says that the scenario passed, and nothing is left
out at the end. Nothing is assumed about where the regions lie. Pages may be of any size
of which three fit in the one MiB, since `valloc` may ask for as much.

The scenarios are run on a watched system allocator first, because only there it can be
said which requests were refused. The watch makes no difference to the run
(`selected_follow`), so what is reported without it is the same.
-/

namespace MallocLayer

open Primitive (Block)

variable {α : Type}

/-! ## 1. Which scenarios are selected -/

theorem Text.occursIn_iff (part text : List Char) : occursIn part text = true ↔ part <:+: text := by
  induction text with
  | nil => simp [occursIn, List.isEmpty_iff]
  | cons c rest ih =>
    rw [occursIn, Bool.or_eq_true, ih, List.isPrefixOf_iff_prefix, List.infix_cons_iff]

namespace SelfCheck

/-- The scenarios whose name contains the filter, in the order of the table; without a filter,
all of them. -/
def containing (α : Type) [SystemAllocator α] (filter : Option String) : List (Scenario α) :=
  (Scenario.all α).filter fun scenario =>
    decide (∀ part ∈ filter, part.toList <:+: scenario.name.toList)

theorem selected_eq (α : Type) [SystemAllocator α] (filter : Option String) :
    selected α filter = containing α filter := by
  refine List.filter_congr fun scenario _ => ?_
  cases filter with
  | none => simp
  | some part => simp [← Text.occursIn_iff]

/-! ## 2. Running the scenarios -/

section Passing

variable [SystemAllocator α] {c : SystemContract α}

open Scenario in
theorem all_pass : ∀ scenario ∈ Scenario.all (Watched α), Passes c scenario.check := by
  simp only [Scenario.all, List.forall_mem_cons]
  exact ⟨shrinkStaysInPlace_passes, deepShrinkMoves_passes, growthIsAmortized_passes,
    zeroReturnsMinimalObject_passes, nullIsMalloc_passes, callocRejectsOverflow_passes,
    callocZeroFills_passes, memalignHonorsAlignment_passes, posixMemalignReportsEinval_passes,
    alignedAllocRejectsOverflow_passes, vallocIsPageAligned_passes,
    strdupCopiesTerminator_passes, goodSizeReportsCapacity_passes, forkBracketPairsLock_passes,
    zoneBatchRoundTrip_passes, zoneRegistersOnce_passes, List.forall_mem_nil _⟩

/-- Scenarios that pass one by one pass one after the other, unless memory is short. -/
theorem checkAll_pass {scenarios : List (Scenario (Watched α))}
    (pass : ∀ scenario ∈ scenarios, Scenario.Passes c scenario.check)
    (blind : ∀ past, List.Forall₂ (Scenario.Matches (Watched.withPast past)) scenarios scenarios)
    {s : Layer (HeaderHeap (Watched α))} (idle : s.Idle c)
    (fed : ¬ (checkAll scenarios s).2.Starved) :
    (checkAll scenarios s).1 = scenarios.map (fun _ => .ok ()) ∧
      (checkAll scenarios s).2.Idle c := by
  induction scenarios generalizing s with
  | nil => exact ⟨rfl, idle⟩
  | cons scenario rest ih =>
    obtain ⟨first, later⟩ := List.forall_mem_cons.1 pass
    have blind' past := (List.forall₂_cons.1 (blind past)).2
    have outcome := (first s idle).outcome
    unfold checkAll at fed ⊢
    generalize scenario.check.run s = answer at outcome fed ⊢
    rcases answer with ⟨_ | _, t⟩
    · have starved : t.Starved := outcome
      exact absurd (starved.later fun past s => checkAll_over (blind' past) s) fed
    · obtain ⟨passed, idle'⟩ := ih later blind' outcome fed
      exact ⟨congrArg (_ :: ·) passed, idle'⟩

end Passing

/-! ## 3. Reports -/

/-- A clock measures a computation without changing what comes of it. -/
def HonestClock (ρ : Type) [Clock (StateM ρ)] : Prop :=
  ∀ {β : Type} (f : Unit → β) (r : ρ), ((Clock.timed f : StateM ρ (β × UInt64)).run r).1.1 = f ()

/-- The report without the time that the scenario took. -/
def Report.untimed (report : Report) : Report := { report with durationNs := 0 }

theorem Report.untimed_ofResult (scenario : Scenario α) (result : Except Failure Unit)
    (durationNs : UInt64) :
    (Report.ofResult scenario result durationNs).untimed = .ofResult scenario result 0 := by
  cases result with
  | ok => rfl
  | error => rfl

variable {ρ : Type} [Clock (StateM ρ)]

/-- A clock that is honest makes no difference to what the scenarios do. -/
theorem runAll_run (honest : HonestClock ρ) (scenarios : List (Scenario α))
    (s : Layer (HeaderHeap α)) (r : ρ) :
    ((runAll scenarios s : StateM ρ _).run r).1.1.map Report.untimed =
        List.zipWith (Report.ofResult · · 0) scenarios (checkAll scenarios s).1 ∧
      ((runAll scenarios s : StateM ρ _).run r).1.2 = (checkAll scenarios s).2 := by
  induction scenarios generalizing s r with
  | nil => exact ⟨rfl, rfl⟩
  | cons scenario rest ih =>
    have outcome := honest (fun _ => scenario.check.run s) r
    rcases timed : (Clock.timed (fun _ => scenario.check.run s) : StateM ρ _).run r with
      ⟨⟨⟨result, t⟩, durationNs⟩, r'⟩
    rw [timed] at outcome
    obtain ⟨reports, last⟩ := ih t r'
    have step : ((runAll (scenario :: rest) s : StateM ρ _).run r).1 =
        (((runAll rest t : StateM ρ _).run r').1).map
          (.ofResult scenario result durationNs :: ·) id := by
      simp only [runAll, StateT.run_bind, timed]
      rfl
    unfold checkAll
    rw [step, ← outcome]
    exact ⟨congrArg₂ List.cons (Report.untimed_ofResult scenario result durationNs) reports, last⟩

/-- What a self-check comes to when the clock is in the state `r`: its reports, and the layer. -/
def outcome [SystemAllocator α] (heap : Heap α) (page : PageSize) (filter : Option String)
    (r : ρ) : SelfCheck × Layer (HeaderHeap α) :=
  ((runOver heap page filter : StateM ρ _).run r).1

/-- The layer that a self-check starts with. -/
def startLayer (heap : Heap α) (page : PageSize) : Layer (HeaderHeap α) :=
  .ofHeap ⟨{ system := heap.state }, heap.memory⟩ page { trace := true }

/-- The layer once its records are drained. -/
def drained {σ : Type} (s : Layer σ) : Layer σ := { s with log := s.log.drain.2 }

theorem outcome_eq [SystemAllocator α] (honest : HonestClock ρ) (heap : Heap α) (page : PageSize)
    (filter : Option String) (r : ρ) :
    (outcome heap page filter r).1.reports.map Report.untimed =
        List.zipWith (Report.ofResult · · 0) (containing α filter)
          (checkAll (containing α filter) (startLayer heap page)).1 ∧
      (outcome heap page filter r).2 =
        drained (checkAll (containing α filter) (startLayer heap page)).2 := by
  rw [← selected_eq]
  obtain ⟨reports, last⟩ := runAll_run honest (selected α filter) (startLayer heap page) r
  exact ⟨reports, congrArg drained last⟩

/-! ## 4. No false alarm -/

section Watching

variable [SystemAllocator α] {c : SystemContract α} {heap : Heap α} {regions : Set Block}
  {page : PageSize}

theorem idle_startLayer (lent : c.Lent heap regions) (page_le : page.bytes.toNat ≤ largestPage) :
    (startLayer (Watched.ofHeap heap) page).Idle c := by
  refine ⟨Layer.backs_of_bare ?_ ?_ (Layer.represents_no_tenancy _), rfl, page_le, rfl⟩
  · exact (⟨⟨regions, lent, nofun⟩, List.nodup_nil, nofun, rfl⟩ :
      HeaderHeap.Orderly c (startLayer (Watched.ofHeap heap) page).heap)
  · exact Set.eq_empty_of_forall_notMem fun b ⟨r, mem, _⟩ => List.not_mem_nil mem

/-- The watch makes no difference to the scenarios. -/
theorem checkAll_unwatched (heap : Heap α) (page : PageSize) (filter : Option String) :
    checkAll (containing α filter) (startLayer heap page) =
      (checkAll (containing (Watched α) filter) (startLayer (Watched.ofHeap heap) page)).map id
        (Layer.over Watched.inner) := by
  have follow := selected_follow (Watched.inner_projects (α := α)) filter
  rw [← selected_eq, ← selected_eq]
  exact checkAll_over follow (startLayer (Watched.ofHeap heap) page)

/-- The layer is the watched one without the watch, and nothing is out: no block of the header
heap, no region of the system allocator, and no entry of the side table. -/
structure LeftClean (watched : Layer (HeaderHeap (Watched α))) (s : Layer (HeaderHeap α)) :
    Prop where
  unwatched : s = watched.over Watched.inner
  live : s.heap.state.live = 0
  balanced : s.heap.state.allocations = s.heap.state.deallocations
  regions : watched.heap.state.system.regions = []
  tracked : s.trackedAlignedBlocks = 0

/-- The self-check raises no false alarm. Over any system allocator that keeps its contract, and
refuses no request of at most one MiB in the run, every scenario that the filter selects passes,
in the order of the table, and the layer is left clean. The pages are such that three of them fit
in that MiB, since a page-aligned block may take that much to find. -/
theorem outcome_passes (c : SystemContract α) (honest : HonestClock ρ) (lent : c.Lent heap regions)
    (page_le : page.bytes.toNat ≤ largestPage) (filter : Option String) (r : ρ)
    (satisfied : ¬ (outcome (Watched.ofHeap heap) page filter r).2.Starved) :
    (outcome heap page filter r).1.reports.map Report.untimed =
        (containing α filter).map (fun scenario =>
          { name := scenario.name, symbol := scenario.symbol, outcome := .pass }) ∧
      LeftClean (outcome (Watched.ofHeap heap) page filter r).2
        (outcome heap page filter r).2 := by
  obtain ⟨reports, last⟩ := outcome_eq honest heap page filter r
  obtain ⟨-, watched⟩ := outcome_eq honest (Watched.ofHeap heap) page filter r
  have pass : ∀ scenario ∈ containing (Watched α) filter, Scenario.Passes c scenario.check :=
    fun scenario mem => all_pass scenario (List.mem_of_mem_filter mem)
  have blind past := selected_follow (Watched.withPast_projects (α := α) past) filter
  simp only [selected_eq] at blind
  rw [watched] at satisfied ⊢
  obtain ⟨passed, idle⟩ := checkAll_pass pass blind (idle_startLayer lent page_le) satisfied
  rw [checkAll_unwatched] at reports last
  rw [reports, last]
  constructor
  · have follow := selected_follow (Watched.inner_projects (α := α)) filter
    simp only [selected_eq] at follow
    have same : (containing (Watched α) filter).map (fun _ => Except.ok ()) =
        (containing α filter).map (fun _ => (.ok () : Except Failure Unit)) := by
      rw [List.map_const', List.map_const', follow.length_eq]
    show List.zipWith _ _ (checkAll (containing (Watched α) filter) _).1 = _
    rw [passed, same, List.zipWith_map_right, List.zipWith_self]
    rfl
  · exact
      { unwatched := rfl
        live := idle.backs.live_eq_zero
        balanced := idle.backs.allocations_eq
        regions := idle.backs.regions_eq_nil
        tracked := idle.backs.tracked_eq_zero }

/-- Regions of one MiB at most, cut from a range of which nothing was cut so far. -/
def cappedHeap : Heap (Capped RegionSource) := ⟨⟨{}⟩, Memory.empty⟩

/-- Whatever the filter selects, the range is long enough. -/
theorem not_starved_cappedHeap (honest : HonestClock ρ) (page : PageSize) (filter : Option String)
    (r : ρ) : ¬ (outcome (Watched.ofHeap cappedHeap) page filter r).2.Starved := by
  have few : (containing (Watched (Capped RegionSource)) filter).length ≤ 16 :=
    List.length_filter_le ..
  have start : (startLayer (Watched.ofHeap cappedHeap) page).Left RegionSource.budget (204 * 16) :=
    ⟨nofun, show 0x100000 + 204 * 16 * (2 ^ 20 + 15) ≤ RegionSource.limit by decide⟩
  have spend : ∀ scenario ∈ containing (Watched (Capped RegionSource)) filter,
      Check.Spends RegionSource.budget scenario.check 204 :=
    fun scenario mem => Scenario.all_spend scenario (List.mem_of_mem_filter mem)
  obtain ⟨large, -⟩ := checkAll_left (k := 0) spend (start.less (by omega))
  rw [(outcome_eq honest (Watched.ofHeap cappedHeap) page filter r).2]
  rintro ⟨layout, refused, small⟩
  exact absurd small (Nat.not_le.2 (large layout refused))

/-- Without a filter, all sixteen scenarios pass one after the other, also where pages are larger
than usual. -/
theorem outcome_passes_cappedHeap :
    HonestClock FileTree ∧ (Capped.contract RegionSource.contract).Lent cappedHeap ∅ ∧
      Layer.widePages.bytes.toNat ≤ largestPage ∧
      ¬ (outcome (Watched.ofHeap cappedHeap) Layer.widePages none ({} : FileTree)).2.Starved ∧
      (outcome cappedHeap Layer.widePages none ({} : FileTree)).1.reports.map Report.untimed =
        (Scenario.all (Capped RegionSource)).map (fun scenario =>
          { name := scenario.name, symbol := scenario.symbol, outcome := .pass }) ∧
      (outcome cappedHeap Layer.widePages none ({} : FileTree)).1.reports.length = 16 ∧
      (outcome cappedHeap Layer.widePages none ({} : FileTree)).2.heap.state.live = 0 := by
  have honest : HonestClock FileTree := fun _ _ => rfl
  have lent : (Capped.contract RegionSource.contract).Lent cappedHeap ∅ :=
    RegionSource.lent_fresh Memory.empty
  have page_le : Layer.widePages.bytes.toNat ≤ largestPage := by decide
  have satisfied :
      ¬ (outcome (Watched.ofHeap cappedHeap) Layer.widePages none ({} : FileTree)).2.Starved :=
    not_starved_cappedHeap honest Layer.widePages none {}
  obtain ⟨reports, clean⟩ :=
    outcome_passes (Capped.contract RegionSource.contract) honest lent page_le none {} satisfied
  have all : containing (Capped RegionSource) none = Scenario.all (Capped RegionSource) := by
    rw [← selected_eq]
    rfl
  rw [all] at reports
  have length := congrArg List.length reports
  rw [List.length_map, List.length_map] at length
  exact ⟨honest, lent, page_le, satisfied, reports, length, clean.live⟩

end Watching

end SelfCheck

end MallocLayer
