import MallocLayer.Lifecycle

/-!
# The log is a bounded queue

A journal keeps every record that was ever appended, period by period, where a
period ends with a drain. The ring of the log has room for the newest records of
the running period only. It answers like the journal all the same: the records
that it retains are the newest ones of the running period, it counts those that
it lost, and the ids go on over drains and overwrites (`run_followsJournal`).

All index arithmetic is in section 1: appending moves the retained records to
the front by one place if the ring is full, and leaves them where they are
otherwise (`nth_record`). From there on the ring is its snapshot.
-/

namespace MallocLayer

open Lifecycle

namespace LifecycleLog

variable {log : LifecycleLog} {e : Event} {i : Nat}

/-! ## 1. The ring -/

/-- The `i`-th retained record, counted from the oldest. -/
def nth (log : LifecycleLog) (i : Nat) : Option Record := log.slots.get (log.slotOf i)

/-- The record that an event becomes. -/
def stamp (log : LifecycleLog) (e : Event) : Record := { e with decisionId := log.nextId }

/-- The number of records that the next one overwrites. -/
def overwrites (log : LifecycleLog) : Nat := if log.size = capacity then 1 else 0

/-- The retained records are there. -/
structure WellFormed (log : LifecycleLog) : Prop where
  size_le : log.size ≤ capacity
  filled : ∀ i < log.size, (log.nth i).isSome

theorem overwrites_eq (log : LifecycleLog) :
    log.size = capacity ∧ log.overwrites = 1 ∨ log.size ≠ capacity ∧ log.overwrites = 0 := by
  unfold overwrites
  by_cases full : log.size = capacity
  · exact .inl ⟨full, if_pos full⟩
  · exact .inr ⟨full, if_neg full⟩

theorem size_record (log : LifecycleLog) (e : Event) :
    (log.record e).2.size + log.overwrites = log.size + 1 := by
  unfold record overwrites
  dsimp only
  split <;> rfl

theorem dropped_record (log : LifecycleLog) (e : Event) :
    (log.record e).2.dropped = log.dropped + log.overwrites := by
  unfold record overwrites
  dsimp only
  split <;> rfl

/-- The slot behind the retained records is the head, and comes only after them. -/
theorem slotOf_eq_head (le : i ≤ log.size) (size_le : log.size ≤ capacity)
    (past : log.overwrites ≤ i) : log.slotOf i = log.head ↔ i = log.size := by
  have head := log.head.isLt
  have overwrites := log.overwrites_eq
  have value : (log.slotOf i).val = (log.head.val + capacity - log.size + i) % capacity := rfl
  rw [Fin.ext_iff, value]
  simp only [capacity] at *
  omega

/-- The places of the retained records stay, and so the oldest one moves on when
it is overwritten. -/
theorem slotOf_record (size_le : log.size ≤ capacity) (e : Event) (i : Nat) :
    (log.record e).2.slotOf i = log.slotOf (i + log.overwrites) := by
  have head := log.head.isLt
  have overwrites := log.overwrites_eq
  have size := size_record log e
  apply Fin.ext
  show ((log.head.val + 1) % capacity + capacity - (log.record e).2.size + i) % capacity =
    (log.head.val + capacity - log.size + (i + log.overwrites)) % capacity
  simp only [capacity] at *
  omega

/-- Appending leaves the retained records where they are, and puts the new one
behind them. -/
theorem nth_record (size_le : log.size ≤ capacity) (e : Event)
    (le : i + log.overwrites ≤ log.size) :
    (log.record e).2.nth i =
      if i + log.overwrites = log.size then some (log.stamp e)
      else log.nth (i + log.overwrites) := by
  have slots : (log.record e).2.slots =
      log.slots.set log.head (some (log.stamp e)) log.head.isLt := rfl
  have atHead := slotOf_eq_head le size_le (Nat.le_add_left ..)
  rw [nth, slotOf_record size_le, slots]
  by_cases last : i + log.overwrites = log.size
  · rw [if_pos last, atHead.2 last]
    exact Vector.getElem_set_self _
  · rw [if_neg last]
    exact Vector.getElem_set_ne _ _ fun same => last (atHead.1 (Fin.ext same.symm))

theorem WellFormed.record (h : log.WellFormed) (e : Event) : (log.record e).2.WellFormed := by
  have size := size_record log e
  have overwrites := log.overwrites_eq
  have size_le := h.size_le
  constructor
  · omega
  · intro i less
    rw [nth_record size_le e (by omega)]
    split
    · rfl
    · exact h.filled _ (by omega)

theorem WellFormed.setFrozen (h : log.WellFormed) (frozen : Bool) :
    WellFormed { log with frozen } := ⟨h.size_le, h.filled⟩

theorem wellFormed_of_size_eq_zero (none : log.size = 0) : log.WellFormed := by
  constructor
  · omega
  · intro i less
    omega

/-! ## 2. The snapshot -/

theorem filterMap_range_of_getElem? {α : Type} {l : List α} {f : Nat → Option α} {n : Nat}
    (le : n ≤ l.length) (entries : ∀ i < n, f i = l[i]?) :
    (List.range n).filterMap f = l.take n := by
  induction n with
  | zero => rfl
  | succ n ih =>
    have last : f n = some l[n] := (entries n (by omega)).trans (List.getElem?_eq_getElem le)
    rw [List.range_succ, List.filterMap_append, ih (by omega) fun i less => entries i (by omega),
      List.filterMap_cons_some last, List.filterMap_nil, List.take_append_getElem le]

/-- A list with the retained records in their order is the snapshot. -/
theorem snapshot_eq_of_nth {l : List Record} (length : l.length = log.size)
    (entries : ∀ i < log.size, log.nth i = l[i]?) : log.snapshot = l := by
  have snapshot : log.snapshot = l.take log.size :=
    filterMap_range_of_getElem? (Nat.le_of_eq length.symm) entries
  rw [snapshot, ← length, List.take_length]

theorem WellFormed.snapshot_spec (h : log.WellFormed) :
    log.snapshot.length = log.size ∧ ∀ i < log.size, log.nth i = log.snapshot[i]? := by
  let l := List.ofFn fun i : Fin log.size => (log.nth i).get (h.filled i i.isLt)
  have length : l.length = log.size := List.length_ofFn
  have entries : ∀ i < log.size, log.nth i = l[i]? := by
    intro i less
    rw [List.getElem?_eq_getElem (by omega), List.getElem_ofFn, Option.some_get]
  rw [snapshot_eq_of_nth length entries]
  exact ⟨length, entries⟩

/-- Appending to a full ring costs the oldest record. -/
theorem snapshot_record (h : log.WellFormed) (e : Event) :
    (log.record e).2.snapshot = (log.snapshot ++ [log.stamp e]).drop log.overwrites := by
  obtain ⟨length, entries⟩ := h.snapshot_spec
  have size := size_record log e
  apply snapshot_eq_of_nth
  · rw [List.length_drop, List.length_append, List.length_singleton, length]
    omega
  · intro i less
    rw [nth_record h.size_le e (by omega), List.getElem?_drop, Nat.add_comm log.overwrites]
    split
    · next last => rw [last, ← length, List.getElem?_concat_length]
    · next before => rw [entries _ (by omega), List.getElem?_append_left (by omega)]

end LifecycleLog

/-! ## 3. The journal -/

/-- All that was ever appended to a log. -/
structure Journal where
  /-- The periods that ended with a drain, the last one first. -/
  past : List (List Record) := []
  /-- What was appended since. -/
  current : List Record := []
  frozen : Bool := false

namespace Journal

/-- What a period retains: its last records, as many as there is room for. -/
def newest (period : List Record) : List Record := period.drop (period.length - capacity)

/-- How many records of a period are overwritten. -/
def lost (period : List Record) : Nat := period.length - capacity

/-- All records, in the order in which they were appended. -/
def appended (j : Journal) : List Record := j.past.reverse.flatten ++ j.current

/-- The number of records that drains returned. -/
def drained (j : Journal) : Nat := j.past.foldr (fun period n => (newest period).length + n) 0

/-- The number of records overwritten, summed over the periods. -/
def dropped (j : Journal) : Nat :=
  j.past.foldr (fun period n => lost period + n) 0 + lost j.current

/-- The id of the next record. -/
def nextId (j : Journal) : UInt64 := UInt64.ofNat (j.appended.length + 1)

def append (j : Journal) (e : Event) : Journal :=
  { j with current := j.current ++ [{ e with decisionId := j.nextId }] }

def close (j : Journal) : Journal := { j with past := j.current :: j.past, current := [] }

variable {j : Journal} {e : Event}

theorem appended_append : (j.append e).appended = j.appended ++ [⟨e, j.nextId⟩] :=
  (List.append_assoc ..).symm

theorem appended_close : j.close.appended = j.appended := by
  simp [appended, close]

theorem length_newest (period : List Record) :
    (newest period).length = min period.length capacity := by
  rw [newest, List.length_drop]
  omega

/-- Every record was returned by a drain, is retained, or was overwritten. -/
theorem length_appended (j : Journal) :
    j.appended.length = j.drained + (newest j.current).length + j.dropped := by
  have period (l : List Record) : l.length = (newest l).length + lost l := by
    rw [length_newest, lost]
    omega
  have past (periods : List (List Record)) :
      periods.reverse.flatten.length =
        periods.foldr (fun period n => (newest period).length + n) 0 +
          periods.foldr (fun period n => lost period + n) 0 := by
    induction periods with
    | nil => rfl
    | cons l rest ih =>
      rw [List.reverse_cons, List.flatten_append, List.flatten_singleton, List.length_append, ih,
        period l, List.foldr_cons, List.foldr_cons]
      omega
  rw [appended, List.length_append, past, drained, dropped, period j.current]
  omega

end Journal

/-! ## 4. Requests -/

/-- What can be asked of a log. -/
inductive LogRequest where
  | record (e : Event)
  | tryRecord (e : Event)
  | snapshot
  | drain
  | dropped
  | freeze
  | thaw
deriving DecidableEq, Repr

inductive LogReply where
  /-- The id of the new record, if there is one. -/
  | recorded (id : Option UInt64)
  | records (records : List Record)
  | count (n : Nat)
  | done
deriving DecidableEq, Repr

namespace LifecycleLog

def perform (log : LifecycleLog) : LogRequest → LogReply × LifecycleLog
  | .record e => (.recorded (some (log.record e).1), (log.record e).2)
  | .tryRecord e => (.recorded (log.tryRecord e).1, (log.tryRecord e).2)
  | .snapshot => (.records log.snapshot, log)
  | .drain => (.records log.drain.1, log.drain.2)
  | .dropped => (.count log.dropped, log)
  | .freeze => (.done, { log with frozen := true })
  | .thaw => (.done, { log with frozen := false })

/-- Performs requests one after the other. -/
def run (log : LifecycleLog) : List LogRequest → List LogReply × LifecycleLog
  | [] => ([], log)
  | r :: rest =>
    ((log.perform r).1 :: ((log.perform r).2.run rest).1, ((log.perform r).2.run rest).2)

end LifecycleLog

namespace Journal

def perform (j : Journal) : LogRequest → LogReply × Journal
  | .record e => (.recorded (some j.nextId), j.append e)
  | .tryRecord e =>
    if j.frozen then (.recorded none, j) else (.recorded (some j.nextId), j.append e)
  | .snapshot => (.records (newest j.current), j)
  | .drain => (.records (newest j.current), j.close)
  | .dropped => (.count j.dropped, j)
  | .freeze => (.done, { j with frozen := true })
  | .thaw => (.done, { j with frozen := false })

/-- Performs requests one after the other. -/
def run (j : Journal) : List LogRequest → List LogReply × Journal
  | [] => ([], j)
  | r :: rest => ((j.perform r).1 :: ((j.perform r).2.run rest).1, ((j.perform r).2.run rest).2)

/-- The ids in some replies. -/
def ids (replies : List LogReply) : List UInt64 := replies.filterMap fun
  | .recorded id => id
  | _ => none

end Journal

/-! ## 5. The log answers like the journal -/

/-- The log has what the journal says. -/
structure LifecycleLog.Represents (log : LifecycleLog) (j : Journal) : Prop where
  wellFormed : log.WellFormed
  snapshot : log.snapshot = Journal.newest j.current
  nextId : log.nextId = j.nextId
  dropped : log.dropped = j.dropped
  frozen : log.frozen = j.frozen

namespace LifecycleLog.Represents

variable {log : LifecycleLog} {j : Journal} {r : LogRequest}

theorem empty : ({} : LifecycleLog).Represents {} where
  wellFormed := wellFormed_of_size_eq_zero rfl
  snapshot := rfl
  nextId := rfl
  dropped := rfl
  frozen := rfl

theorem record (h : log.Represents j) (e : Event) : (log.record e).2.Represents (j.append e) := by
  have overwrites := log.overwrites_eq
  have length : (j.append e).current.length = j.current.length + 1 := List.length_append
  -- The ring is full exactly when the running period fills it.
  have size : log.size = min j.current.length capacity := by
    rw [← h.wellFormed.snapshot_spec.1, h.snapshot, Journal.length_newest]
  have start : j.current.length + 1 - capacity = j.current.length - capacity + log.overwrites := by
    omega
  constructor
  · exact h.wellFormed.record e
  · have stamped : log.stamp e = ⟨e, j.nextId⟩ := by rw [stamp, h.nextId]
    have le : j.current.length - capacity ≤ j.current.length := Nat.sub_le ..
    rw [snapshot_record h.wellFormed, h.snapshot, stamped, Journal.newest, Journal.newest, length,
      start, ← List.drop_append_of_le_length le, List.drop_drop]
    rfl
  · have next : (log.record e).2.nextId = log.nextId + 1 := rfl
    rw [next, h.nextId, Journal.nextId, Journal.nextId, Journal.appended_append, List.length_append,
      List.length_singleton, UInt64.ofNat_add (j.appended.length + 1)]
    rfl
  · have past : (j.append e).past = j.past := rfl
    rw [dropped_record, h.dropped, Journal.dropped, Journal.dropped, Journal.lost, Journal.lost,
      length, past, start, Nat.add_assoc]
  · exact h.frozen

theorem drain (h : log.Represents j) : log.drain.2.Represents j.close := by
  constructor
  · exact wellFormed_of_size_eq_zero rfl
  · exact List.drop_nil.symm
  · rw [Journal.nextId, Journal.appended_close]
    exact h.nextId
  · have same : log.drain.2.dropped = log.dropped := rfl
    have past : j.close.past = j.current :: j.past := rfl
    have current : Journal.lost j.close.current = 0 := Nat.zero_sub ..
    rw [same, h.dropped, Journal.dropped, Journal.dropped, past, current, List.foldr_cons,
      Nat.add_zero, Nat.add_comm]
  · exact h.frozen

theorem setFrozen (h : log.Represents j) (frozen : Bool) :
    Represents { log with frozen } { j with frozen } :=
  ⟨h.wellFormed.setFrozen frozen, h.snapshot, h.nextId, h.dropped, rfl⟩

theorem perform (h : log.Represents j) (r : LogRequest) :
    (log.perform r).1 = (j.perform r).1 ∧ (log.perform r).2.Represents (j.perform r).2 := by
  cases r with
  | record e => exact ⟨congrArg (LogReply.recorded <| some ·) h.nextId, h.record e⟩
  | tryRecord e =>
    simp only [LifecycleLog.perform, Journal.perform, tryRecord, h.frozen]
    split
    · exact ⟨rfl, h⟩
    · exact ⟨congrArg (LogReply.recorded <| some ·) h.nextId, h.record e⟩
  | snapshot => exact ⟨congrArg LogReply.records h.snapshot, h⟩
  | drain => exact ⟨congrArg LogReply.records h.snapshot, h.drain⟩
  | dropped => exact ⟨congrArg LogReply.count h.dropped, h⟩
  | freeze => exact ⟨rfl, h.setFrozen true⟩
  | thaw => exact ⟨rfl, h.setFrozen false⟩

theorem run (h : log.Represents j) (requests : List LogRequest) :
    (log.run requests).1 = (j.run requests).1 ∧
      (log.run requests).2.Represents (j.run requests).2 := by
  induction requests generalizing log j with
  | nil => exact ⟨rfl, h⟩
  | cons r rest ih =>
    obtain ⟨reply, next⟩ := h.perform r
    obtain ⟨replies, last⟩ := ih next
    exact ⟨congr (congrArg List.cons reply) replies, last⟩

end LifecycleLog.Represents

/-! ## 6. Ids -/

namespace Journal

/-- Records have the ids from one on, in the order in which they were appended. -/
def Numbered (j : Journal) : Prop :=
  j.appended.map (·.decisionId) = (List.range' 1 j.appended.length).map UInt64.ofNat

variable {j : Journal} {e : Event} {r : LogRequest}

theorem numbered_empty : ({} : Journal).Numbered := rfl

theorem Numbered.append (h : j.Numbered) (e : Event) : (j.append e).Numbered := by
  unfold Numbered at *
  rw [appended_append, List.map_append, h, List.length_append, List.length_singleton,
    List.range'_concat, List.map_append]
  simp [nextId, Nat.add_comm]

/-- A request either appends nothing and reports no id, or appends a record and
reports its id. -/
theorem perform_cases (j : Journal) (r : LogRequest) :
    (ids [(j.perform r).1] = [] ∧ (j.perform r).2.appended = j.appended) ∨
      ∃ e, ids [(j.perform r).1] = [j.nextId] ∧ (j.perform r).2 = j.append e := by
  cases r with
  | record e => exact .inr ⟨e, rfl, rfl⟩
  | tryRecord e =>
    by_cases frozen : j.frozen
    · exact .inl (by simp [perform, frozen, ids])
    · exact .inr ⟨e, by simp [perform, frozen, ids]⟩
  | drain => exact .inl ⟨rfl, appended_close⟩
  | snapshot => exact .inl ⟨rfl, rfl⟩
  | dropped => exact .inl ⟨rfl, rfl⟩
  | freeze => exact .inl ⟨rfl, rfl⟩
  | thaw => exact .inl ⟨rfl, rfl⟩

theorem ids_cons (reply : LogReply) (replies : List LogReply) :
    ids (reply :: replies) = ids [reply] ++ ids replies :=
  List.filterMap_append (l := [reply])

/-- The ids reported are those of the records appended. -/
theorem ids_run (j : Journal) (requests : List LogRequest) :
    j.appended.map (·.decisionId) ++ ids (j.run requests).1 =
      (j.run requests).2.appended.map (·.decisionId) := by
  induction requests generalizing j with
  | nil => exact List.append_nil _
  | cons r rest ih =>
    have next := ih (j.perform r).2
    have step : j.appended.map (·.decisionId) ++ ids [(j.perform r).1] =
        (j.perform r).2.appended.map (·.decisionId) := by
      rcases perform_cases j r with ⟨silent, same⟩ | ⟨e, reported, appends⟩
      · rw [silent, same, List.append_nil]
      · rw [reported, appends, appended_append, List.map_append]
        rfl
    show _ ++ ids (_ :: _) = _
    rw [ids_cons, ← List.append_assoc, step, next]
    rfl

theorem Numbered.run (h : j.Numbered) (requests : List LogRequest) :
    (j.run requests).2.Numbered := by
  induction requests generalizing j with
  | nil => exact h
  | cons r rest ih =>
    apply ih
    rcases perform_cases j r with ⟨-, same⟩ | ⟨e, -, appends⟩
    · unfold Numbered at *
      rwa [same]
    · rw [appends]
      exact h.append e

/-- A request appends at most one record. -/
theorem length_appended_run_le (j : Journal) (requests : List LogRequest) :
    (j.run requests).2.appended.length ≤ j.appended.length + requests.length := by
  induction requests generalizing j with
  | nil => exact Nat.le_refl _
  | cons r rest ih =>
    have next := ih (j.perform r).2
    have step : (j.perform r).2.appended.length ≤ j.appended.length + 1 := by
      rcases perform_cases j r with ⟨-, same⟩ | ⟨e, -, appends⟩
      · rw [same]
        exact Nat.le_succ _
      · rw [appends, appended_append, List.length_append]
        exact Nat.le_refl _
    show ((j.perform r).2.run rest).2.appended.length ≤ _
    rw [List.length_cons]
    omega

/-- As long as ids fit a word, they count. -/
theorem Numbered.toNat (h : j.Numbered) (few : j.appended.length < UInt64.size) :
    j.appended.map (·.decisionId.toNat) = List.range' 1 j.appended.length := by
  calc j.appended.map (·.decisionId.toNat)
    _ = (j.appended.map (·.decisionId)).map UInt64.toNat := by rw [List.map_map]; rfl
    _ = (List.range' 1 j.appended.length).map fun n => (UInt64.ofNat n).toNat := by
      rw [h, List.map_map]
      rfl
    _ = (List.range' 1 j.appended.length).map id := by
      refine List.map_congr_left fun n member => ?_
      have less := (List.mem_range'_1.1 member).2
      exact UInt64.toNat_ofNat_of_lt (by omega)
    _ = List.range' 1 j.appended.length := List.map_id _

/-- What is retained is the end of what was appended. -/
theorem newest_eq_drop (j : Journal) :
    newest j.current = j.appended.drop (j.appended.length - (newest j.current).length) := by
  have length : j.appended.length - (newest j.current).length =
      j.past.reverse.flatten.length + (j.current.length - capacity) := by
    rw [length_newest, appended, List.length_append]
    omega
  rw [length, appended, List.drop_append]
  simp [newest]

end Journal

namespace LifecycleLog

variable {log : LifecycleLog} {j : Journal}

/-- The ids of the retained records are the last ones. -/
theorem Represents.map_snapshot (h : log.Represents j) (numbered : j.Numbered)
    (few : j.appended.length < UInt64.size) :
    log.snapshot.map (·.decisionId.toNat) =
      List.range' (j.appended.length + 1 - log.snapshot.length) log.snapshot.length := by
  have suffix := j.newest_eq_drop
  have total := j.length_appended
  rw [← h.snapshot] at suffix total
  calc log.snapshot.map (·.decisionId.toNat)
    _ = (j.appended.map (·.decisionId.toNat)).drop (j.appended.length - log.snapshot.length) := by
      rw [← List.map_drop, ← suffix]
    _ = List.range' (j.appended.length + 1 - log.snapshot.length) log.snapshot.length := by
      rw [numbered.toNat few, List.drop_range']
      congr 1 <;> omega

/-- How a new log takes requests. -/
structure FollowsJournal (requests : List LogRequest) : Prop where
  /-- It answers like the journal. -/
  replies : (run {} requests).1 = (Journal.run {} requests).1
  /-- In the end it has what the journal says. -/
  represents : (run {} requests).2.Represents (Journal.run {} requests).2
  /-- The ids reported count from one on, whatever was drained or overwritten. -/
  ids : (Journal.ids (run {} requests).1).map UInt64.toNat =
    List.range' 1 (Journal.run {} requests).2.appended.length
  /-- The ids of the retained records are the last of them. -/
  retained : (run {} requests).2.snapshot.map (·.decisionId.toNat) =
    List.range'
      ((Journal.run {} requests).2.appended.length + 1 - (run {} requests).2.snapshot.length)
      (run {} requests).2.snapshot.length
  /-- Every record was drained, is retained, or was dropped. -/
  total : (Journal.run {} requests).2.appended.length =
    (Journal.run {} requests).2.drained + (run {} requests).2.snapshot.length +
      (run {} requests).2.dropped

/-- Every sequence of requests is taken like this, as long as there are fewer
records than ids. -/
theorem run_followsJournal (requests : List LogRequest)
    (few : (Journal.run {} requests).2.appended.length < UInt64.size) :
    FollowsJournal requests := by
  obtain ⟨same, represents⟩ := Represents.empty.run requests
  have numbered := Journal.numbered_empty.run requests
  constructor
  · exact same
  · exact represents
  · have ids := Journal.ids_run {} requests
    calc (Journal.ids (run {} requests).1).map UInt64.toNat
      _ = ((Journal.run {} requests).2.appended.map (·.decisionId)).map UInt64.toNat := by
        rw [← ids, same]
        rfl
      _ = List.range' 1 (Journal.run {} requests).2.appended.length := by
        rw [← numbered.toNat few, List.map_map]
        rfl
  · exact represents.map_snapshot numbered few
  · rw [represents.snapshot, represents.dropped]
    exact Journal.length_appended _

/-- A busy log: it overflows, is drained in the middle, is frozen and thawed. -/
def busyLog : List LogRequest :=
  let e : Event :=
    { level := .warn, symbol := "realloc", event := "realloc_failed", outcome := "oom" }
  List.replicate 300 (.record e) ++
    [.drain, .freeze, .tryRecord e, .thaw, .tryRecord e, .snapshot, .dropped]

theorem run_followsJournal_busy :
    (Journal.run {} busyLog).2.appended.length < UInt64.size ∧ FollowsJournal busyLog := by
  have few : (Journal.run {} busyLog).2.appended.length < UInt64.size :=
    Nat.lt_of_le_of_lt (Journal.length_appended_run_le {} busyLog) (by decide +kernel)
  exact ⟨few, run_followsJournal busyLog few⟩

end LifecycleLog

end MallocLayer
