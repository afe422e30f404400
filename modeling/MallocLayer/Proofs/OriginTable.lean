import MallocLayer.OriginTable
import Mathlib.Data.Finset.Card
import Mathlib.Data.Fintype.Basic
import Mathlib.Data.Fintype.Card
import Mathlib.Data.Set.Card
import Std.Data.ExtHashMap.Lemmas

/-!
# The side table as a bounded map

The side table stores its entries by linear probing with tombstones. Seen from
outside it is a partial map from aligned addresses to origins with at most
`capacity` entries. `Represents` ties the two together:

* every entry of the map is in exactly one slot;
* between the home slot of an address and the slot that holds it there is no
  vacant slot, so a search cannot stop too early;
* `live` counts the slots that hold an address.

Tombstones may lie anywhere. A search that finds no place has seen an address
in every slot, so as long as fewer than `capacity` addresses are bound there
is a place for one more (`placeFrom_fits`).

Each operation has its lemma (`originOf_eq`, `take_represents`,
`insert_represents`, `insert_full`), and the last section is about whole
sequences of operations.
-/

namespace MallocLayer.OriginTable

/-! ## 1. Slots and probing -/

/-- A word that a slot can be bound to: neither mark of a free slot. -/
def IsAddress (a : Addr) : Prop := a ≠ vacant ∧ a ≠ tombstone

instance (a : Addr) : Decidable (IsAddress a) := inferInstanceAs (Decidable (_ ∧ _))

/-- The word that says what a slot is. -/
def key (t : OriginTable) (i : Fin capacity) : Addr := (t.slots.get i).aligned

/-- The slots that hold an address. -/
def occupied (t : OriginTable) : Finset (Fin capacity) :=
  Finset.univ.filter fun i => IsAddress (t.key i)

theorem mem_occupied {t : OriginTable} {i : Fin capacity} :
    i ∈ t.occupied ↔ IsAddress (t.key i) := by
  simp [occupied]

theorem findFrom_succ (t : OriginTable) (a : Addr) (left : Nat) :
    t.findFrom a (left + 1) =
      if t.key (probe a (capacity - (left + 1))) = vacant then none
      else if t.key (probe a (capacity - (left + 1))) = a then
        some (probe a (capacity - (left + 1)))
      else t.findFrom a left :=
  rfl

theorem placeFrom_succ (t : OriginTable) (a : Addr) (spare : Option (Fin capacity)) (left : Nat) :
    t.placeFrom a spare (left + 1) =
      if t.key (probe a (capacity - (left + 1))) = vacant then
        .free (spare.getD (probe a (capacity - (left + 1))))
      else if t.key (probe a (capacity - (left + 1))) = tombstone then
        t.placeFrom a (spare.or (some (probe a (capacity - (left + 1))))) left
      else if t.key (probe a (capacity - (left + 1))) = a then
        .bound (probe a (capacity - (left + 1)))
      else t.placeFrom a spare left :=
  rfl

/-- Every slot is on the probe sequence of every address. -/
theorem exists_probe (a : Addr) (i : Fin capacity) : ∃ k < capacity, probe a k = i := by
  refine ⟨(i.val + capacity - home a) % capacity, Nat.mod_lt _ (by decide), ?_⟩
  have within : home a < capacity := Nat.mod_lt _ (by decide)
  have bound := i.isLt
  apply Fin.ext
  simp only [probe, capacity] at *
  omega

/-! ## 2. What a table stands for -/

/-- The slots hold the entries of the map, each where a search finds it. -/
structure Represents (t : OriginTable) (m : Std.ExtHashMap Addr Addr) : Prop where
  entries : ∀ a o, m[a]? = some o ↔ IsAddress a ∧ ∃ i : Fin capacity, t.slots.get i = ⟨a, o⟩
  /-- No two slots hold the same address. -/
  unique : ∀ i j : Fin capacity, IsAddress (t.key i) →
    t.key i = t.key j → i = j
  /-- No vacant slot separates an address from its home slot. -/
  reachable : ∀ i : Fin capacity, IsAddress (t.key i) →
    ∃ k < capacity, probe (t.key i) k = i ∧
      ∀ l < k, t.key (probe (t.key i) l) ≠ vacant
  live_eq : t.live = m.size
  occupied_card : t.occupied.card = t.live

namespace Represents

variable {t : OriginTable} {m : Std.ExtHashMap Addr Addr}

theorem getElem?_eq_some (h : t.Represents m) (i : Fin capacity)
    (address : IsAddress (t.key i)) :
    m[t.key i]? = some (t.slots.get i).origin :=
  (h.entries _ _).2 ⟨address, i, rfl⟩

theorem mem_iff (h : t.Represents m) {a : Addr} (address : IsAddress a) :
    a ∈ m ↔ ∃ i : Fin capacity, t.key i = a := by
  rw [Std.ExtHashMap.mem_iff_isSome_getElem?, Option.isSome_iff_exists]
  constructor
  · rintro ⟨o, found⟩
    obtain ⟨_, i, slot⟩ := (h.entries a o).1 found
    exact ⟨i, by rw [key, slot]⟩
  · rintro ⟨i, rfl⟩
    exact ⟨_, h.getElem?_eq_some i address⟩

/-- The count is that of the addresses in the map. -/
theorem live_eq_ncard (h : t.Represents m) : t.live = {a | a ∈ m}.ncard := by
  have addresses : {a | a ∈ m} = (t.occupied.image t.key : Finset Addr) := by
    ext a
    rw [Set.mem_ofPred_eq, Finset.mem_coe, Finset.mem_image]
    constructor
    · intro present
      obtain ⟨o, found⟩ := Option.isSome_iff_exists.1 (Std.ExtHashMap.mem_iff_isSome_getElem?.1 present)
      obtain ⟨address, i, slot⟩ := (h.entries a o).1 found
      have held : t.key i = a := by rw [key, slot]
      exact ⟨i, mem_occupied.2 (held ▸ address), held⟩
    · rintro ⟨i, present, rfl⟩
      exact (h.mem_iff (mem_occupied.1 present)).2 ⟨i, rfl⟩
  have injective : Set.InjOn t.key t.occupied := fun i present j _ same =>
    h.unique i j (mem_occupied.1 present) same
  rw [addresses, Set.ncard_coe_finset, Finset.card_image_of_injOn injective, h.occupied_card]

theorem size_le (h : t.Represents m) : m.size ≤ capacity := by
  rw [← h.live_eq, ← h.occupied_card]
  simpa using Finset.card_le_univ t.occupied

/-- An address of which a search saw no slot before a vacant one is not in the
table. -/
theorem absent_of_vacant (h : t.Represents m) {a : Addr} (address : IsAddress a) {s : Nat}
    (passed : ∀ k < s, t.key (probe a k) ≠ a)
    (stop : t.key (probe a s) = vacant) (j : Fin capacity) :
    t.key j ≠ a := by
  rintro rfl
  obtain ⟨k, _, reached, clear⟩ := h.reachable j address
  rcases Nat.lt_trichotomy k s with before | rfl | after
  · exact passed k before (by rw [reached])
  · rw [reached] at stop
    exact address.1 stop
  · exact clear s after stop

end Represents

theorem key_empty (i : Fin capacity) : ({} : OriginTable).key i = vacant :=
  congrArg Slot.aligned (Vector.getElem_replicate i.isLt)

theorem represents_empty : Represents {} ∅ where
  entries a o := by
    simp only [Std.ExtHashMap.getElem?_empty, reduceCtorEq, false_iff, not_and, not_exists]
    intro address i slot
    exact address.1 ((congrArg Slot.aligned slot).symm.trans (key_empty i))
  unique i _ address := absurd (key_empty i) address.1
  reachable i address := absurd (key_empty i) address.1
  live_eq := by simp
  occupied_card := by
    rw [Finset.card_eq_zero, Finset.eq_empty_iff_forall_notMem]
    intro i present
    exact (mem_occupied.1 present).1 (key_empty i)

/-! ## 3. Searching -/

section Search

variable {t : OriginTable} {m : Std.ExtHashMap Addr Addr} {a : Addr}

theorem findFrom_sound {left : Nat} {i : Fin capacity} (found : t.findFrom a left = some i) :
    t.key i = a := by
  induction left with
  | zero => simp [findFrom] at found
  | succ left ih =>
    rw [findFrom_succ] at found
    split at found
    · cases found
    · split at found
      · next equal => cases found; exact equal
      · exact ih found

/-- A search that starts before the slot of the address, with no vacant slot on
the way, finds it. -/
theorem findFrom_complete {left k : Nat} (enough : left ≤ capacity) (ahead : capacity - left ≤ k)
    (within : k < capacity) (bound : t.key (probe a k) = a)
    (clear : ∀ l ≤ k, t.key (probe a l) ≠ vacant) :
    ∃ i, t.findFrom a left = some i := by
  induction left with
  | zero => omega
  | succ left ih =>
    rw [findFrom_succ]
    split
    · next stop => exact absurd stop (clear _ ahead)
    · split
      · exact ⟨_, rfl⟩
      · next other =>
        refine ih (by omega) ?_
        have : capacity - (left + 1) ≠ k := by
          rintro rfl
          exact other bound
        omega

theorem find_eq_some_iff (h : t.Represents m) (address : IsAddress a) {i : Fin capacity} :
    t.find a = some i ↔ t.key i = a := by
  refine ⟨findFrom_sound, ?_⟩
  rintro rfl
  obtain ⟨k, within, reached, clear⟩ := h.reachable i address
  have here : t.key (probe (t.key i) k) = t.key i := by rw [reached]
  obtain ⟨j, found⟩ := findFrom_complete (Nat.le_refl capacity) (by omega) within here
    fun l le => by
      rcases Nat.lt_or_eq_of_le le with before | rfl
      · exact clear l before
      · rw [here]
        exact address.1
  have same : i = j := h.unique i j address (findFrom_sound found).symm
  rw [find, found, same]

theorem find_eq_none_iff (h : t.Represents m) (address : IsAddress a) :
    t.find a = none ↔ ∀ i : Fin capacity, t.key i ≠ a := by
  rw [Option.eq_none_iff_forall_ne_some]
  exact forall_congr' fun i => not_congr (find_eq_some_iff h address)

/-- What a place for the address is good for. -/
def Place.Fits (t : OriginTable) (a : Addr) : Place → Prop
  | .bound i => t.key i = a
  | .free i => (∀ j : Fin capacity, t.key j ≠ a) ∧ ¬ IsAddress (t.key i) ∧
      ∃ k < capacity, probe a k = i ∧ ∀ l < k, t.key (probe a l) ≠ vacant
  | .full => ∀ i : Fin capacity, IsAddress (t.key i)

/-- The search for a place has gone `s` slots far. -/
structure Scanned (t : OriginTable) (a : Addr) (spare : Option (Fin capacity)) (s : Nat) : Prop where
  passed : ∀ k < s, t.key (probe a k) ≠ vacant ∧ t.key (probe a k) ≠ a
  spare_of_some : ∀ i, spare = some i → ∃ k < s, probe a k = i ∧ t.key i = tombstone
  spare_of_none : spare = none → ∀ k < s, t.key (probe a k) ≠ tombstone

/-- A tombstone passed is a place, once the address is known to be absent. -/
theorem Scanned.spare_fits {spare : Option (Fin capacity)} {s : Nat} (scanned : Scanned t a spare s)
    (le : s ≤ capacity) (absent : ∀ j : Fin capacity, t.key j ≠ a) {i : Fin capacity}
    (some_i : spare = some i) : Place.Fits t a (.free i) := by
  obtain ⟨k, before, reached, dead⟩ := scanned.spare_of_some i some_i
  refine ⟨absent, fun address => address.2 dead, k, by omega, reached, ?_⟩
  intro l less
  exact (scanned.passed l (by omega)).1

theorem Scanned.next {spare spare' : Option (Fin capacity)} {s : Nat}
    (scanned : Scanned t a spare s)
    (here : t.key (probe a s) ≠ vacant ∧ t.key (probe a s) ≠ a)
    (kept : spare' = spare ∧ t.key (probe a s) ≠ tombstone ∨
      spare' = spare.or (some (probe a s)) ∧ t.key (probe a s) = tombstone) :
    Scanned t a spare' (s + 1) where
  passed k less := by
    rcases Nat.lt_succ_iff_lt_or_eq.1 less with before | rfl
    · exact scanned.passed k before
    · exact here
  spare_of_some i some_i := by
    rcases kept with ⟨rfl, _⟩ | ⟨rfl, dead⟩
    · obtain ⟨k, before, rest⟩ := scanned.spare_of_some i some_i
      exact ⟨k, by omega, rest⟩
    · cases spare with
      | some j =>
        obtain ⟨k, before, rest⟩ := scanned.spare_of_some i some_i
        exact ⟨k, by omega, rest⟩
      | none =>
        cases some_i
        exact ⟨s, by omega, rfl, dead⟩
  spare_of_none none_spare k less := by
    rcases kept with ⟨rfl, alive⟩ | ⟨rfl, _⟩
    · rcases Nat.lt_succ_iff_lt_or_eq.1 less with before | rfl
      · exact scanned.spare_of_none none_spare k before
      · exact alive
    · simp at none_spare

theorem scanned_nothing : Scanned t a none (capacity - capacity) where
  passed k less := by omega
  spare_of_some i eq := by cases eq
  spare_of_none _ k less := by omega

theorem placeFrom_fits (h : t.Represents m) (address : IsAddress a) {left : Nat}
    {spare : Option (Fin capacity)} (enough : left ≤ capacity)
    (scanned : Scanned t a spare (capacity - left)) :
    Place.Fits t a (t.placeFrom a spare left) := by
  induction left generalizing spare with
  | zero =>
    -- Every slot was passed, so the address is in none of them.
    have absent (j : Fin capacity) : t.key j ≠ a := by
      obtain ⟨k, within, reached⟩ := exists_probe a j
      rw [← reached]
      exact (scanned.passed k within).2
    cases spare with
    | some i => exact scanned.spare_fits (by omega) absent rfl
    | none =>
      intro j
      obtain ⟨k, within, reached⟩ := exists_probe a j
      rw [← reached]
      exact ⟨(scanned.passed k within).1, scanned.spare_of_none rfl k within⟩
  | succ left ih =>
    have step : capacity - left = capacity - (left + 1) + 1 := by omega
    rw [placeFrom_succ]
    split
    · -- Behind a vacant slot the address would be out of reach.
      next stop =>
      have absent := h.absent_of_vacant address (fun k less => (scanned.passed k less).2) stop
      cases spare with
      | some i => exact scanned.spare_fits (by omega) absent rfl
      | none =>
        refine ⟨absent, fun bound => bound.1 stop, _, by omega, rfl, ?_⟩
        intro l less
        exact (scanned.passed l less).1
    · next alive =>
      split
      · -- The first tombstone on the way is kept in mind as a place.
        next dead =>
        refine ih (by omega) (step ▸ scanned.next ⟨alive, ?_⟩ (.inr ⟨rfl, dead⟩))
        rw [dead]
        exact address.2.symm
      · next undead =>
        split
        · next equal => exact equal
        · next other => exact ih (by omega) (step ▸ scanned.next ⟨alive, other⟩ (.inl ⟨rfl, undead⟩))

end Search

/-! ## 4. One operation -/

section Writing

variable {t : OriginTable} {m : Std.ExtHashMap Addr Addr} {a o : Addr} {i : Fin capacity}

/-- The table with one slot and the count replaced. -/
def withSlot (t : OriginTable) (i : Fin capacity) (x : Slot) (live : Nat) : OriginTable :=
  { t with slots := t.slots.set i x i.isLt, live }

theorem slots_withSlot (t : OriginTable) (i j : Fin capacity) (x : Slot) (live : Nat) :
    (t.withSlot i x live).slots.get j = if i = j then x else t.slots.get j := by
  simp only [Fin.ext_iff]
  exact Vector.getElem_set i.isLt j.isLt

theorem key_withSlot (t : OriginTable) (i j : Fin capacity) (x : Slot) (live : Nat) :
    (t.withSlot i x live).key j = if i = j then x.aligned else t.key j := by
  rw [key, slots_withSlot]
  split <;> rfl

/-- A write concerns the address that the slot held and the one that it holds
now, and no other. -/
theorem exists_slot_withSlot {x : Slot} {live : Nat} {b p : Addr} (before : t.key i ≠ b)
    (after : x.aligned ≠ b) :
    (∃ j : Fin capacity, (t.withSlot i x live).slots.get j = ⟨b, p⟩) ↔
      ∃ j : Fin capacity, t.slots.get j = ⟨b, p⟩ := by
  refine exists_congr fun j => ?_
  rw [slots_withSlot]
  split
  · next same =>
    subst same
    exact ⟨fun slot => absurd (congrArg Slot.aligned slot) after,
      fun slot => absurd (congrArg Slot.aligned slot) before⟩
  · rfl

/-- The written slot alone holds the address that was written. -/
theorem exists_slot_withSlot_self {x : Slot} {live : Nat} {p : Addr}
    (single : ∀ j, j ≠ i → t.key j ≠ x.aligned) :
    (∃ j : Fin capacity, (t.withSlot i x live).slots.get j = ⟨x.aligned, p⟩) ↔ x.origin = p := by
  constructor
  · rintro ⟨j, slot⟩
    rw [slots_withSlot] at slot
    split at slot
    · exact congrArg Slot.origin slot
    · next ne => exact absurd (congrArg Slot.aligned slot) (single j (Ne.symm ne))
  · rintro rfl
    exact ⟨i, by rw [slots_withSlot, if_pos rfl]⟩

theorem occupied_withSlot_address {x : Slot} {live : Nat} (address : IsAddress x.aligned) :
    (t.withSlot i x live).occupied = Insert.insert i t.occupied := by
  ext j
  rw [Finset.mem_insert, mem_occupied, mem_occupied, key_withSlot]
  split
  · next same => simp [same, address]
  · next ne => simp [Ne.symm ne]

theorem occupied_withSlot_free {x : Slot} {live : Nat} (free : ¬ IsAddress x.aligned) :
    (t.withSlot i x live).occupied = t.occupied.erase i := by
  ext j
  rw [Finset.mem_erase, mem_occupied, mem_occupied, key_withSlot]
  split
  · next same => simp [same, free]
  · next ne => simp [Ne.symm ne]

namespace Represents

/-- The slot of a bound address is the only one with it. -/
theorem single (h : t.Represents m) (address : IsAddress a) (bound : t.key i = a) (j : Fin capacity)
    (ne : j ≠ i) : t.key j ≠ a := fun held =>
  ne (h.unique j i (held ▸ address) (held.trans bound.symm))

/-- An address that is written into one slot only is in no two. -/
theorem unique_withSlot (h : t.Represents m) {x : Slot} {live : Nat}
    (single : IsAddress x.aligned → ∀ j, j ≠ i → t.key j ≠ x.aligned) {j l : Fin capacity}
    (occ : IsAddress ((t.withSlot i x live).key j))
    (eq : (t.withSlot i x live).key j = (t.withSlot i x live).key l) : j = l := by
  rw [key_withSlot] at occ
  rw [key_withSlot, key_withSlot] at eq
  by_cases ij : i = j
  · rw [if_pos ij] at occ eq
    by_cases il : i = l
    · rw [← ij, ← il]
    · rw [if_neg il] at eq
      exact absurd eq.symm (single occ l (Ne.symm il))
  · rw [if_neg ij] at occ eq
    by_cases il : i = l
    · rw [if_pos il] at eq
      exact absurd eq (single (eq ▸ occ) j (Ne.symm ij))
    · rw [if_neg il] at eq
      exact h.unique j l occ eq

/-- A write that leaves no vacant slot behind keeps every address within reach. -/
theorem reachable_withSlot (h : t.Represents m) {x : Slot} {live : Nat}
    (used : x.aligned ≠ vacant) {j : Fin capacity} (address : IsAddress (t.key j)) :
    ∃ k < capacity, probe (t.key j) k = j ∧
      ∀ l < k, (t.withSlot i x live).key (probe (t.key j) l) ≠ vacant := by
  obtain ⟨k, within, reached, clear⟩ := h.reachable j address
  refine ⟨k, within, reached, fun l less => ?_⟩
  rw [key_withSlot]
  split
  · exact used
  · exact clear l less

/-- An address is written into a slot that a search for it reaches and that held
no other address. -/
theorem write (h : t.Represents m) (address : IsAddress a)
    (single : ∀ j, j ≠ i → t.key j ≠ a) (own : ∀ b, IsAddress b → a ≠ b → t.key i ≠ b)
    (reach : ∃ k < capacity, probe a k = i ∧ ∀ l < k, t.key (probe a l) ≠ vacant) {live : Nat}
    (count : live = (m.insert a o).size) (card : (Insert.insert i t.occupied).card = live) :
    (t.withSlot i ⟨a, o⟩ live).Represents (m.insert a o) where
  entries b p := by
    rw [Std.ExtHashMap.getElem?_insert]
    by_cases same : a = b
    · subst same
      rw [exists_slot_withSlot_self single]
      simp [address]
    · rw [if_neg (by simpa using same), h.entries]
      exact and_congr_right fun other => (exists_slot_withSlot (own b other same) same).symm
  unique j l := h.unique_withSlot fun _ => single
  reachable j occ := by
    rw [key_withSlot] at occ ⊢
    split at occ
    · next same =>
      obtain ⟨k, within, reached, clear⟩ := reach
      rw [if_pos same]
      refine ⟨k, within, same ▸ reached, fun l less => ?_⟩
      rw [key_withSlot]
      split
      · exact address.1
      · exact clear l less
    · next ne =>
      rw [if_neg ne]
      exact h.reachable_withSlot address.1 occ
  live_eq := count
  occupied_card := (congrArg Finset.card (occupied_withSlot_address address)).trans card

/-- Replacing the origin of a bound address. -/
theorem rebind (h : t.Represents m) (address : IsAddress a) (bound : t.key i = a) :
    (t.withSlot i ⟨a, o⟩ t.live).Represents (m.insert a o) := by
  have present : a ∈ m := (h.mem_iff address).2 ⟨i, bound⟩
  have used : i ∈ t.occupied := mem_occupied.2 (bound ▸ address)
  refine h.write address (h.single address bound) ?_ ?_ ?_ ?_
  · intro b _ ne
    rwa [bound]
  · obtain ⟨k, within, reached, clear⟩ := h.reachable i (bound ▸ address)
    rw [bound] at reached clear
    exact ⟨k, within, reached, clear⟩
  · rw [Std.ExtHashMap.size_insert, if_pos present, h.live_eq]
  · rw [Finset.insert_eq_of_mem used, h.occupied_card]

/-- Binding a new address in a free slot. -/
theorem bind (h : t.Represents m) (address : IsAddress a) (fits : Place.Fits t a (.free i)) :
    (t.withSlot i ⟨a, o⟩ (t.live + 1)).Represents (m.insert a o) := by
  obtain ⟨absent, unused, reach⟩ := fits
  have new : a ∉ m := fun present =>
    let ⟨j, held⟩ := (h.mem_iff address).1 present
    absent j held
  refine h.write address (fun j _ => absent j) ?_ reach ?_ ?_
  · rintro b other _ rfl
    exact unused other
  · rw [Std.ExtHashMap.size_insert, if_neg new, h.live_eq]
  · rw [Finset.card_insert_of_notMem (mem_occupied.not.2 unused), h.occupied_card]

/-- Leaving a tombstone behind for a bound address. -/
theorem unbind (h : t.Represents m) (address : IsAddress a) (bound : t.key i = a) :
    (t.withSlot i ⟨tombstone, 0⟩ (t.live - 1)).Represents (m.erase a) where
  entries b p := by
    rw [Std.ExtHashMap.getElem?_erase]
    by_cases same : a = b
    · subst same
      simp only [beq_self_eq_true, if_true, reduceCtorEq, false_iff]
      rintro ⟨_, j, slot⟩
      rw [slots_withSlot] at slot
      split at slot
      · exact address.2 (congrArg Slot.aligned slot).symm
      · next ne => exact h.single address bound j (Ne.symm ne) (congrArg Slot.aligned slot)
    · rw [if_neg (by simpa using same), h.entries]
      refine and_congr_right fun other => ?_
      rw [exists_slot_withSlot (by rwa [bound]) other.2.symm]
  unique j l := h.unique_withSlot fun marked => absurd rfl marked.2
  reachable j occ := by
    rw [key_withSlot] at occ ⊢
    split at occ
    · exact absurd rfl occ.2
    · -- A tombstone is no vacant slot: searches go on past it.
      next ne =>
      rw [if_neg ne]
      exact h.reachable_withSlot (by decide) occ
  live_eq := by
    have present : a ∈ m := (h.mem_iff address).2 ⟨i, bound⟩
    rw [Std.ExtHashMap.size_erase, if_pos present, ← h.live_eq]
    rfl
  occupied_card := by
    have used : i ∈ t.occupied := mem_occupied.2 (bound ▸ address)
    have free : ¬ IsAddress tombstone := fun marked => marked.2 rfl
    rw [occupied_withSlot_free free, Finset.card_erase_of_mem used, h.occupied_card]
    rfl

end Represents

end Writing

section Operations

variable {t : OriginTable} {m : Std.ExtHashMap Addr Addr} {a o : Addr}

theorem Represents.not_address (h : t.Represents m) (reserved : ¬ IsAddress a) : m[a]? = none := by
  rw [Option.eq_none_iff_forall_ne_some]
  intro p found
  exact reserved ((h.entries a p).1 found).1

theorem Represents.eq_empty (h : t.Represents m) (none_live : t.live = 0) (a : Addr) :
    m[a]? = none := by
  have empty : m = ∅ := by
    rw [Std.ExtHashMap.eq_empty_iff_size_eq_zero, ← h.live_eq, none_live]
  rw [empty, Std.ExtHashMap.getElem?_empty]

/-- Looking up and taking both start with the search; what they skip is not in
the map. -/
theorem Represents.skipped (h : t.Represents m) (skip : a = vacant ∨ t.live = 0) : m[a]? = none := by
  rcases skip with rfl | none_live
  · exact h.not_address fun address => address.1 rfl
  · exact h.eq_empty none_live a

theorem originOf_eq (h : t.Represents m) (reserved : a ≠ tombstone) : t.originOf a = m[a]? := by
  unfold originOf
  split
  · next skip => rw [h.skipped skip]
  · next searched =>
    have address : IsAddress a := ⟨fun vac => searched (.inl vac), reserved⟩
    cases found : t.find a with
    | none =>
      refine (Std.ExtHashMap.getElem?_eq_none ?_).symm
      rw [h.mem_iff address]
      rintro ⟨i, held⟩
      exact (find_eq_none_iff h address).1 found i held
    | some i =>
      obtain rfl := (find_eq_some_iff h address).1 found
      exact (h.getElem?_eq_some i address).symm

theorem take_represents (h : t.Represents m) (reserved : a ≠ tombstone) :
    (t.take a).1 = m[a]? ∧ (t.take a).2.Represents (m.erase a) := by
  have same := originOf_eq h reserved
  have unchanged (absent : m[a]? = none) : m.erase a = m := by
    apply Std.ExtHashMap.ext_getElem?
    intro b
    rw [Std.ExtHashMap.getElem?_erase]
    split
    · next eq => rw [← beq_iff_eq.1 eq, absent]
    · rfl
  unfold originOf at same
  unfold take
  split
  · next skip =>
    rw [if_pos skip] at same
    exact ⟨same, (unchanged same.symm).symm ▸ h⟩
  · next searched =>
    have address : IsAddress a := ⟨fun vac => searched (.inl vac), reserved⟩
    rw [if_neg searched] at same
    cases found : t.find a with
    | none =>
      rw [found] at same
      exact ⟨same, (unchanged same.symm).symm ▸ h⟩
    | some i =>
      rw [found] at same
      exact ⟨same, h.unbind address ((find_eq_some_iff h address).1 found)⟩

theorem insert_full (h : t.Represents m) (full : m.size = capacity) :
    t.insert a o = (false, t) := by
  rw [OriginTable.insert, if_pos (h.live_eq.trans full)]

/-- A table that refuses an entry stays as it is. -/
theorem eq_of_insert_false {t' : OriginTable} (refused : t.insert a o = (false, t')) : t' = t := by
  unfold OriginTable.insert at refused
  split at refused
  · cases refused
    rfl
  · split at refused
    · cases refused
    · cases refused
    · cases refused
      rfl

theorem insert_represents (h : t.Represents m) (address : IsAddress a) (room : m.size ≠ capacity) :
    (t.insert a o).1 = true ∧ (t.insert a o).2.Represents (m.insert a o) := by
  have fits := placeFrom_fits h address (Nat.le_refl capacity) scanned_nothing
  rw [OriginTable.insert, if_neg (h.live_eq ▸ room)]
  generalize t.placeFrom a none capacity = place at fits
  cases place with
  | bound i => exact ⟨rfl, h.rebind address fits⟩
  | free i => exact ⟨rfl, h.bind address fits⟩
  | full =>
    -- Every slot holds an address, so all `capacity` of them are counted in `live`.
    have all : t.occupied = Finset.univ := Finset.eq_univ_of_forall fun i => mem_occupied.2 (fits i)
    have count := h.occupied_card
    rw [all, Finset.card_univ, Fintype.card_fin, h.live_eq] at count
    exact absurd count.symm room

end Operations

/-! ## 5. Sequences of operations -/

/-- An operation on the table. -/
inductive Op where
  | insert (aligned origin : Addr)
  | originOf (aligned : Addr)
  | take (aligned : Addr)
deriving DecidableEq, Repr

/-- What callers keep to: only addresses are bound, and the mark of a tombstone
is never looked up. -/
def Op.Admissible : Op → Prop
  | .insert aligned _ => IsAddress aligned
  | .originOf aligned | .take aligned => aligned ≠ tombstone

instance : DecidablePred Op.Admissible
  | .insert _ _ => inferInstanceAs (Decidable (IsAddress _))
  | .originOf _ | .take _ => inferInstanceAs (Decidable (_ ≠ _))

/-- The result of an operation. -/
inductive OpResult where
  | inserted (done : Bool)
  | origin (found : Option Addr)
deriving DecidableEq, Repr

/-- What is seen of an operation: its result, and afterwards the number of bound
addresses and whether there are none. -/
structure Seen where
  result : OpResult
  size : Nat
  isEmpty : Bool
deriving DecidableEq, Repr

/-- Performs an operation on the table. -/
def perform (t : OriginTable) : Op → OpResult × OriginTable
  | .insert aligned origin =>
    let (done, t) := t.insert aligned origin
    (.inserted done, t)
  | .originOf aligned => (.origin (t.originOf aligned), t)
  | .take aligned =>
    let (found, t) := t.take aligned
    (.origin found, t)

/-- Performs operations one after the other. -/
def run (t : OriginTable) : List Op → List Seen × OriginTable
  | [] => ([], t)
  | op :: rest =>
    let (result, t) := t.perform op
    let (seen, last) := t.run rest
    (⟨result, t.size, t.isEmpty⟩ :: seen, last)

/-- A partial map that takes at most `capacity` entries. -/
abbrev Bindings := Std.ExtHashMap Addr Addr

namespace Bindings

/-- Performs an operation on the map. A full map refuses every insertion. -/
def perform (m : Bindings) : Op → OpResult × Bindings
  | .insert aligned origin =>
    if m.size = capacity then (.inserted false, m) else (.inserted true, m.insert aligned origin)
  | .originOf aligned => (.origin m[aligned]?, m)
  | .take aligned => (.origin m[aligned]?, m.erase aligned)

/-- Performs operations one after the other. -/
def run (m : Bindings) : List Op → List Seen × Bindings
  | [] => ([], m)
  | op :: rest =>
    let (result, m) := perform m op
    let (seen, last) := run m rest
    (⟨result, m.size, m.isEmpty⟩ :: seen, last)

end Bindings

section Sequences

variable {t : OriginTable} {m : Bindings}

theorem perform_represents (h : t.Represents m) {op : Op} (admissible : op.Admissible) :
    (t.perform op).1 = (Bindings.perform m op).1 ∧
      (t.perform op).2.Represents (Bindings.perform m op).2 := by
  cases op with
  | insert a o =>
    by_cases full : m.size = capacity
    · simp only [perform, Bindings.perform, insert_full h full, if_pos full, true_and]
      exact h
    · obtain ⟨done, represents⟩ := insert_represents (o := o) h admissible full
      simp only [perform, Bindings.perform, done, if_neg full, true_and]
      exact represents
  | originOf a => exact ⟨congrArg OpResult.origin (originOf_eq h admissible), h⟩
  | take a =>
    obtain ⟨found, represents⟩ := take_represents h admissible
    exact ⟨congrArg OpResult.origin found, represents⟩

theorem Represents.isEmpty_eq (h : t.Represents m) : t.isEmpty = m.isEmpty := by
  rw [isEmpty, size, h.live_eq, Bool.eq_iff_iff, beq_iff_eq, Std.ExtHashMap.isEmpty_iff,
    Std.ExtHashMap.eq_empty_iff_size_eq_zero]

theorem run_represents (h : t.Represents m) {ops : List Op} (admissible : ∀ op ∈ ops, op.Admissible) :
    (t.run ops).1 = (Bindings.run m ops).1 ∧ (t.run ops).2.Represents (Bindings.run m ops).2 := by
  induction ops generalizing t m with
  | nil => exact ⟨rfl, h⟩
  | cons op rest ih =>
    obtain ⟨result, next⟩ := perform_represents h (admissible op (by simp))
    obtain ⟨seen, last⟩ := ih next fun op mem => admissible op (by simp [mem])
    refine ⟨?_, last⟩
    rw [run, Bindings.run]
    simp only [result, seen, size, next.live_eq, next.isEmpty_eq]

end Sequences

/-- From a new table on, every sequence of operations answers like the bounded
map. At its end every bound address is in exactly one slot, no other address is
in any, and there are never more than `capacity` bound ones. Tombstones thus
hide nothing, duplicate nothing and take no room. -/
theorem run_eq_run (ops : List Op) (admissible : ∀ op ∈ ops, op.Admissible) :
    (run {} ops).1 = (Bindings.run ∅ ops).1 ∧
      (Bindings.run ∅ ops).2.size ≤ capacity ∧
      ∀ a, IsAddress a →
        (a ∈ (Bindings.run ∅ ops).2 → ∃! i : Fin capacity, (run {} ops).2.key i = a) ∧
        (a ∉ (Bindings.run ∅ ops).2 → ∀ i : Fin capacity, (run {} ops).2.key i ≠ a) := by
  obtain ⟨same, represents⟩ := run_represents represents_empty admissible
  refine ⟨same, represents.size_le, fun a address => ⟨?_, ?_⟩⟩
  · intro present
    obtain ⟨i, held⟩ := (represents.mem_iff address).1 present
    refine ⟨i, held, fun j other => represents.unique j i ?_ (other.trans held.symm)⟩
    rw [other]
    exact address
  · intro absent i held
    exact absent ((represents.mem_iff address).2 ⟨i, held⟩)

/-- Two addresses with one home slot: the second is found and replaced, once,
behind the tombstone that the first left in front of it. -/
theorem run_eq_run_past_tombstone :
    let ops : List Op := [.insert 0x1040 0x1010, .insert 0xf200 0xf1f0, .take 0x1040,
      .originOf 0xf200, .insert 0xf200 0xf1e0, .take 0xf200, .originOf 0xf200]
    home 0x1040 = home 0xf200 ∧ (∀ op ∈ ops, op.Admissible) ∧
      (run {} ops).1 = (Bindings.run ∅ ops).1 :=
  ⟨by decide, by decide, (run_eq_run _ (by decide)).1⟩

end MallocLayer.OriginTable
