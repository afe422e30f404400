import MallocLayer.Proofs.OriginTable

/-!
# Looking up what is not bound

Every pointer that is released or measured is looked up in the side table, and most
are not bound there. Such a lookup is harmless, with one exception. The word that
marks tombstones is searched for like any other, so a search for it takes the first
tombstone on its way for an entry (`Exposed`). It answers with zero, and taking it
takes one off the count although no address goes. When the count comes to zero,
lookups answer without a search, and the addresses that are still bound are lost.

`Reached` has the tables that callers can bring about, when they bind addresses only
but take what they like. After the mark was taken the count is off, so such a table
represents a map only when it is counted anew (`Drifted`).
-/

namespace MallocLayer.OriginTable

/-! ## 1. Tables and the addresses bound in them -/

/-- A table that callers can bring about, and the addresses that are bound in it by
what they were told. -/
inductive Reached : OriginTable → Set Addr → Prop
  | new : Reached {} ∅
  | inserted {t t' : OriginTable} {bound : Set Addr} {a o : Addr} (before : Reached t bound)
      (address : IsAddress a) (done : t.insert a o = (true, t')) :
      Reached t' (Insert.insert a bound)
  | refused {t t' : OriginTable} {bound : Set Addr} {a o : Addr} (before : Reached t bound)
      (address : IsAddress a) (full : t.insert a o = (false, t')) : Reached t' bound
  | taken {t t' : OriginTable} {bound : Set Addr} {a o : Addr} (before : Reached t bound)
      (found : t.take a = (some o, t')) : Reached t' (bound \ {a})
  | missed {t t' : OriginTable} {bound : Set Addr} {a : Addr} (before : Reached t bound)
      (absent : t.take a = (none, t')) : Reached t' bound

/-- Looking up the word and taking it find nothing, and after it was taken there are
as many bound addresses as before, and whatever is done then, every other word is
looked up with the same result as if it had not been taken. -/
structure Harmless (t : OriginTable) (a : Addr) : Prop where
  missed : t.originOf a = none
  absent : (t.take a).1 = none
  size_eq : (t.take a).2.size = t.size
  later : ∀ (ops : List Op) (b : Addr), b ≠ a →
    ((t.take a).2.run ops).2.originOf b = (t.run ops).2.originOf b

/-- A search for the mark of a tombstone comes to a tombstone. -/
def Exposed (t : OriginTable) : Prop :=
  t.live ≠ 0 ∧ ∃ k < capacity, t.key (probe tombstone k) = tombstone ∧
    ∀ l < k, t.key (probe tombstone l) ≠ vacant

/-- The table with another count. -/
def recount (t : OriginTable) (live : Nat) : OriginTable := { t with live }

/-- The slots have the bound addresses, whatever the count says. -/
structure Drifted (t : OriginTable) (bound : Set Addr) : Prop where
  entries : ∃ m : Std.ExtHashMap Addr Addr, (t.recount m.size).Represents m ∧
    ∀ a, a ∈ bound ↔ a ∈ m
  /-- No tombstone has an origin. -/
  blank : ∀ i : Fin capacity, t.key i = tombstone → t.slots.get i = ⟨tombstone, 0⟩

variable {t t' : OriginTable} {bound : Set Addr} {a o : Addr} {i : Fin capacity} {live : Nat}

/-! ## 2. Searches -/

/-- The count has no part in a search. -/
theorem findFrom_recount (left : Nat) : (t.recount live).findFrom a left = t.findFrom a left := by
  induction left with
  | zero => rfl
  | succ left ih =>
    rw [findFrom_succ, findFrom_succ, ih]
    rfl

theorem placeFrom_recount (spare : Option (Fin capacity)) (left : Nat) :
    (t.recount live).placeFrom a spare left = t.placeFrom a spare left := by
  induction left generalizing spare with
  | zero => rfl
  | succ left ih =>
    rw [placeFrom_succ, placeFrom_succ, ih, ih]
    rfl

/-- A search meets no vacant slot before the one that it finds. -/
theorem findFrom_reaches {left : Nat} (enough : left ≤ capacity)
    (found : t.findFrom a left = some i) :
    ∃ k < capacity, probe a k = i ∧
      ∀ l < k, capacity - left ≤ l → t.key (probe a l) ≠ vacant := by
  induction left with
  | zero => cases found
  | succ left ih =>
    rw [findFrom_succ] at found
    split at found
    · cases found
    · next used =>
      split at found
      · cases found
        exact ⟨capacity - (left + 1), by omega, rfl, fun l less from' => by omega⟩
      · obtain ⟨k, within, reached, clear⟩ := ih (by omega) found
        refine ⟨k, within, reached, fun l less from' => ?_⟩
        by_cases first : l = capacity - (left + 1)
        · rwa [first]
        · exact clear l less (by omega)

/-- A word is found exactly if it comes before any vacant slot. -/
theorem exists_find_iff (used : a ≠ vacant) :
    (∃ i, t.find a = some i) ↔
      ∃ k < capacity, t.key (probe a k) = a ∧ ∀ l < k, t.key (probe a l) ≠ vacant := by
  constructor
  · rintro ⟨i, found⟩
    obtain ⟨k, within, rfl, clear⟩ := findFrom_reaches (Nat.le_refl capacity) found
    exact ⟨k, within, findFrom_sound found, fun l less => clear l less (by omega)⟩
  · rintro ⟨k, within, here, clear⟩
    refine findFrom_complete (Nat.le_refl capacity) (by omega) within here fun l le => ?_
    rcases Nat.lt_or_eq_of_le le with before | rfl
    · exact clear l before
    · rwa [here]

theorem exposed_iff : t.Exposed ↔ t.live ≠ 0 ∧ ∃ i, t.find tombstone = some i :=
  and_congr_right fun _ => (exists_find_iff (by decide)).symm

/-! ## 3. What an operation does -/

/-- An entry is written into the slot that holds the address, or into a free one. -/
theorem insert_eq_true (done : t.insert a o = (true, t')) :
    (∃ i, t.placeFrom a none capacity = .bound i ∧ t' = t.withSlot i ⟨a, o⟩ t.live) ∨
      ∃ i, t.placeFrom a none capacity = .free i ∧ t' = t.withSlot i ⟨a, o⟩ (t.live + 1) := by
  unfold OriginTable.insert at done
  split at done
  · cases done
  · split at done
    · next i place =>
      cases done
      exact .inl ⟨i, place, rfl⟩
    · next i place =>
      cases done
      exact .inr ⟨i, place, rfl⟩
    · cases done

/-- What is taken is what was found, and a tombstone is left. -/
theorem take_eq_some (found : t.take a = (some o, t')) :
    a ≠ vacant ∧ ∃ i, t.find a = some i ∧ o = (t.slots.get i).origin ∧
      t' = t.withSlot i ⟨tombstone, 0⟩ (t.live - 1) := by
  unfold OriginTable.take at found
  split at found
  · cases found
  · next searched =>
    split at found
    · cases found
    · next i here =>
      cases found
      exact ⟨fun free => searched (.inl free), i, here, rfl, rfl⟩

/-- A table from which nothing is taken stays as it is. -/
theorem eq_of_take_none (absent : t.take a = (none, t')) : t' = t := by
  unfold OriginTable.take at absent
  split at absent
  · cases absent
    rfl
  · split at absent
    · cases absent
      rfl
    · cases absent

/-- A word that is not found is neither looked up nor taken. -/
theorem miss_of_find_none (none_found : t.find a = none) :
    t.originOf a = none ∧ t.take a = (none, t) := by
  unfold originOf OriginTable.take
  rw [none_found]
  split
  · exact ⟨rfl, rfl⟩
  · exact ⟨rfl, rfl⟩

/-- Only the count changes when a slot is written over with what it holds. -/
theorem withSlot_self {x : Slot} (held : t.slots.get i = x) :
    t.withSlot i x live = t.recount live := by
  subst held
  exact congrArg (fun slots => { t with slots, live }) (Vector.set_getElem_self i.isLt)

/-- What is found under the mark is a slot without origin. -/
theorem Drifted.take_tombstone (h : t.Drifted bound) (exposed : t.Exposed) :
    t.originOf tombstone = some 0 ∧ t.take tombstone = (some 0, t.recount (t.live - 1)) := by
  obtain ⟨counted, i, found⟩ := exposed_iff.1 exposed
  have mark : t.slots.get i = ⟨tombstone, 0⟩ := h.blank i (findFrom_sound found)
  have searched : ¬ (tombstone = vacant ∨ t.live = 0) := by
    rintro (equal | none_live)
    · exact absurd equal (by decide)
    · exact counted none_live
  constructor
  · rw [originOf, if_neg searched, found, Option.map_some, mark]
  · rw [← withSlot_self mark, OriginTable.take, if_neg searched, found]
    simp only [mark]
    rfl

/-! ## 4. Tables that have drifted -/

namespace Drifted

theorem isAddress (h : t.Drifted bound) (member : a ∈ bound) : IsAddress a := by
  obtain ⟨m, represents, same⟩ := h.entries
  by_contra reserved
  have present := Std.ExtHashMap.mem_iff_isSome_getElem?.1 ((same a).1 member)
  rw [represents.not_address reserved] at present
  cases present

/-- A write after which the table, counted anew, represents a map. -/
theorem of_withSlot (h : t.Drifted bound) {m : Std.ExtHashMap Addr Addr} {x : Slot} {n n' : Nat}
    {bound' : Set Addr} (represents : ((t.recount n).withSlot i x n').Represents m)
    (same : ∀ a, a ∈ bound' ↔ a ∈ m) (blank : x.aligned = tombstone → x = ⟨tombstone, 0⟩) :
    (t.withSlot i x live).Drifted bound' where
  entries := by
    obtain rfl : n' = m.size := represents.live_eq
    exact ⟨m, represents, same⟩
  blank j marked := by
    rw [key_withSlot] at marked
    rw [slots_withSlot]
    split at marked
    · next here => rw [if_pos here, blank marked]
    · next other => rw [if_neg other, h.blank j marked]

theorem insert (h : t.Drifted bound) (address : IsAddress a)
    (done : t.insert a o = (true, t')) : t'.Drifted (Insert.insert a bound) := by
  obtain ⟨m, represents, same⟩ := h.entries
  have fits := placeFrom_fits represents address (Nat.le_refl capacity) scanned_nothing
  rw [placeFrom_recount] at fits
  have members (b : Addr) : b ∈ Insert.insert a bound ↔ b ∈ m.insert a o := by
    rw [Set.mem_insert_iff, Std.ExtHashMap.mem_insert, same, beq_iff_eq, eq_comm]
  have unmarked : (⟨a, o⟩ : Slot).aligned = tombstone → (⟨a, o⟩ : Slot) = ⟨tombstone, 0⟩ :=
    fun marked => absurd marked address.2
  rcases insert_eq_true done with ⟨i, place, rfl⟩ | ⟨i, place, rfl⟩
  · rw [place] at fits
    exact h.of_withSlot (represents.rebind address fits) members unmarked
  · rw [place] at fits
    exact h.of_withSlot (represents.bind address fits) members unmarked

/-- The count plays no part in which addresses are bound. -/
theorem recount (h : t.Drifted bound) : (t.recount live).Drifted bound := ⟨h.entries, h.blank⟩

theorem take (h : t.Drifted bound) (found : t.take a = (some o, t')) :
    t'.Drifted (bound \ {a}) := by
  obtain ⟨used, i, here, rfl, rfl⟩ := take_eq_some found
  have held : t.key i = a := findFrom_sound here
  by_cases reserved : a = tombstone
  · -- The tombstone is written over itself.
    subst reserved
    have unbound : bound \ {tombstone} = bound :=
      Set.sdiff_singleton_eq_self fun member => (h.isAddress member).2 rfl
    rw [unbound, withSlot_self (h.blank i held)]
    exact h.recount
  · obtain ⟨m, represents, same⟩ := h.entries
    refine h.of_withSlot (represents.unbind ⟨used, reserved⟩ held) (fun b => ?_) fun _ => rfl
    rw [Set.mem_sdiff, Set.mem_singleton_iff, Std.ExtHashMap.mem_erase, same, beq_eq_false_iff_ne,
      ne_comm, and_comm]

/-- A word that is no mark and not bound is not found. -/
theorem find_eq_none (h : t.Drifted bound) (address : IsAddress a) (stray : a ∉ bound) :
    t.find a = none := by
  obtain ⟨m, represents, same⟩ := h.entries
  have search : (t.recount m.size).find a = t.find a := findFrom_recount capacity
  rw [← search]
  refine (find_eq_none_iff represents address).2 fun i held => stray ?_
  exact (same a).2 ((represents.mem_iff address).2 ⟨i, held⟩)

end Drifted

/-- The slots keep track, whatever callers take. -/
theorem Reached.drifted (h : Reached t bound) : t.Drifted bound := by
  induction h with
  | new =>
    refine ⟨⟨∅, represents_empty, fun a => by simp⟩, fun i marked => ?_⟩
    rw [key_empty] at marked
    exact absurd marked (by decide)
  | inserted _ address done ih => exact ih.insert address done
  | refused _ _ full ih => exact eq_of_insert_false full ▸ ih
  | taken _ found ih => exact ih.take found
  | missed _ absent ih => exact eq_of_take_none absent ▸ ih

theorem Reached.insert (h : Reached t bound) (address : IsAddress a)
    (done : (t.insert a o).1 = true) : Reached (t.insert a o).2 (Insert.insert a bound) :=
  h.inserted address (Prod.ext done rfl)

theorem Reached.take (h : Reached t bound) (found : (t.take a).1 = some o) :
    Reached (t.take a).2 (bound \ {a}) :=
  h.taken (Prod.ext found rfl)

/-! ## 5. Stray lookups -/

/-- A table from which nothing is taken is not told apart from what it was. -/
theorem Harmless.of_miss (missed : t.originOf a = none) (absent : t.take a = (none, t)) :
    t.Harmless a where
  missed := missed
  absent := by rw [absent]
  size_eq := by rw [absent]
  later ops b _ := by rw [absent]

/-- A word that is not bound is looked up and taken without harm, unless it is the mark
of a tombstone and a search for it comes to one. Then zero is given for it, and the
count loses an address that is still bound. -/
theorem Reached.stray_lookup (h : Reached t bound) (stray : a ∉ bound) :
    (t.Harmless a ↔ ¬ (a = tombstone ∧ t.Exposed)) ∧
      (a = tombstone ∧ t.Exposed →
        t.originOf a = some 0 ∧ t.take a = (some 0, t.recount (t.live - 1))) := by
  have drifted := h.drifted
  have mark (exposed : a = tombstone ∧ t.Exposed) :
      t.originOf a = some 0 ∧ t.take a = (some 0, t.recount (t.live - 1)) := by
    obtain ⟨rfl, exposed⟩ := exposed
    exact drifted.take_tombstone exposed
  refine ⟨⟨fun harmless exposed => ?_, fun hidden => ?_⟩, mark⟩
  · have missed := harmless.missed
    rw [(mark exposed).1] at missed
    cases missed
  · by_cases skip : a = vacant ∨ t.live = 0
    · exact .of_miss (if_pos skip) (if_pos skip)
    · have none_found : t.find a = none := by
        by_cases reserved : a = tombstone
        · rw [Option.eq_none_iff_forall_ne_some]
          intro i found
          subst reserved
          exact hidden ⟨rfl, exposed_iff.2 ⟨fun none_live => skip (.inr none_live), i, found⟩⟩
        · exact drifted.find_eq_none ⟨fun free => skip (.inl free), reserved⟩ stray
      obtain ⟨missed, absent⟩ := miss_of_find_none none_found
      exact .of_miss missed absent

/-- A table with one address bound, beside the tombstone of another. -/
def exposedTable : OriginTable :=
  (((({} : OriginTable).insert 0x7dc0 0x7db0).2.insert 0x8970 0x8960).2.take 0x7dc0).2

theorem reached_exposedTable : Reached exposedTable {0x8970} := by
  have first := Reached.new.insert (a := 0x7dc0) (o := 0x7db0) (by decide) (by decide +kernel)
  have both := first.insert (a := 0x8970) (o := 0x8960) (by decide) (by decide +kernel)
  have one := both.take (a := 0x7dc0) (o := 0x7db0) (by decide +kernel)
  have left : Insert.insert 0x8970 (Insert.insert 0x7dc0 ∅) \ {0x7dc0} = ({0x8970} : Set Addr) := by
    rw [Set.insert_sdiff_of_notMem _ (by decide)]
    simp
  rwa [left] at one

theorem exposed_exposedTable : exposedTable.Exposed :=
  exposed_iff.2 ⟨by decide +kernel, Option.isSome_iff_exists.1 (by decide +kernel)⟩

/-- In that table zero is found for the mark, and once it was taken the address that is
bound is not found any more. -/
theorem Reached.stray_lookup_exposedTable :
    Reached exposedTable {0x8970} ∧ tombstone ∉ ({0x8970} : Set Addr) ∧
      ¬ exposedTable.Harmless tombstone ∧ exposedTable.originOf tombstone = some 0 ∧
      exposedTable.originOf 0x8970 = some 0x8960 ∧
      (exposedTable.take tombstone).2.originOf 0x8970 = none := by
  have stray : tombstone ∉ ({0x8970} : Set Addr) := by decide
  obtain ⟨harmless_iff, mark⟩ := reached_exposedTable.stray_lookup stray
  have exposed : tombstone = tombstone ∧ exposedTable.Exposed := ⟨rfl, exposed_exposedTable⟩
  refine ⟨reached_exposedTable, stray, fun harmless => harmless_iff.1 harmless exposed,
    (mark exposed).1, by decide +kernel, ?_⟩
  rw [(mark exposed).2]
  decide +kernel

/-- Not every lookup of a word that is not bound is harmless. -/
theorem stray_harmless_false :
    ¬ ∀ t bound a, Reached t bound → a ∉ bound → t.Harmless a := by
  intro harmless
  have stray : tombstone ∉ ({0x8970} : Set Addr) := by decide
  have missed := (harmless _ _ _ reached_exposedTable stray).missed
  rw [(reached_exposedTable.drifted.take_tombstone exposed_exposedTable).1] at missed
  cases missed

end MallocLayer.OriginTable
