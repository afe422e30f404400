import MallocLayer.Align
import Mathlib.Algebra.Order.Ring.Nat
import Mathlib.Data.Nat.Log

/-!
# Alignment arithmetic over the integers

What the word operations of `Word` and `Align` compute, said without words: a
rounded size is the least multiple of the alignment, `isAligned` is
divisibility, `alignUp` rounds up, and the size of an over-allocation is the
sum it stands for. An alignment is a word whose value is a power of two. What is
refused is what no word can hold.
-/

namespace MallocLayer

namespace Word

theorem add?_eq_some_iff {a b c : UInt64} : add? a b = some c ↔ a.toNat + b.toNat = c.toNat := by
  unfold add?
  split
  · next fits =>
    rw [Option.some.injEq, ← UInt64.toNat_inj, UInt64.toNat_add, Nat.mod_eq_of_lt fits]
  · next large =>
    have := c.toNat_lt
    simp only [reduceCtorEq, false_iff]
    simp only [UInt64.size] at large
    omega

theorem mul?_eq_some_iff {a b c : UInt64} : mul? a b = some c ↔ a.toNat * b.toNat = c.toNat := by
  unfold mul?
  split
  · next fits =>
    rw [Option.some.injEq, ← UInt64.toNat_inj, UInt64.toNat_mul, Nat.mod_eq_of_lt fits]
  · next large =>
    have := c.toNat_lt
    simp only [reduceCtorEq, false_iff]
    simp only [UInt64.size] at large
    omega

theorem toNat_subSaturating (a b : UInt64) :
    (subSaturating a b).toNat = a.toNat - b.toNat := by
  unfold subSaturating
  split
  · next le => exact UInt64.toNat_sub_of_le _ _ le
  · next lt =>
    rw [UInt64.le_iff_toNat_le] at lt
    rw [UInt64.toNat_zero]
    omega

theorem toNat_addSaturating (a b : UInt64) :
    (addSaturating a b).toNat = min (a.toNat + b.toNat) top.toNat := by
  have largest : top.toNat = UInt64.size - 1 := rfl
  unfold addSaturating add?
  split
  · next fits =>
    rw [Option.getD_some, UInt64.toNat_add, Nat.mod_eq_of_lt fits, Nat.min_eq_left]
    omega
  · next large =>
    rw [Option.getD_none, Nat.min_eq_right]
    omega

/-- A rounded size is a multiple at or above the size, and the least one. -/
theorem nextMultiple?_eq_some {n m r : UInt64} (rounded : nextMultiple? n m = some r) :
    m.toNat ∣ r.toNat ∧ n.toNat ≤ r.toNat ∧ r.toNat < n.toNat + m.toNat := by
  unfold nextMultiple? at rounded
  split at rounded
  · cases rounded
  · next nonzero =>
    have pos : 0 < m.toNat := Nat.pos_of_ne_zero fun zero => nonzero (UInt64.toNat_inj.1 zero)
    split at rounded
    · next even =>
      cases rounded
      have : n.toNat % m.toNat = 0 := by
        rw [← UInt64.toNat_mod, even, UInt64.toNat_zero]
      exact ⟨Nat.dvd_of_mod_eq_zero this, Nat.le_refl _, by omega⟩
    · have le : n % m ≤ m := by
        rw [UInt64.le_iff_toNat_le, UInt64.toNat_mod]
        exact (Nat.mod_lt _ pos).le
      rw [add?_eq_some_iff, UInt64.toNat_sub_of_le _ _ le, UInt64.toNat_mod] at rounded
      have rest := Nat.mod_lt n.toNat pos
      have split := Nat.div_add_mod n.toNat m.toNat
      refine ⟨⟨n.toNat / m.toNat + 1, ?_⟩, by omega, ?_⟩
      · rw [Nat.mul_add_one]
        omega
      · next odd =>
        have : n.toNat % m.toNat ≠ 0 := fun zero =>
          odd (UInt64.toNat_inj.1 (by rw [UInt64.toNat_mod, zero, UInt64.toNat_zero]))
        omega

/-- The least multiple of `m` at or above `n`. -/
def leastMultiple (n m : Nat) : Nat := (n + m - 1) / m * m

theorem toNat_nextMultiple? {n m r : UInt64} (rounded : nextMultiple? n m = some r) :
    r.toNat = leastMultiple n.toNat m.toNat := by
  obtain ⟨⟨q, multiple⟩, above, below⟩ := nextMultiple?_eq_some rounded
  have pos : 0 < m.toNat := by omega
  have quotient : (n.toNat + m.toNat - 1) / m.toNat = q := by
    rw [Nat.div_eq_iff pos, Nat.mul_comm q, ← multiple]
    omega
  rw [leastMultiple, quotient, multiple, Nat.mul_comm]

/-- What is no multiple is rounded up by what is missing to the next one. -/
theorem leastMultiple_of_mod_ne_zero {n m : Nat} (pos : 0 < m) (odd : n % m ≠ 0) :
    leastMultiple n m = n + (m - n % m) := by
  have rest := Nat.mod_lt n pos
  have split := Nat.div_add_mod n m
  have next : (n / m + 1) * m = n + (m - n % m) := by
    rw [Nat.add_one_mul, Nat.mul_comm]
    omega
  have quotient : (n + m - 1) / m = n / m + 1 := by
    rw [Nat.div_eq_iff pos, next]
    omega
  rw [leastMultiple, quotient, next]

theorem le_leastMultiple {m : Nat} (pos : 0 < m) (n : Nat) : n ≤ leastMultiple n m := by
  have rest := Nat.mod_lt (n + m - 1) pos
  have split := Nat.div_add_mod' (n + m - 1) m
  unfold leastMultiple
  omega

theorem leastMultiple_lt {m : Nat} (pos : 0 < m) (n : Nat) : leastMultiple n m < n + m := by
  have below := Nat.div_mul_le_self (n + m - 1) m
  unfold leastMultiple
  omega

/-- A word is rounded to `none` only if no word is the multiple. -/
theorem nextMultiple?_eq_none {n m : UInt64} (pos : 0 < m.toNat) (refused : nextMultiple? n m = none) :
    UInt64.size ≤ leastMultiple n.toNat m.toNat := by
  unfold nextMultiple? at refused
  split at refused
  · next zero =>
    rw [zero] at pos
    exact absurd pos (Nat.lt_irrefl 0)
  · split at refused
    · cases refused
    · next odd =>
      have odd' : n.toNat % m.toNat ≠ 0 := fun zero =>
        odd (UInt64.toNat_inj.1 (by rw [UInt64.toNat_mod, zero, UInt64.toNat_zero]))
      have le : n % m ≤ m := by
        rw [UInt64.le_iff_toNat_le, UInt64.toNat_mod]
        exact (Nat.mod_lt _ pos).le
      unfold add? at refused
      split at refused
      · cases refused
      · next large =>
        rw [UInt64.toNat_sub_of_le _ _ le, UInt64.toNat_mod] at large
        rw [leastMultiple_of_mod_ne_zero pos odd']
        exact Nat.le_of_not_lt large

theorem leastPowerOfTwo_eq (n : Nat) : ∃ k, leastPowerOfTwo n = 2 ^ k := by
  unfold leastPowerOfTwo
  split
  · exact ⟨0, rfl⟩
  · exact ⟨_, rfl⟩

theorem le_leastPowerOfTwo (n : Nat) : n ≤ leastPowerOfTwo n := by
  unfold leastPowerOfTwo
  split
  · assumption
  · have := Nat.lt_log2_self (n := n - 1)
    rw [Nat.pow_eq]
    omega

theorem leastPowerOfTwo_eq_clog (n : Nat) : leastPowerOfTwo n = 2 ^ Nat.clog 2 n := by
  unfold leastPowerOfTwo
  split
  · next le => rw [Nat.clog_of_right_le_one le, Nat.pow_zero]
  · next gt =>
    have least : Nat.clog 2 n = (n - 1).log2 + 1 := by
      apply Nat.le_antisymm
      · have above := Nat.lt_log2_self (n := n - 1)
        rw [Nat.clog_le_iff_le_pow Nat.one_lt_two]
        omega
      · have below := Nat.log2_self_le (n := n - 1) (by omega)
        rw [Nat.succ_le_iff, Nat.lt_clog_iff_pow_lt Nat.one_lt_two]
        omega
    rw [least, Nat.pow_eq]

theorem isPowerOfTwo_iff (a : UInt64) : isPowerOfTwo a ↔ ∃ k, a.toNat = 2 ^ k := by
  unfold isPowerOfTwo
  rw [beq_iff_eq]
  constructor
  · intro eq
    exact ⟨_, eq.symm⟩
  · rintro ⟨k, pow⟩
    rw [pow, Nat.log2_two_pow, Nat.pow_eq]

end Word

section Masks

variable {addr alignment : UInt64} {k : Nat}

/-- The mask of the low bits. -/
theorem toNat_sub_one_of_pow (pow : alignment.toNat = 2 ^ k) :
    (alignment - 1).toNat = 2 ^ k - 1 := by
  have pos := Nat.two_pow_pos k
  have one : (1 : UInt64) ≤ alignment := by
    rw [UInt64.le_iff_toNat_le, pow]
    exact pos
  rw [UInt64.toNat_sub_of_le _ _ one, pow]
  rfl

theorem isAligned_iff (pow : alignment.toNat = 2 ^ k) :
    isAligned addr alignment ↔ alignment.toNat ∣ addr.toNat := by
  unfold isAligned
  rw [beq_iff_eq, ← UInt64.toNat_inj, UInt64.toNat_and, toNat_sub_one_of_pow pow,
    Nat.and_two_pow_sub_one_eq_mod, pow, UInt64.toNat_zero]
  exact (Nat.dvd_iff_mod_eq_zero ..).symm

/-- Clearing the low bits rounds down. -/
theorem toNat_and_not_mask (x : UInt64) (pow : alignment.toNat = 2 ^ k) :
    (x &&& ~~~(alignment - 1)).toNat = x.toNat / 2 ^ k * 2 ^ k := by
  have small : 2 ^ k - 1 < 2 ^ 64 := by
    have := alignment.toNat_lt
    omega
  rw [UInt64.toNat_and, UInt64.toNat_not, toNat_sub_one_of_pow pow]
  apply Nat.eq_of_testBit_eq
  intro i
  rw [Nat.testBit_and, Nat.testBit_mul_two_pow, Nat.testBit_div_two_pow,
    show UInt64.size - 1 - (2 ^ k - 1) = 2 ^ 64 - (2 ^ k - 1 + 1) by simp only [UInt64.size]; omega,
    Nat.testBit_two_pow_sub_succ small, Nat.testBit_two_pow_sub_one]
  by_cases low : i < k
  · simp [low]
  · by_cases inside : i < 64
    · simp [low, inside, Nat.sub_add_cancel (Nat.le_of_not_lt low), Nat.le_of_not_lt low]
    · have clear : x.toNat.testBit i = false :=
        Nat.testBit_lt_two_pow (Nat.lt_of_lt_of_le x.toNat_lt (Nat.pow_le_pow_right (by decide) (by omega)))
      simp [low, clear, Nat.sub_add_cancel (Nat.le_of_not_lt low)]

/-- Rounding up, as long as it stays inside the address space. -/
theorem toNat_alignUp (pow : alignment.toNat = 2 ^ k)
    (fits : addr.toNat + alignment.toNat ≤ UInt64.size) :
    (alignUp addr alignment).toNat =
      (addr.toNat + alignment.toNat - 1) / alignment.toNat * alignment.toNat := by
  have pos := Nat.two_pow_pos k
  have sum : (addr + alignment - 1).toNat = addr.toNat + alignment.toNat - 1 := by
    have one : (1 : UInt64).toNat = 1 := rfl
    have := alignment.toNat_lt
    simp only [UInt64.size] at fits
    rw [UInt64.toNat_sub, UInt64.toNat_add, one]
    omega
  unfold alignUp
  rw [toNat_and_not_mask _ pow, sum, pow]

/-- The aligned address is the first one at or above the given one. -/
theorem alignUp_bounds (pow : alignment.toNat = 2 ^ k)
    (fits : addr.toNat + alignment.toNat ≤ UInt64.size) :
    alignment.toNat ∣ (alignUp addr alignment).toNat ∧
      addr.toNat ≤ (alignUp addr alignment).toNat ∧
      (alignUp addr alignment).toNat < addr.toNat + alignment.toNat := by
  have pos : 0 < alignment.toNat := pow ▸ Nat.two_pow_pos k
  rw [toNat_alignUp pow fits]
  have rest := Nat.mod_lt (addr.toNat + alignment.toNat - 1) pos
  have split := Nat.div_add_mod (addr.toNat + alignment.toNat - 1) alignment.toNat
  rw [Nat.mul_comm] at split
  refine ⟨Nat.dvd_mul_left .., ?_, ?_⟩ <;> omega

/-- Aligned addresses stay, and no others. -/
theorem alignUp_eq_self_iff (pow : alignment.toNat = 2 ^ k) :
    alignUp addr alignment = addr ↔ alignment.toNat ∣ addr.toNat := by
  constructor
  · intro same
    rw [← same, alignUp, toNat_and_not_mask _ pow, pow]
    exact Nat.dvd_mul_left ..
  · intro multiple
    -- The end of the address space is a multiple too, so there is room for one more.
    have whole : alignment.toNat ∣ UInt64.size := by
      have below : 2 ^ k < 2 ^ 64 := pow ▸ alignment.toNat_lt
      rw [pow]
      exact Nat.pow_dvd_pow 2 ((Nat.pow_lt_pow_iff_right Nat.one_lt_two).1 below).le
    have fits : addr.toNat + alignment.toNat ≤ UInt64.size :=
      Nat.le_of_lt_add_of_dvd (Nat.add_lt_add_right addr.toNat_lt _)
        (Nat.dvd_add multiple (Nat.dvd_refl _)) whole
    obtain ⟨multiple', above, below⟩ := alignUp_bounds pow fits
    have least := Nat.le_of_lt_add_of_dvd below multiple' multiple
    exact UInt64.toNat_inj.1 (Nat.le_antisymm least above)

end Masks

/-- The alignment of a request: the least power of two at or above it and the natural one. -/
def raisedAlignment (a : Nat) : Nat := 2 ^ Nat.clog 2 (max a 16)

theorem raisedAlignment_lt_iff {a : Nat} : raisedAlignment a < UInt64.size ↔ a ≤ 2 ^ 63 := by
  have size : UInt64.size = 2 ^ 64 := rfl
  have natural : 16 ≤ 2 ^ 63 := by decide
  rw [raisedAlignment, size, Nat.pow_lt_pow_iff_right Nat.one_lt_two, Nat.lt_succ_iff,
    Nat.clog_le_iff_le_pow Nat.one_lt_two, Nat.max_le, and_iff_left natural]

theorem le_raisedAlignment (a : Nat) : max a 16 ≤ raisedAlignment a :=
  Nat.le_pow_clog Nat.one_lt_two _

theorem sixteen_dvd_raisedAlignment (a : Nat) : 16 ∣ raisedAlignment a := by
  have natural : 2 ^ 4 ≤ raisedAlignment a := (Nat.le_max_right a 16).trans (le_raisedAlignment a)
  exact Nat.pow_dvd_pow 2 ((Nat.pow_le_pow_iff_right Nat.one_lt_two).1 natural)

theorem normalizeAlignment_eq (a : UInt64) :
    normalizeAlignment a =
      if a.toNat ≤ 2 ^ 63 then .ok (UInt64.ofNat (raisedAlignment a.toNat))
      else .error (.invalidAlignment a) := by
  have raised : (max a naturalAlignment).toNat = max a.toNat 16 := by
    rw [UInt64.toNat_max]
    rfl
  simp only [normalizeAlignment, raised, Word.leastPowerOfTwo_eq_clog]
  exact if_congr raisedAlignment_lt_iff rfl rfl

theorem PageSize.exists_pow (page : PageSize) : ∃ k, page.bytes.toNat = 2 ^ k :=
  (Word.isPowerOfTwo_iff page.bytes).1 page.power

/-- A page is an alignment that needs no raising. -/
theorem raisedAlignment_page (page : PageSize) :
    raisedAlignment page.bytes.toNat = page.bytes.toNat := by
  have large : 16 ≤ page.bytes.toNat := UInt64.le_iff_toNat_le.1 page.natural_le
  obtain ⟨k, pow⟩ := page.exists_pow
  rw [raisedAlignment, Nat.max_eq_left large, pow, Nat.clog_pow 2 k Nat.one_lt_two]

theorem normalizeAlignment_ok {a alignment : UInt64} (ok : normalizeAlignment a = .ok alignment) :
    ∃ k, alignment.toNat = 2 ^ k ∧ a.toNat ≤ alignment.toNat ∧ 16 ∣ alignment.toNat := by
  simp only [normalizeAlignment] at ok
  split at ok
  · next fits =>
    cases ok
    have raised : (max a naturalAlignment).toNat = max a.toNat 16 := by
      rw [UInt64.toNat_max]
      rfl
    rw [raised] at fits ⊢
    obtain ⟨k, pow⟩ := Word.leastPowerOfTwo_eq (max a.toNat 16)
    have le := Word.le_leastPowerOfTwo (max a.toNat 16)
    rw [UInt64.toNat_ofNat_of_lt' fits]
    rw [pow] at le ⊢
    have four : 2 ^ 4 ≤ 2 ^ k := by omega
    exact ⟨k, rfl, by omega, Nat.pow_dvd_pow 2 ((Nat.pow_le_pow_iff_right (by decide)).1 four)⟩
  · cases ok

theorem validateAlignment_ok {a alignment : UInt64} (ok : validateAlignment a = .ok alignment) :
    alignment = a ∧ ∃ k, a.toNat = 2 ^ k := by
  unfold validateAlignment at ok
  split at ok
  · next power =>
    cases ok
    exact ⟨rfl, (Word.isPowerOfTwo_iff a).1 power⟩
  · cases ok

theorem paddedSize_ok {size alignment padded : UInt64} (ok : paddedSize size alignment = .ok padded) :
    alignment.toNat ∣ padded.toNat ∧ size.toNat ≤ padded.toNat := by
  unfold paddedSize at ok
  split at ok
  · next le =>
    cases ok
    exact ⟨Nat.dvd_refl _, UInt64.le_iff_toNat_le.1 le⟩
  · split at ok
    · next rounded =>
      cases ok
      obtain ⟨dvd, le, _⟩ := Word.nextMultiple?_eq_some rounded
      exact ⟨dvd, le⟩
    · cases ok

/-- The least positive multiple of the alignment at or above the size. -/
def paddedTo (alignment size : Nat) : Nat := Word.leastMultiple (max size 1) alignment

theorem le_paddedTo {alignment : Nat} (pos : 0 < alignment) (size : Nat) :
    max size 1 ≤ paddedTo alignment size :=
  Word.le_leastMultiple pos _

/-- No multiple that is large enough is smaller. -/
theorem paddedTo_le {alignment size x : Nat} (pos : 0 < alignment) (multiple : alignment ∣ x)
    (above : max size 1 ≤ x) : paddedTo alignment size ≤ x := by
  have below := Word.leastMultiple_lt pos (max size 1)
  have near : paddedTo alignment size < x + alignment :=
    Nat.lt_of_lt_of_le below (Nat.add_le_add_right above alignment)
  exact Nat.le_of_lt_add_of_dvd near (Nat.dvd_mul_left ..) multiple

theorem paddedTo_of_le {alignment size : Nat} (pos : 0 < alignment) (le : size ≤ alignment) :
    paddedTo alignment size = alignment := by
  have quotient : (max size 1 + alignment - 1) / alignment = 1 := by
    rw [Nat.div_eq_iff pos]
    omega
  rw [paddedTo, Word.leastMultiple, quotient, Nat.one_mul]

theorem toNat_paddedSize {size alignment padded : UInt64} (pos : 0 < alignment.toNat)
    (ok : paddedSize size alignment = .ok padded) :
    padded.toNat = paddedTo alignment.toNat size.toNat := by
  unfold paddedSize at ok
  split at ok
  · next le =>
    cases ok
    exact (paddedTo_of_le pos (UInt64.le_iff_toNat_le.1 le)).symm
  · next gt =>
    rw [UInt64.le_iff_toNat_le] at gt
    split at ok
    · next rounded =>
      cases ok
      rw [Word.toNat_nextMultiple? rounded, paddedTo, Nat.max_eq_left (by omega)]
    · cases ok

/-- Only a size that no word is padded to is refused. -/
theorem paddedSize_error {size alignment : UInt64} {err : AllocError} (pos : 0 < alignment.toNat)
    (refused : paddedSize size alignment = .error err) :
    err = .overflow size alignment ∧ UInt64.size ≤ paddedTo alignment.toNat size.toNat := by
  unfold paddedSize at refused
  split at refused
  · cases refused
  · next gt =>
    rw [UInt64.le_iff_toNat_le] at gt
    split at refused
    · cases refused
    · next none =>
      cases refused
      rw [paddedTo, Nat.max_eq_left (by omega)]
      exact ⟨rfl, Word.nextMultiple?_eq_none pos none⟩

theorem overAllocation_ok {size alignment total : UInt64}
    (ok : overAllocation size alignment = .ok total) :
    total.toNat = 2 * alignment.toNat + size.toNat := by
  unfold overAllocation at ok
  split at ok
  · next sum =>
    cases ok
    obtain ⟨twice, double, add⟩ := Option.bind_eq_some_iff.1 sum
    rw [Word.mul?_eq_some_iff, show (2 : UInt64).toNat = 2 from rfl] at double
    rw [Word.add?_eq_some_iff] at add
    omega
  · cases ok

theorem overAllocation_error {size alignment : UInt64} {err : AllocError}
    (refused : overAllocation size alignment = .error err) :
    err = .overflow alignment size ∧ UInt64.size ≤ 2 * alignment.toNat + size.toNat := by
  unfold overAllocation at refused
  split at refused
  · cases refused
  · next none =>
    cases refused
    refine ⟨rfl, Nat.le_of_not_lt fun less => ?_⟩
    have double : Word.mul? alignment 2 = some (UInt64.ofNat (2 * alignment.toNat)) := by
      rw [Word.mul?_eq_some_iff, UInt64.toNat_ofNat_of_lt' (by omega), Nat.mul_comm]
      rfl
    have sum : Word.add? (UInt64.ofNat (2 * alignment.toNat)) size =
        some (UInt64.ofNat (2 * alignment.toNat + size.toNat)) := by
      rw [Word.add?_eq_some_iff, UInt64.toNat_ofNat_of_lt' (by omega),
        UInt64.toNat_ofNat_of_lt' (by omega)]
    rw [double, Option.bind_some, sum] at none
    cases none

end MallocLayer
