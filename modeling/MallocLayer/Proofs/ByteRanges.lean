import MallocLayer.Memory
import Mathlib.Algebra.Order.Ring.Nat

/-!
# Ranges of bytes

What `readRange` yields after each of the ways to write. A range that was just
filled, copied or written reads as what went there, and a write in the middle
of a range replaces that part of it. The ranges in question are those of a
pointer into a block, from the pointer to the end of the block. A word that was
written reads as that word.
-/

namespace MallocLayer

namespace Memory

variable {m m' : Memory} {a dst src p : Addr} {n k : Nat}

/-! ## 1. Reading -/

@[simp] theorem length_readRange (m : Memory) (a : Addr) (n : Nat) :
    (m.readRange a n).length = n := by
  simp [readRange]

theorem getElem?_readRange {i : Nat} (less : i < n) :
    (m.readRange a n)[i]? = some (m.read (a + UInt64.ofNat i)) := by
  simp [readRange, less]

theorem readRange_congr (same : ∀ i < n, m'.read (a + UInt64.ofNat i) = m.read (a + UInt64.ofNat i)) :
    m'.readRange a n = m.readRange a n := by
  refine List.map_congr_left fun i member => ?_
  exact same i (List.mem_range.1 member)

theorem take_readRange (le : k ≤ n) : (m.readRange a n).take k = m.readRange a k := by
  simp [readRange, ← List.map_take, List.take_range, Nat.min_eq_left le]

/-! ## 2. Reading what was stored -/

theorem read_store_self {size : UInt64} {f : UInt64 → UInt8} {i : Nat} (less : i < size.toNat) :
    (m.store a size f).read (a + UInt64.ofNat i) = f (UInt64.ofNat i) := by
  have offset : a + UInt64.ofNat i - a = UInt64.ofNat i := by
    rw [UInt64.add_comm, UInt64.add_sub_cancel]
  have inside : UInt64.ofNat i < size := by
    have := size.toNat_lt
    rw [UInt64.lt_iff_toNat_lt, UInt64.toNat_ofNat']
    omega
  rw [read_store, offset, if_pos inside]

theorem readRange_store_self (m : Memory) (a size : UInt64) (f : UInt64 → UInt8) :
    (m.store a size f).readRange a size.toNat =
      (List.range size.toNat).map fun i => f (UInt64.ofNat i) := by
  refine List.map_congr_left fun i member => ?_
  exact read_store_self (List.mem_range.1 member)

theorem readRange_fill (m : Memory) (a size : UInt64) (byte : UInt8) :
    (m.fill a size byte).readRange a size.toNat = List.replicate size.toNat byte := by
  rw [fill, readRange_store_self, List.map_const', List.length_range]

theorem readRange_copy (m : Memory) (dst src size : UInt64) :
    (m.copy dst src size).readRange dst size.toNat = m.readRange src size.toNat :=
  readRange_store_self m dst size fun i => m.read (src + i)

theorem read_write {bytes : Array UInt8} (fits : bytes.size < UInt64.size) (x : Addr) :
    (m.write a bytes).read x = bytes[(x - a).toNat]?.getD (m.read x) := by
  have size : (UInt64.ofNat bytes.size).toNat = bytes.size := UInt64.toNat_ofNat_of_lt fits
  simp only [write, read_store, UInt64.lt_iff_toNat_lt, size]
  split <;> simp [*]

theorem readRange_write {bytes : Array UInt8} (fits : bytes.size < UInt64.size) :
    (m.write a bytes).readRange a bytes.size = bytes.toList := by
  refine List.ext_getElem? fun i => ?_
  by_cases less : i < bytes.size
  · have distance : (a + UInt64.ofNat i - a).toNat = i := by
      rw [UInt64.add_comm, UInt64.add_sub_cancel]
      exact UInt64.toNat_ofNat_of_lt (Nat.lt_trans less fits)
    rw [getElem?_readRange less, read_write fits, distance]
    simp [less]
  · rw [List.getElem?_eq_none (by simpa using less), List.getElem?_eq_none (by simpa using less)]

/-! ## 3. Writing into a range -/

/-- The bytes with a part of them replaced. -/
def overwrite (old : List UInt8) (offset : Nat) (bytes : List UInt8) : List UInt8 :=
  old.take offset ++ bytes ++ old.drop (offset + bytes.length)

theorem getElem?_overwrite {old bytes : List UInt8} {offset : Nat}
    (fits : offset + bytes.length ≤ old.length) (i : Nat) :
    (overwrite old offset bytes)[i]? =
      if offset ≤ i ∧ i < offset + bytes.length then bytes[i - offset]? else old[i]? := by
  unfold overwrite
  have head : (old.take offset).length = offset := by
    rw [List.length_take]
    omega
  rw [List.append_assoc]
  by_cases before : i < offset
  · rw [List.getElem?_append_left (by omega), List.getElem?_take_of_lt before, if_neg (by omega)]
  · rw [List.getElem?_append_right (by omega), head]
    by_cases within : i < offset + bytes.length
    · rw [List.getElem?_append_left (by omega), if_pos ⟨by omega, within⟩]
    · rw [List.getElem?_append_right (by omega), List.getElem?_drop, if_neg (by omega)]
      congr 1
      omega

/-- A write into the range replaces a part of what the range reads as. -/
theorem readRange_write_inside {bytes : Array UInt8} {offset : Nat} (small : n < UInt64.size)
    (fits : offset + bytes.size ≤ n) :
    (m.write (a + UInt64.ofNat offset) bytes).readRange a n =
      overwrite (m.readRange a n) offset bytes.toList := by
  have fits' : offset + bytes.toList.length ≤ (m.readRange a n).length := by simpa using fits
  refine List.ext_getElem? fun i => ?_
  rw [getElem?_overwrite fits', Array.length_toList]
  by_cases less : i < n
  · -- In front of the offset the distance wraps around, and lands past the bytes.
    have distance : (a + UInt64.ofNat i - (a + UInt64.ofNat offset)).toNat =
        (UInt64.size - offset + i) % UInt64.size := by
      have := a.toNat_lt
      simp only [UInt64.toNat_sub, UInt64.toNat_add, UInt64.toNat_ofNat', UInt64.size] at *
      omega
    rw [getElem?_readRange less, read_write (by omega), distance, getElem?_readRange less]
    split
    · next within =>
      have : (UInt64.size - offset + i) % UInt64.size = i - offset := by
        rw [Nat.mod_eq_sub_mod (by omega), Nat.mod_eq_of_lt (by omega)]
        omega
      have bound : i - offset < bytes.size := by omega
      simp [this, bound]
    · next outside =>
      have past : bytes.size ≤ (UInt64.size - offset + i) % UInt64.size := by
        by_cases before : i < offset
        · rw [Nat.mod_eq_of_lt (by omega)]
          omega
        · rw [Nat.mod_eq_sub_mod (by omega), Nat.mod_eq_of_lt (by omega)]
          omega
      simp [past]
  · have longer : ¬ (offset ≤ i ∧ i < offset + bytes.size) := by omega
    rw [if_neg longer]
    simp [readRange, less]

/-! ## 4. Words -/

theorem readWord_congr (same : ∀ i < 8, m'.read (a + UInt64.ofNat i) = m.read (a + UInt64.ofNat i)) :
    m'.readWord a = m.readWord a := by
  unfold readWord
  rw [readRange_congr same]

/-- A byte behind a word that leaves room for it. -/
theorem toNat_shift_or (w : UInt64) (byte : UInt8) (room : w.toNat < 2 ^ 56) :
    (w <<< 8 ||| byte.toUInt64).toNat = 256 * w.toNat + byte.toNat := by
  have shifted : (w <<< 8).toNat = w.toNat <<< 8 := by
    rw [UInt64.toNat_shiftLeft, Nat.shiftLeft_eq, Nat.shiftLeft_eq]
    exact Nat.mod_eq_of_lt (Nat.mul_lt_mul_of_pos_right room (Nat.two_pow_pos 8))
  rw [UInt64.toNat_or, shifted, UInt8.toNat_toUInt64, ← Nat.shiftLeft_add_eq_or_of_lt byte.toNat_lt,
    Nat.shiftLeft_eq, Nat.mul_comm]

/-- The bytes of a word from the `i`-th on, put together. -/
theorem toNat_foldr_bytes (w : UInt64) (i n : Nat) (last : i + n = 8) :
    UInt64.toNat (List.foldr (fun byte w => w <<< 8 ||| UInt8.toUInt64 byte) 0
      ((List.range' i n).map fun k => (w >>> (8 * UInt64.ofNat k)).toUInt8)) =
      w.toNat / 2 ^ (8 * i) := by
  have small := w.toNat_lt
  induction n generalizing i with
  | zero =>
    obtain rfl : i = 8 := last
    exact (Nat.div_eq_of_lt small).symm
  | succ n ih =>
    have amount : (8 * UInt64.ofNat i).toNat % 64 = 8 * i := by
      rw [UInt64.toNat_mul, UInt64.toNat_ofNat', show (8 : UInt64).toNat = 8 from rfl]
      omega
    have byte : (w >>> (8 * UInt64.ofNat i)).toUInt8.toNat = w.toNat / 2 ^ (8 * i) % 256 := by
      rw [UInt64.toNat_toUInt8, UInt64.toNat_shiftRight, amount, Nat.shiftRight_eq_div_pow]
    have rest : w.toNat / 2 ^ (8 * (i + 1)) = w.toNat / 2 ^ (8 * i) / 256 := by
      rw [Nat.div_div_eq_div_mul, show (256 : Nat) = 2 ^ 8 from rfl, ← Nat.pow_add]
      rfl
    have le := Nat.div_le_self w.toNat (2 ^ (8 * i))
    have later := (ih (i + 1) (by omega)).trans rest
    rw [List.range'_succ, List.map_cons, List.foldr_cons, toNat_shift_or _ _ (by omega), later, byte]
    omega

theorem readWord_writeWord (m : Memory) (a : Addr) (w : UInt64) :
    (m.writeWord a w).readWord a = w := by
  have bytes : (m.writeWord a w).readRange a 8 = _ :=
    readRange_store_self m a 8 fun i => (w >>> (8 * i)).toUInt8
  have whole := toNat_foldr_bytes w 0 8 rfl
  unfold readWord
  rw [bytes]
  exact UInt64.toNat_inj.1 (whole.trans (Nat.div_one _))

end Memory

end MallocLayer
