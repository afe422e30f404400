import MallocLayer.Proofs.Alignment
import Mathlib.Order.Bounds.Basic

/-!
# The alignment helpers are exact

Each helper works on words with masks and checked steps, and each has a specification
over the integers: the least power of two, the least positive multiple, a sum, a
divisor. A helper answers the word that stands for the integer, and refuses if no word
does. Nothing is lost at the upper end: with the alignment 2^63 twice the alignment is
already too large, and the last multiple of an alignment is rounded to itself though
the sum on the way there wraps (`exactFor_of_pow`).
-/

namespace MallocLayer

/-- The answer is the word that stands for `n`, unless `n` is out of reach. Then it is
the error. -/
structure Answers (answer : Except AllocError UInt64) (n : ℕ) (outOfReach : Prop)
    (err : AllocError) : Prop where
  ok_iff : ∀ w, answer = .ok w ↔ ¬ outOfReach ∧ w.toNat = n
  error_iff : ∀ e, answer = .error e ↔ outOfReach ∧ e = err

/-- What the six helpers compute, for an alignment to be normalized or validated, and
for a size and an address under a given alignment. -/
structure ExactFor (requested size addr alignment : UInt64) : Prop where
  normalized : ∃ least,
    IsLeast {n | (∃ k, n = 2 ^ k) ∧ max requested.toNat 16 ≤ n} least ∧
      Answers (normalizeAlignment requested) least (2 ^ 63 < least) (.invalidAlignment requested)
  validated :
    Answers (validateAlignment requested) requested.toNat (¬ ∃ k, requested.toNat = 2 ^ k)
      (.invalidAlignment requested)
  padded : ∃ least,
    IsLeast {n | 0 < n ∧ alignment.toNat ∣ n ∧ size.toNat ≤ n} least ∧
      Answers (paddedSize size alignment) least (2 ^ 64 ≤ least) (.overflow size alignment)
  overAllocated :
    Answers (overAllocation size alignment) (2 * alignment.toNat + size.toNat)
      (2 ^ 64 ≤ 2 * alignment.toNat + size.toNat) (.overflow alignment size)
  aligned : isAligned addr alignment ↔ alignment.toNat ∣ addr.toNat
  up : addr.toNat + alignment.toNat - 1 < 2 ^ 64 →
    IsLeast {n | alignment.toNat ∣ n ∧ addr.toNat ≤ n} (alignUp addr alignment).toNat ∧
      (alignUp addr alignment).toNat - addr.toNat < alignment.toNat ∧
      ((alignUp addr alignment).toNat - addr.toNat = 0 ↔ isAligned addr alignment)

namespace Answers

variable {answer : Except AllocError UInt64} {n : ℕ} {outOfReach : Prop} {err : AllocError}

/-- It is enough to know what each of the two kinds of answer stands for. -/
theorem of_cases (ok : ∀ w, answer = .ok w → ¬ outOfReach ∧ w.toNat = n)
    (error : ∀ e, answer = .error e → outOfReach ∧ e = err) :
    Answers answer n outOfReach err := by
  cases answer with
  | ok v =>
    obtain ⟨reached, value⟩ := ok v rfl
    refine ⟨fun w => ?_, fun e => ⟨nofun, fun refused => absurd refused.1 reached⟩⟩
    rw [Except.ok.injEq, ← UInt64.toNat_inj, value]
    exact ⟨fun same => ⟨reached, same.symm⟩, fun same => same.2.symm⟩
  | error f =>
    obtain ⟨beyond, rfl⟩ := error f rfl
    refine ⟨fun w => ⟨nofun, fun reached => absurd beyond reached.1⟩, fun e => ?_⟩
    rw [Except.error.injEq]
    exact ⟨fun same => ⟨beyond, same.symm⟩, fun same => same.2.symm⟩

/-- What a word stands for is in reach of the words. -/
theorem of_value (ok : ∀ w, answer = .ok w → w.toNat = n)
    (error : ∀ e, answer = .error e → e = err ∧ 2 ^ 64 ≤ n) :
    Answers answer n (2 ^ 64 ≤ n) err := by
  refine of_cases (fun w is => ⟨?_, ok w is⟩) (fun e is => (error e is).symm)
  rw [← ok w is]
  exact Nat.not_le_of_lt w.toNat_lt

end Answers

/-! ## Powers of two -/

theorem isLeast_raisedAlignment (a : ℕ) :
    IsLeast {n | (∃ k, n = 2 ^ k) ∧ max a 16 ≤ n} (raisedAlignment a) := by
  refine ⟨⟨⟨_, rfl⟩, le_raisedAlignment a⟩, ?_⟩
  rintro n ⟨⟨k, rfl⟩, above⟩
  exact Nat.pow_le_pow_right Nat.two_pos (Nat.clog_le_of_le_pow above)

/-- The largest power of two in a word is in reach, and the next one is not. -/
theorem raisedAlignment_gt_iff {a : ℕ} : 2 ^ 63 < raisedAlignment a ↔ ¬ a ≤ 2 ^ 63 := by
  have natural : 16 ≤ 2 ^ 63 := by decide
  rw [← Nat.not_le, not_iff_not, raisedAlignment, Nat.pow_le_pow_iff_right Nat.one_lt_two,
    Nat.clog_le_iff_le_pow Nat.one_lt_two, Nat.max_le, and_iff_left natural]

theorem normalizeAlignment_answers (a : UInt64) :
    Answers (normalizeAlignment a) (raisedAlignment a.toNat) (2 ^ 63 < raisedAlignment a.toNat)
      (.invalidAlignment a) := by
  rw [raisedAlignment_gt_iff, normalizeAlignment_eq]
  split
  · next fits =>
    refine .of_cases (fun w is => ?_) nofun
    cases is
    exact ⟨not_not_intro fits, UInt64.toNat_ofNat_of_lt' (raisedAlignment_lt_iff.2 fits)⟩
  · next large =>
    refine .of_cases nofun (fun e is => ?_)
    cases is
    exact ⟨large, rfl⟩

theorem validateAlignment_answers (a : UInt64) :
    Answers (validateAlignment a) a.toNat (¬ ∃ k, a.toNat = 2 ^ k) (.invalidAlignment a) := by
  rw [← Word.isPowerOfTwo_iff, validateAlignment]
  split
  · next power =>
    refine .of_cases (fun w is => ?_) nofun
    cases is
    exact ⟨not_not_intro power, rfl⟩
  · next other =>
    refine .of_cases nofun (fun e is => ?_)
    cases is
    exact ⟨other, rfl⟩

/-! ## Multiples -/

variable {size addr alignment : UInt64} {k : ℕ}

theorem isLeast_paddedTo_of_pos {m : ℕ} (pos : 0 < m) (n : ℕ) :
    IsLeast {x | 0 < x ∧ m ∣ x ∧ n ≤ x} (paddedTo m n) := by
  have above := le_paddedTo pos n
  refine ⟨⟨by omega, Nat.dvd_mul_left .., by omega⟩, ?_⟩
  rintro x ⟨positive, multiple, large⟩
  exact paddedTo_le pos multiple (Nat.max_le.2 ⟨large, positive⟩)

theorem paddedSize_answers (pos : 0 < alignment.toNat) :
    Answers (paddedSize size alignment) (paddedTo alignment.toNat size.toNat)
      (2 ^ 64 ≤ paddedTo alignment.toNat size.toNat) (.overflow size alignment) :=
  .of_value (fun _ => toNat_paddedSize pos) (fun _ => paddedSize_error pos)

theorem overAllocation_answers (size alignment : UInt64) :
    Answers (overAllocation size alignment) (2 * alignment.toNat + size.toNat)
      (2 ^ 64 ≤ 2 * alignment.toNat + size.toNat) (.overflow alignment size) :=
  .of_value (fun _ => overAllocation_ok) (fun _ => overAllocation_error)

theorem isLeast_alignUp (pow : alignment.toNat = 2 ^ k)
    (fits : addr.toNat + alignment.toNat ≤ UInt64.size) :
    IsLeast {n | alignment.toNat ∣ n ∧ addr.toNat ≤ n} (alignUp addr alignment).toNat := by
  obtain ⟨multiple, above, below⟩ := alignUp_bounds pow fits
  refine ⟨⟨multiple, above⟩, ?_⟩
  rintro n ⟨other, large⟩
  exact Nat.le_of_lt_add_of_dvd (by omega) multiple other

/-- For each alignment that is a power of two, the helpers compute what they stand
for, over all requests, sizes and addresses. -/
theorem exactFor_of_pow (requested size addr : UInt64) (pow : alignment.toNat = 2 ^ k) :
    ExactFor requested size addr alignment where
  normalized := ⟨_, isLeast_raisedAlignment _, normalizeAlignment_answers requested⟩
  validated := validateAlignment_answers requested
  padded := by
    have pos : 0 < alignment.toNat := pow ▸ Nat.two_pow_pos k
    exact ⟨_, isLeast_paddedTo_of_pos pos _, paddedSize_answers pos⟩
  overAllocated := overAllocation_answers size alignment
  aligned := isAligned_iff pow
  up fits := by
    have room : addr.toNat + alignment.toNat ≤ UInt64.size := by
      simp only [UInt64.size]
      omega
    obtain ⟨-, above, below⟩ := alignUp_bounds pow room
    refine ⟨isLeast_alignUp pow room, by omega, ?_⟩
    rw [isAligned_iff pow, ← alignUp_eq_self_iff pow, ← UInt64.toNat_inj]
    omega

/-- The largest alignment, a request that no power of two in a word reaches, and an
address whose sum with the alignment wraps. -/
theorem exactFor_of_pow_largest :
    (0x8000000000000000 : UInt64).toNat = 2 ^ 63 ∧
      ExactFor 0x8000000000000001 0x8000000000000001 0x8000000000000000 0x8000000000000000 := by
  have pow : (0x8000000000000000 : UInt64).toNat = 2 ^ 63 := rfl
  exact ⟨pow, exactFor_of_pow _ _ _ pow⟩

end MallocLayer
