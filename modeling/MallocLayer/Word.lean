/-!
# Machine words

Sizes and addresses are 64-bit words. The operations here put the overflow
case in front: a result that does not fit a word is `none`, never a wrapped
value.
-/

namespace MallocLayer

/-- An address in the 64-bit address space. A pointer that may be null is an
`Option Addr`. -/
abbrev Addr := UInt64

namespace Word

/-- The largest word. -/
def top : UInt64 := 0xffffffffffffffff

/-- The sum, when it fits a word. -/
def add? (a b : UInt64) : Option UInt64 :=
  if a.toNat + b.toNat < UInt64.size then some (a + b) else none

/-- The product, when it fits a word. -/
def mul? (a b : UInt64) : Option UInt64 :=
  if a.toNat * b.toNat < UInt64.size then some (a * b) else none

/-- The sum, cut off at the largest word. -/
def addSaturating (a b : UInt64) : UInt64 :=
  (add? a b).getD top

/-- The difference, cut off at zero. -/
def subSaturating (a b : UInt64) : UInt64 :=
  if b ≤ a then a - b else 0

/-- The least multiple of `m` at or above `n`, when there is one that fits a
word. Zero has no multiples to round to. -/
def nextMultiple? (n m : UInt64) : Option UInt64 :=
  if m = 0 then none
  else if n % m = 0 then some n
  else add? n (m - n % m)

/-- The least power of two at or above `n`. -/
def leastPowerOfTwo (n : Nat) : Nat :=
  if n ≤ 1 then 1 else Nat.pow 2 ((n - 1).log2 + 1)

/-- Whether the word is a power of two. Zero is none. -/
def isPowerOfTwo (a : UInt64) : Bool :=
  Nat.pow 2 a.toNat.log2 == a.toNat

end Word

end MallocLayer
