import MallocLayer.Memory

/-!
# Contents of a client's blocks

A client fills blocks with a pattern that counts up from a seed, and later
looks whether the pattern is still there.
-/

namespace MallocLayer.Client

/-- The byte of a pattern at an index. -/
def patternByte (seed : UInt8) (i : UInt64) : UInt8 := seed + i.toUInt8

/-- Writes a pattern into `n` bytes. -/
def writePattern (m : Memory) (a : Addr) (n : UInt64) (seed : UInt8) : Memory :=
  m.store a n (patternByte seed)

/-- The index of the first of the last `left` bytes of `n` that is not in the
pattern. -/
def firstMismatchFrom (m : Memory) (a : Addr) (n : Nat) (seed : UInt8) : (left : Nat) → Option Nat
  | 0 => none
  | left + 1 =>
    let i := n - (left + 1)
    if m.read (a + UInt64.ofNat i) = patternByte seed (UInt64.ofNat i) then
      firstMismatchFrom m a n seed left
    else some i

/-- The index of the first of `n` bytes that is not in the pattern. -/
def firstMismatch (m : Memory) (a : Addr) (n : Nat) (seed : UInt8) : Option Nat :=
  firstMismatchFrom m a n seed n

/-- The bytes from `offset` on, at most `length` of them and none from `limit`
on. -/
def readWithin (m : Memory) (a : Addr) (offset length limit : Nat) : List UInt8 :=
  m.readRange (a + UInt64.ofNat offset) (min (offset + length) limit - offset)

end MallocLayer.Client
