import MallocLayer.Proofs.Program
import Mathlib.Logic.Function.Basic

/-!
# Holdings

The layer as a client sees it: there are no addresses of blocks and no
primitive, only pointers, each with bytes of its own and the size that was last
requested for it. `Allows` says what each request may do to the holdings. It
leaves open where a new pointer points, how many bytes there are beyond those
asked for, and whether an allocation succeeds; all else is determined.

The holdings are those that the layer leaves the client with. An error of
`realloc` at size zero drops one; that it should not is said in
`DocumentedOwnership`.
-/

namespace MallocLayer

/-- What a client has behind a pointer. -/
structure Holding where
  /-- All the bytes that are usable. -/
  bytes : List UInt8
  /-- The size most recently requested. -/
  requested : Nat

/-- The holdings of a client, by pointer. -/
abbrev Holdings := Addr → Option Holding

namespace Holdings

def put (h : Holdings) (p : Addr) (x : Holding) : Holdings := Function.update h p (some x)

def drop (h : Holdings) (p : Addr) : Holdings := Function.update h p none

/-! ## 1. What a request may do -/

/-- The outcomes of a request for a new pointer to `need` bytes. `Good` is what
is promised of the bytes. -/
def Obtains (h : Holdings) (need : Nat) (Good : List UInt8 → Prop) :
    Except AllocError Addr → Holdings → Prop
  | .error _, h' => h' = h
  | .ok p, h' =>
    h p = none ∧ ∃ bytes, max need 1 ≤ bytes.length ∧ Good bytes ∧ h' = h.put p ⟨bytes, need⟩

/-- The outcomes of a request to resize `p`. -/
def Resizes (h : Holdings) (p : Addr) (size : UInt64) (onFailure : OnFailure) :
    Except AllocError Reallocated → Holdings → Prop
  | .error _, h' => h' = if Layer.Forfeits size onFailure then h.drop p else h
  | .ok .released, h' => size = 0 ∧ h' = h.drop p
  | .ok (.inPlace q), h' =>
    q = p ∧ size ≠ 0 ∧ ∃ old, h p = some old ∧ size.toNat ≤ old.bytes.length ∧
      h' = h.put p ⟨old.bytes, size.toNat⟩
  | .ok (.moved q), h' =>
    h.drop p q = none ∧ (size ≠ 0 → q ≠ p) ∧ ∃ old bytes, h p = some old ∧
      max size.toNat 1 ≤ bytes.length ∧
      bytes.take (min old.bytes.length size.toNat) =
        old.bytes.take (min old.bytes.length size.toNat) ∧
      h' = (h.drop p).put q ⟨bytes, size.toNat⟩

/-- The outcomes of a reallocation, where null stands for a new pointer. -/
def Reallocates (h : Holdings) (ptr : Option Addr) (size : UInt64) (onFailure : OnFailure)
    (result : Except AllocError Reallocated) (h' : Holdings) : Prop :=
  match ptr, result with
  | some p, result => h.Resizes p size onFailure result h'
  | none, .ok (.moved p) => h.Obtains size.toNat (fun _ => True) (.ok p) h'
  | none, .error _ => h' = h
  | none, .ok _ => False

/-- The request may be answered like this, with these holdings afterwards. -/
def Allows (h : Holdings) : Request → Reply → Holdings → Prop
  | .malloc size, .pointer result, h' => h.Obtains size.toNat (fun _ => True) result h'
  | .calloc count size, .pointer result, h' =>
    h.Obtains (count.toNat * size.toNat)
      (fun bytes => bytes.take (count.toNat * size.toNat) =
        List.replicate (count.toNat * size.toNat) 0) result h'
  | .strdup text, .pointer result, h' =>
    h.Obtains (text.bytes.length + 1)
      (fun bytes => bytes.take (text.bytes.length + 1) = text.bytes ++ [0]) result h'
  | .memalign _ size, .pointer result, h' => h.Obtains size.toNat (fun _ => True) result h'
  | .alignedAlloc alignment size, .pointer result, h' =>
    h.Obtains (Word.leastMultiple size.toNat alignment.toNat) (fun _ => True) result h'
  | .posixMemalign _ size, .pointer result, h' => h.Obtains size.toNat (fun _ => True) result h'
  | .valloc size, .pointer result, h' => h.Obtains size.toNat (fun _ => True) result h'
  | .realloc ptr size, .resized result, h' => h.Reallocates ptr size .keepBlock result h'
  | .reallocf ptr size, .resized result, h' => h.Reallocates ptr size .releaseBlock result h'
  | .free ptr, .done, h' | .vfree ptr, .done, h' => h' = ptr.elim h h.drop
  | .usableSize none, .size n, h' => n = 0 ∧ h' = h
  | .usableSize (some p), .size n, h' =>
    h' = h ∧ ∃ x, h p = some x ∧ n.toNat = x.bytes.length
  | .goodSize _, .size _, h' => h' = h
  | .write p offset bytes, .done, h' =>
    ∃ x, h p = some x ∧ offset + bytes.size ≤ x.bytes.length ∧
      h' = h.put p ⟨Memory.overwrite x.bytes offset bytes.toList, x.requested⟩
  | _, _, _ => False

/-! ## 2. Holdings and layers -/

/-- The layer has what the holdings say: for each pointer a region of the
address space of its own, with these bytes in it and room for what was
requested. -/
structure Match {σ : Type} [Primitive σ] (h : Holdings) (s : Layer σ) (owned : Ledger) : Prop where
  domain : ∀ p, p ∈ owned ↔ (h p).isSome
  usable : ∀ {p x}, h p = some x → (s.usableSize (some p)).1.toNat = x.bytes.length
  contents : ∀ {p x}, h p = some x → s.heap.memory.readRange p x.bytes.length = x.bytes
  enough : ∀ {p x}, h p = some x → x.requested ≤ x.bytes.length
  inside : ∀ {p x}, h p = some x → p.toNat + x.bytes.length ≤ UInt64.size
  apart : ∀ {p q x y}, h p = some x → h q = some y → p ≠ q →
    p.toNat + x.bytes.length ≤ q.toNat ∨ q.toNat + y.bytes.length ≤ p.toNat

/-- The layer carries out the program as `allows` says, for a client that keeps its
ledger by `settle`: holdings and layer match before it, and each reply comes with a
change of the holdings that is allowed and after which they match again. -/
def RefinesBy {σ : Type} [Primitive σ] (allows : Holdings → Request → Reply → Holdings → Prop)
    (settle : Settlement) (h : Holdings) (s : Layer σ) (owned : Ledger) : List Request → Prop
  | [] => h.Match s owned
  | r :: rest =>
    h.Match s owned ∧ ∃ h', allows h r (s.serve r).1 h' ∧
      RefinesBy allows settle h' (s.serve r).2 (settle owned r (s.serve r).1) rest

/-- The layer carries out the program as the holdings allow. -/
abbrev Refines {σ : Type} [Primitive σ] (h : Holdings) (s : Layer σ) (owned : Ledger)
    (program : List Request) : Prop :=
  h.RefinesBy Allows Request.settle s owned program

end Holdings

end MallocLayer
