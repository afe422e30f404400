import MallocLayer.Layer.Aligned
import MallocLayer.Proofs.Reallocation
import Mathlib.Data.Finset.Option
import Mathlib.Data.Finset.SDiff

/-!
# Client programs

A client is a list of requests to one layer, writes into its own blocks among
them. The ledger is the client's side of the account: the pointers that it was
given and has not given back. A program is legal if every pointer in it is null
or in the ledger at that moment, and if it writes only as far as the usable size
allows.

How a ledger is kept is a parameter, a settlement. `Request.settle` writes down
what the layer leaves the client with. The rule that is documented for `realloc`
leaves it more, and is the subject of `DocumentedOwnership`.
-/

namespace MallocLayer

/-- What a client asks of a layer. -/
inductive Request where
  | malloc (size : UInt64)
  | calloc (count size : UInt64)
  | strdup (text : CString)
  | memalign (alignment size : UInt64)
  | alignedAlloc (alignment size : UInt64)
  | posixMemalign (alignment size : UInt64)
  | valloc (size : UInt64)
  | realloc (ptr : Option Addr) (size : UInt64)
  | reallocf (ptr : Option Addr) (size : UInt64)
  | free (ptr : Option Addr)
  | vfree (ptr : Option Addr)
  | usableSize (ptr : Option Addr)
  | goodSize (size : UInt64)
  /-- Not a call: the client writes bytes of its own block. -/
  | write (ptr : Addr) (offset : Nat) (bytes : Array UInt8)

/-- What a client is told. -/
inductive Reply where
  | pointer (result : Except AllocError Addr)
  | resized (result : Except AllocError Reallocated)
  | size (n : UInt64)
  | done

/-- The pointers that a client holds. -/
abbrev Ledger := Finset Addr

/-- How a ledger is kept: what is in it after a request and its reply. -/
abbrev Settlement := Ledger → Request → Reply → Ledger

/-- The pointer is null, or one that the client holds. -/
def Ledger.Admits (owned : Ledger) : Option Addr → Prop
  | none => True
  | some p => p ∈ owned

instance (owned : Ledger) : DecidablePred owned.Admits
  | none => inferInstanceAs (Decidable True)
  | some p => inferInstanceAs (Decidable (p ∈ owned))

namespace Layer

variable {σ : Type} [Primitive σ]

/-- Carries out a request. -/
def serve (s : Layer σ) : Request → Reply × Layer σ
  | .malloc size => (s.malloc size).map .pointer id
  | .calloc count size => (s.calloc count size).map .pointer id
  | .strdup text => (s.strdup text).map .pointer id
  | .memalign alignment size => (s.memalign alignment size).map .pointer id
  | .alignedAlloc alignment size => (s.alignedAlloc alignment size).map .pointer id
  | .posixMemalign alignment size => (s.posixMemalign alignment size).map .pointer id
  | .valloc size => (s.valloc size).map .pointer id
  | .realloc ptr size => (s.realloc ptr size).map .resized id
  | .reallocf ptr size => (s.reallocf ptr size).map .resized id
  | .free ptr => (.done, s.free ptr)
  | .vfree ptr => (.done, s.vfree ptr)
  | .usableSize ptr => (s.usableSize ptr).map .size id
  | .goodSize size => (s.goodSize size).map .size id
  | .write ptr offset bytes => (.done, s.mapMemory (·.write (ptr + UInt64.ofNat offset) bytes))

end Layer

namespace Request

/-- The requests of the aligned family. -/
def Aligns : Request → Prop
  | .memalign .. | .alignedAlloc .. | .posixMemalign .. | .valloc _ => True
  | _ => False

instance : DecidablePred Aligns
  | .memalign .. | .alignedAlloc .. | .posixMemalign .. | .valloc _ =>
    inferInstanceAs (Decidable True)
  | .malloc _ | .calloc .. | .strdup _ | .realloc .. | .reallocf .. | .free _ | .vfree _
  | .usableSize _ | .goodSize _ | .write .. => inferInstanceAs (Decidable False)

/-- The pointer that a reallocation takes from the client. It takes it with
every success, and with the failures after which the layer has released the block. -/
def takenBy (ptr : Option Addr) (size : UInt64) (onFailure : OnFailure) :
    Except AllocError Reallocated → Option Addr
  | .ok _ => ptr
  | .error _ => if Layer.Forfeits size onFailure then ptr else none

/-- The pointer that the client no longer holds. -/
def surrenders : Request → Reply → Option Addr
  | .realloc ptr size, .resized result => takenBy ptr size .keepBlock result
  | .reallocf ptr size, .resized result => takenBy ptr size .releaseBlock result
  | .free ptr, _ | .vfree ptr, _ => ptr
  | _, _ => none

/-- The pointer that the client is given. -/
def obtains : Reply → Option Addr
  | .pointer (.ok p) => some p
  | .resized (.ok result) => result.pointer
  | _ => none

/-- The ledger after a request and its reply. -/
def settle (owned : Ledger) (r : Request) (reply : Reply) : Ledger :=
  owned \ (r.surrenders reply).toFinset ∪ (obtains reply).toFinset

section Settling

variable {owned : Ledger} {r : Request} {reply : Reply} {p q : Addr} {ptr : Option Addr}
  {size : UInt64} {onFailure : OnFailure} {err : AllocError}

/-- A request that neither takes nor gives a pointer. -/
theorem settle_quiet (keeps : r.surrenders reply = none) (gives : obtains reply = none) :
    r.settle owned reply = owned := by
  simp [settle, keeps, gives]

/-- A request that gives a pointer and takes none. -/
theorem settle_gain (keeps : r.surrenders reply = none) (gives : obtains reply = some p) :
    r.settle owned reply = owned ∪ {p} := by
  simp [settle, keeps, gives]

/-- The ledger after a reallocation. -/
def resettle (owned : Ledger) (ptr : Option Addr) (size : UInt64) (onFailure : OnFailure)
    (result : Except AllocError Reallocated) : Ledger :=
  owned \ (takenBy ptr size onFailure result).toFinset ∪ (obtains (.resized result)).toFinset

theorem resettle_inPlace (member : p ∈ owned) :
    resettle owned (some p) size onFailure (.ok (.inPlace p)) = owned :=
  Finset.sdiff_union_of_subset (Finset.singleton_subset_iff.2 member)

theorem resettle_moved :
    resettle owned (some p) size onFailure (.ok (.moved q)) = owned \ {p} ∪ {q} :=
  rfl

theorem resettle_released :
    resettle owned (some p) size onFailure (.ok .released) = owned \ {p} :=
  Finset.union_empty _

theorem resettle_lost (forfeits : Layer.Forfeits size onFailure) :
    resettle owned (some p) size onFailure (.error err) = owned \ {p} := by
  simp [resettle, takenBy, obtains, forfeits]

theorem resettle_failed (keeps : ¬ Layer.Forfeits size onFailure) :
    resettle owned ptr size onFailure (.error err) = owned := by
  simp [resettle, takenBy, obtains, keeps]

/-- Without a pointer to resize there is none to lose. -/
theorem resettle_none_error : resettle owned none size onFailure (.error err) = owned := by
  simp [resettle, takenBy, obtains]

theorem resettle_none_moved :
    resettle owned none size onFailure (.ok (.moved p)) = owned ∪ {p} := by
  simp [resettle, takenBy, obtains, Reallocated.pointer]

end Settling

variable {σ : Type} [Primitive σ]

/-- The request keeps to the client's own pointers. A C string fits the address
space, and a write stays within the usable size. -/
def Legal (s : Layer σ) (owned : Ledger) : Request → Prop
  | .realloc ptr _ | .reallocf ptr _ | .free ptr | .vfree ptr | .usableSize ptr =>
    owned.Admits ptr
  | .strdup text => text.stored.size < UInt64.size
  | .write ptr offset bytes =>
    ptr ∈ owned ∧ offset + bytes.size ≤ (s.usableSize (some ptr)).1.toNat
  | _ => True

instance (s : Layer σ) (owned : Ledger) : (r : Request) → Decidable (r.Legal s owned)
  | .realloc ptr _ | .reallocf ptr _ | .free ptr | .vfree ptr | .usableSize ptr =>
    inferInstanceAs (Decidable (owned.Admits ptr))
  | .strdup text => inferInstanceAs (Decidable (text.stored.size < UInt64.size))
  | .write ptr offset bytes =>
    inferInstanceAs
      (Decidable (ptr ∈ owned ∧ offset + bytes.size ≤ (s.usableSize (some ptr)).1.toNat))
  | .malloc .. | .calloc .. | .memalign .. | .alignedAlloc .. | .posixMemalign .. | .valloc ..
  | .goodSize .. => inferInstanceAs (Decidable True)

end Request

namespace Layer

variable {σ : Type} [Primitive σ]

/-- Every request of the program is legal when its turn comes, for a client that
keeps its ledger by `settle`. -/
def LegalBy (settle : Settlement) (s : Layer σ) (owned : Ledger) : List Request → Prop
  | [] => True
  | r :: rest =>
    r.Legal s owned ∧ LegalBy settle (s.serve r).2 (settle owned r (s.serve r).1) rest

instance LegalBy.decidable (settle : Settlement) (s : Layer σ) (owned : Ledger) :
    (program : List Request) → Decidable (s.LegalBy settle owned program)
  | [] => inferInstanceAs (Decidable True)
  | r :: rest =>
    have := LegalBy.decidable settle (s.serve r).2 (settle owned r (s.serve r).1) rest
    inferInstanceAs (Decidable (_ ∧ _))

/-- Every request of the program is legal when its turn comes. -/
abbrev LegalRun (s : Layer σ) (owned : Ledger) (program : List Request) : Prop :=
  s.LegalBy Request.settle owned program

/-- Something holds before the program and after each of its requests, of the layer
and of the ledger that is kept by `settle`. -/
def ThroughoutBy (settle : Settlement) (P : Layer σ → Ledger → Prop) (s : Layer σ)
    (owned : Ledger) : List Request → Prop
  | [] => P s owned
  | r :: rest =>
    P s owned ∧ ThroughoutBy settle P (s.serve r).2 (settle owned r (s.serve r).1) rest

/-- Something holds before the program and after each of its requests. -/
abbrev Throughout (P : Layer σ → Ledger → Prop) (s : Layer σ) (owned : Ledger)
    (program : List Request) : Prop :=
  s.ThroughoutBy Request.settle P owned program

/-- What holds throughout a program holds before it. -/
theorem ThroughoutBy.head {settle : Settlement} {P : Layer σ → Ledger → Prop} {s : Layer σ}
    {owned : Ledger} {program : List Request} (h : s.ThroughoutBy settle P owned program) :
    P s owned := by
  cases program with
  | nil => exact h
  | cons r rest => exact h.1

/-- What is invariant under legal requests holds throughout a legal program. -/
theorem throughout_of_invariant (Inv : Layer σ → Ledger → Prop) {P : Layer σ → Ledger → Prop}
    (step : ∀ s owned r, Inv s owned → Request.Legal s owned r →
      Inv (s.serve r).2 (r.settle owned (s.serve r).1))
    (holds : ∀ s owned, Inv s owned → P s owned) {s : Layer σ} {owned : Ledger}
    {program : List Request} (start : Inv s owned) (legal : s.LegalRun owned program) :
    s.Throughout P owned program := by
  induction program generalizing s owned with
  | nil => exact holds s owned start
  | cons r rest ih => exact ⟨holds s owned start, ih (step s owned r start legal.1) legal.2⟩

end Layer

end MallocLayer
