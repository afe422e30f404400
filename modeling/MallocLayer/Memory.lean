import MallocLayer.Word
import Std.Data.HashMap

/-!
# Memory

The bytes of the address space. Memory is kept in pages of 512 bytes, and a
page that was never written reads as zero. All writing goes through `store`,
which sets the `n` bytes from `a` on to a function of their offset, and
`read_store` says what is read afterwards: the function inside the range, and
what was there before outside of it.
-/

namespace MallocLayer

/-- The contents of the address space. -/
structure Memory where
  pages : Std.HashMap UInt64 (Vector UInt8 512)

namespace Memory

/-- Memory that reads as zero everywhere. -/
def empty : Memory := ⟨∅⟩

/-- The byte at `x`. -/
def read (m : Memory) (x : Addr) : UInt8 :=
  match m.pages[x / 512]? with
  | some page => page.get ⟨(x % 512).toNat, Nat.mod_lt _ (by decide)⟩
  | none => 0

/-- Rewrites page `p`: bytes of the range of `n` bytes from `a` come from `f`,
and all others stay. -/
def storePage (m : Memory) (a n : UInt64) (f : UInt64 → UInt8) (p : UInt64) : Memory :=
  ⟨m.pages.insert p <| Vector.ofFn fun i =>
    let x := p * 512 + UInt64.ofNat i.val
    if x - a < n then f (x - a) else m.read x⟩

/-- The number of pages that the range of `n` bytes from `a` touches. -/
def pageCount (a n : UInt64) : Nat :=
  if n = 0 then 0 else ((a % 512).toNat + n.toNat - 1) / 512 + 1

/-- Sets byte `a + i` to `f i` for every `i < n`. -/
def store (m : Memory) (a n : UInt64) (f : UInt64 → UInt8) : Memory :=
  (List.range (pageCount a n)).foldl
    (fun m k => m.storePage a n f ((a / 512 + UInt64.ofNat k) % 0x80000000000000)) m

/-- Sets `n` bytes to one value. -/
def fill (m : Memory) (a n : UInt64) (byte : UInt8) : Memory :=
  m.store a n fun _ => byte

/-- Copies `n` bytes from `src` to `dst`. -/
def copy (m : Memory) (dst src n : UInt64) : Memory :=
  m.store dst n fun i => m.read (src + i)

/-- Writes a list of bytes. -/
def write (m : Memory) (a : Addr) (bytes : Array UInt8) : Memory :=
  m.store a (UInt64.ofNat bytes.size) fun i => bytes[i.toNat]?.getD 0

/-- The `n` bytes from `a` on. -/
def readRange (m : Memory) (a : Addr) (n : Nat) : List UInt8 :=
  (List.range n).map fun i => m.read (a + UInt64.ofNat i)

/-- Writes a word, low byte first. -/
def writeWord (m : Memory) (a : Addr) (w : UInt64) : Memory :=
  m.store a 8 fun i => (w >>> (8 * i)).toUInt8

/-- Reads a word, low byte first. -/
def readWord (m : Memory) (a : Addr) : UInt64 :=
  (m.readRange a 8).foldr (fun byte w => w <<< 8 ||| byte.toUInt64) 0

/-! ## What is read after a store -/

/-- An address is the start of its page plus its place in the page. -/
theorem split_address (x : Addr) : x / 512 * 512 + UInt64.ofNat (x % 512).toNat = x := by
  apply UInt64.toNat_inj.1
  have h : (512 : UInt64).toNat = 512 := rfl
  have := x.toNat_lt
  simp only [UInt64.toNat_add, UInt64.toNat_mul, UInt64.toNat_div, UInt64.toNat_ofNat',
    UInt64.toNat_mod, h]
  omega

/-- Replacing a page changes what is read from that page only. -/
theorem read_insert (m : Memory) (p : UInt64) (page : Vector UInt8 512) (x : Addr) :
    (⟨m.pages.insert p page⟩ : Memory).read x =
      if x / 512 = p then page.get ⟨(x % 512).toNat, Nat.mod_lt _ (by decide)⟩ else m.read x := by
  unfold read
  rw [Std.HashMap.getElem?_insert]
  by_cases h : x / 512 = p
  · simp [h]
  · have : (p == x / 512) = false := by simpa using fun e => h e.symm
    simp [h, this]

theorem read_storePage (m : Memory) (a n : UInt64) (f : UInt64 → UInt8) (p : UInt64) (x : Addr) :
    (m.storePage a n f p).read x =
      if x / 512 = p ∧ x - a < n then f (x - a) else m.read x := by
  unfold storePage
  rw [read_insert]
  by_cases h : x / 512 = p
  · subst h
    have : ∀ v : Vector UInt8 512, ∀ i h, v.get ⟨i, h⟩ = v[i] := fun _ _ _ => rfl
    simp only [this, Vector.getElem_ofFn, split_address, true_and, if_true]
  · simp [h]

theorem read_foldl_storePage (m : Memory) (a n : UInt64) (f : UInt64 → UInt8)
    (page : Nat → UInt64) (ks : List Nat) (x : Addr) :
    (ks.foldl (fun m k => m.storePage a n f (page k)) m).read x =
      if (∃ k ∈ ks, x / 512 = page k) ∧ x - a < n then f (x - a) else m.read x := by
  induction ks generalizing m with
  | nil => simp
  | cons k ks ih =>
    rw [List.foldl_cons, ih, read_storePage]
    by_cases hn : x - a < n <;> by_cases hk : x / 512 = page k <;>
      simp [hn, hk]

/-- Every address of a range is on one of the pages that the range touches. -/
theorem page_of_range {a n : UInt64} {x : Addr} (inside : x - a < n) :
    ∃ k ∈ List.range (pageCount a n), x / 512 = (a / 512 + UInt64.ofNat k) % 0x80000000000000 := by
  have hd : (x - a).toNat < n.toNat := UInt64.lt_iff_toNat_lt.1 inside
  have hx : x = a + (x - a) := by rw [UInt64.add_comm, UInt64.sub_add_cancel]
  have h512 : (512 : UInt64).toNat = 512 := rfl
  have hbig : (0x80000000000000 : UInt64).toNat = 0x80000000000000 := rfl
  have hn : n ≠ 0 := by intro h; subst h; simp at hd
  refine ⟨((a % 512).toNat + (x - a).toNat) / 512, ?_, ?_⟩
  · rw [List.mem_range, pageCount, if_neg hn]
    omega
  · generalize x - a = d at *
    subst hx
    apply UInt64.toNat_inj.1
    have := a.toNat_lt
    have := d.toNat_lt
    simp only [UInt64.toNat_add, UInt64.toNat_div, UInt64.toNat_ofNat', UInt64.toNat_mod, h512,
      hbig]
    omega

/-- Storing changes the bytes of the range, and no others. -/
theorem read_store (m : Memory) (a n : UInt64) (f : UInt64 → UInt8) (x : Addr) :
    (m.store a n f).read x = if x - a < n then f (x - a) else m.read x := by
  unfold store
  rw [read_foldl_storePage m a n f fun k => (a / 512 + UInt64.ofNat k) % 0x80000000000000]
  by_cases h : x - a < n
  · rw [if_pos ⟨page_of_range h, h⟩, if_pos h]
  · rw [if_neg (fun both => h both.2), if_neg h]

end Memory

end MallocLayer
