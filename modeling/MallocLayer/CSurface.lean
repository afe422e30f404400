import MallocLayer.Fork
import MallocLayer.Layer.Realloc
import MallocLayer.Layer.Aligned

/-!
# The C entry points

The malloc family as C callers see it: pointers that may be null, and an errno
that is written when an operation fails. `posix_memalign` alone returns its
error code and leaves errno as it was. A null that means "released" writes no
errno.
-/

namespace MallocLayer

/-- The process behind the entry points: the layer, the fork coordinator and
errno. -/
structure CSurface (σ : Type) where
  layer : Layer σ
  fork : Fork.Coordinator := {}
  errno : Errno := 0

namespace CSurface

variable {σ : Type}

/-- The C form of a result: its pointer, or null with errno set. -/
def answer {α : Type} (c : CSurface σ) (pointer : α → Option Addr)
    (result : Except AllocError α × Layer σ) : Option Addr × CSurface σ :=
  match result with
  | (.ok a, layer) => (pointer a, { c with layer })
  | (.error err, layer) => (none, { c with layer, errno := err.errno })

variable [Primitive σ]

def malloc (c : CSurface σ) (size : UInt64) : Option Addr × CSurface σ :=
  c.answer some (c.layer.malloc size)

def calloc (c : CSurface σ) (count size : UInt64) : Option Addr × CSurface σ :=
  c.answer some (c.layer.calloc count size)

def realloc (c : CSurface σ) (ptr : Option Addr) (size : UInt64) : Option Addr × CSurface σ :=
  c.answer Reallocated.pointer (c.layer.realloc ptr size)

def reallocf (c : CSurface σ) (ptr : Option Addr) (size : UInt64) : Option Addr × CSurface σ :=
  c.answer Reallocated.pointer (c.layer.reallocf ptr size)

/-- A null string is an invalid argument. -/
def strdup (c : CSurface σ) : Option CString → Option Addr × CSurface σ
  | none => (none, { c with errno := Errno.einval })
  | some text => c.answer some (c.layer.strdup text)

def memalign (c : CSurface σ) (alignment size : UInt64) : Option Addr × CSurface σ :=
  c.answer some (c.layer.memalign alignment size)

def alignedAlloc (c : CSurface σ) (alignment size : UInt64) : Option Addr × CSurface σ :=
  c.answer some (c.layer.alignedAlloc alignment size)

def valloc (c : CSurface σ) (size : UInt64) : Option Addr × CSurface σ :=
  c.answer some (c.layer.valloc size)

/-- The error code, and the pointer written to the caller's variable, if one
was. Without a variable nothing is allocated. -/
def posixMemalign (c : CSurface σ) (hasVariable : Bool) (alignment size : UInt64) :
    Errno × Option Addr × CSurface σ :=
  if hasVariable then
    match c.layer.posixMemalign alignment size with
    | (.ok block, layer) => (0, some block, { c with layer })
    | (.error err, layer) => (err.errno, none, { c with layer })
  else (Errno.einval, none, c)

def free (c : CSurface σ) (ptr : Option Addr) : CSurface σ := { c with layer := c.layer.free ptr }

def vfree (c : CSurface σ) (ptr : Option Addr) : CSurface σ :=
  { c with layer := c.layer.vfree ptr }

/-- The usable size under its Linux name. -/
def mallocUsableSize (c : CSurface σ) (ptr : Option Addr) : UInt64 × CSurface σ :=
  let (size, layer) := c.layer.usableSize ptr
  (size, { c with layer })

/-- The usable size under its Darwin name. -/
def mallocSize (c : CSurface σ) (ptr : Option Addr) : UInt64 × CSurface σ :=
  c.mallocUsableSize ptr

def mallocGoodSize (c : CSurface σ) (size : UInt64) : UInt64 × CSurface σ :=
  let (good, layer) := c.layer.goodSize size
  (good, { c with layer })

/-- The fork hook before duplication; `none` when it would wait. -/
def forkPrepare (c : CSurface σ) : Option (CSurface σ) :=
  (c.fork.prepare c.layer).map fun (fork, layer) => { c with fork, layer }

/-- The fork hook after duplication. -/
def forkResume (c : CSurface σ) (side : Fork.Side) : CSurface σ :=
  let (fork, layer) := c.fork.resume side c.layer
  { c with fork, layer }

end CSurface

end MallocLayer
