import MallocLayer.CSurface
import MallocLayer.Zone
import MallocLayer.Proofs.ForkBracket
import MallocLayer.Proofs.Program

/-!
# The surfaces of a layer

A layer is called in three ways: by its own operations, through the C entry
points, and through the slots of a zone. They differ in what a failure looks like,
which is a value, a null with errno, or a null alone, and `posix_memalign` returns a
code. They do not differ in what they do to the layer.

Every call amounts to a request, except for two that are turned down at the door: the
duplicate of a null string, and `posix_memalign` without a variable to write to.
`call_eq` says of every call that it serves its request and renders the reply in the
manner of its surface. Programs that mix the surfaces follow by induction.
-/

namespace MallocLayer

/-! ## 1. Calls -/

/-- The slots of a zone that allocate, release or measure one block. -/
inductive Zone.Slot where
  | size (ptr : Option Addr)
  | malloc (size : UInt64)
  | calloc (count size : UInt64)
  | valloc (size : UInt64)
  | memalign (alignment size : UInt64)
  | realloc (ptr : Option Addr) (size : UInt64)
  | free (ptr : Option Addr)
  | freeDefiniteSize (ptr : Option Addr) (size : UInt64)
  | goodSize (size : UInt64)

/-- The C entry points. -/
inductive Entry where
  | malloc (size : UInt64)
  | calloc (count size : UInt64)
  | strdup (text : Option CString)
  | memalign (alignment size : UInt64)
  | alignedAlloc (alignment size : UInt64)
  | posixMemalign (hasVariable : Bool) (alignment size : UInt64)
  | valloc (size : UInt64)
  | realloc (ptr : Option Addr) (size : UInt64)
  | reallocf (ptr : Option Addr) (size : UInt64)
  | free (ptr : Option Addr)
  | vfree (ptr : Option Addr)
  | mallocUsableSize (ptr : Option Addr)
  | mallocSize (ptr : Option Addr)
  | mallocGoodSize (size : UInt64)

/-- A call through one of the surfaces. -/
inductive Call where
  | method (request : Request)
  | entry (entry : Entry)
  | slot (slot : Zone.Slot)

/-- What a caller gets back. -/
inductive Returned where
  /-- The reply of the layer itself. -/
  | reply (reply : Reply)
  /-- A pointer that may be null. -/
  | pointer (ptr : Option Addr)
  | size (n : UInt64)
  /-- A code, and what was written to the variable of the caller. -/
  | code (code : Errno) (written : Option Addr)
  | nothing

section Calls

variable {σ : Type} [Primitive σ]

/-- Calls a slot of a zone over the layer. -/
def Layer.callSlot (s : Layer σ) : Zone.Slot → Returned × Layer σ
  | .size ptr => (Zone.size s ptr).map .size id
  | .malloc size => (Zone.malloc s size).map .pointer id
  | .calloc count size => (Zone.calloc s count size).map .pointer id
  | .valloc size => (Zone.valloc s size).map .pointer id
  | .memalign alignment size => (Zone.memalign s alignment size).map .pointer id
  | .realloc ptr size => (Zone.realloc s ptr size).map .pointer id
  | .free ptr => (.nothing, Zone.free s ptr)
  | .freeDefiniteSize ptr size => (.nothing, Zone.freeDefiniteSize s ptr size)
  | .goodSize size => (Zone.goodSize s size).map .size id

namespace CSurface

/-- Calls a C entry point. -/
def enter (c : CSurface σ) : Entry → Returned × CSurface σ
  | .malloc size => (c.malloc size).map .pointer id
  | .calloc count size => (c.calloc count size).map .pointer id
  | .strdup text => (c.strdup text).map .pointer id
  | .memalign alignment size => (c.memalign alignment size).map .pointer id
  | .alignedAlloc alignment size => (c.alignedAlloc alignment size).map .pointer id
  | .posixMemalign hasVariable alignment size =>
    let (code, written, c) := c.posixMemalign hasVariable alignment size
    (.code code written, c)
  | .valloc size => (c.valloc size).map .pointer id
  | .realloc ptr size => (c.realloc ptr size).map .pointer id
  | .reallocf ptr size => (c.reallocf ptr size).map .pointer id
  | .free ptr => (.nothing, c.free ptr)
  | .vfree ptr => (.nothing, c.vfree ptr)
  | .mallocUsableSize ptr => (c.mallocUsableSize ptr).map .size id
  | .mallocSize ptr => (c.mallocSize ptr).map .size id
  | .mallocGoodSize size => (c.mallocGoodSize size).map .size id

/-- Makes a call. -/
def call (c : CSurface σ) : Call → Returned × CSurface σ
  | .method request => (c.layer.serve request).map .reply fun layer => { c with layer }
  | .entry entry => c.enter entry
  | .slot slot => (c.layer.callSlot slot).map id fun layer => { c with layer }

/-- Makes calls one after the other. -/
def run (c : CSurface σ) : List Call → List Returned × CSurface σ
  | [] => ([], c)
  | call :: rest =>
    let (returned, c) := c.call call
    (run c rest).map (returned :: ·) id

end CSurface

/-! ## 2. What a call amounts to -/

namespace Layer

/-- Carries out a request, if there is one. -/
def serve? (s : Layer σ) : Option Request → Option Reply × Layer σ
  | none => (none, s)
  | some request => (s.serve request).map some id

/-- Carries out what there is in a list of requests. -/
def serveEach (s : Layer σ) : List (Option Request) → List (Option Reply) × Layer σ
  | [] => ([], s)
  | request :: rest =>
    let (reply, s) := s.serve? request
    (serveEach s rest).map (reply :: ·) id

end Layer

end Calls

namespace Reply

/-- The error in a reply. -/
def error? : Reply → Option AllocError
  | .pointer (.error err) | .resized (.error err) => some err
  | _ => none

/-- The operation failed, or released the block and put nothing in its place. -/
def IsNull : Reply → Prop
  | .pointer (.error _) | .resized (.error _) | .resized (.ok .released) => True
  | _ => False

/-- The reply with its pointer, its size or nothing. -/
def bare : Reply → Returned
  | .pointer (.ok ptr) => .pointer (some ptr)
  | .pointer (.error _) => .pointer none
  | .resized (.ok result) => .pointer result.pointer
  | .resized (.error _) => .pointer none
  | .size n => .size n
  | .done => .nothing

end Reply

namespace Request

/-- The request that a slot stands for. -/
def ofSlot : Zone.Slot → Request
  | .size ptr => .usableSize ptr
  | .malloc size => .malloc size
  | .calloc count size => .calloc count size
  | .valloc size => .valloc size
  | .memalign alignment size => .memalign alignment size
  | .realloc ptr size => .realloc ptr size
  | .free ptr | .freeDefiniteSize ptr _ => .free ptr
  | .goodSize size => .goodSize size

/-- The request that an entry point stands for, unless it turns the call down. -/
def ofEntry? : Entry → Option Request
  | .malloc size => some (.malloc size)
  | .calloc count size => some (.calloc count size)
  | .strdup text => text.map .strdup
  | .memalign alignment size => some (.memalign alignment size)
  | .alignedAlloc alignment size => some (.alignedAlloc alignment size)
  | .posixMemalign hasVariable alignment size =>
    if hasVariable then some (.posixMemalign alignment size) else none
  | .valloc size => some (.valloc size)
  | .realloc ptr size => some (.realloc ptr size)
  | .reallocf ptr size => some (.reallocf ptr size)
  | .free ptr => some (.free ptr)
  | .vfree ptr => some (.vfree ptr)
  | .mallocUsableSize ptr | .mallocSize ptr => some (.usableSize ptr)
  | .mallocGoodSize size => some (.goodSize size)

/-- The request that a call amounts to. -/
def ofCall? : Call → Option Request
  | .method request => some request
  | .entry entry => ofEntry? entry
  | .slot slot => some (ofSlot slot)

end Request

namespace Call

/-- The reply in the manner of the surface. Without a reply the call was turned
down. -/
def render : Call → Option Reply → Returned
  | .method _, some reply => .reply reply
  | .entry (.posixMemalign ..), some reply =>
    .code (reply.error?.elim 0 AllocError.errno) (Request.obtains reply)
  | .entry (.posixMemalign ..), none => .code Errno.einval none
  | _, some reply => reply.bare
  | _, none => .pointer none

/-- What the call writes to errno. -/
def errno? : Call → Option Reply → Option Errno
  | .entry (.posixMemalign ..), _ => none
  | .entry (.strdup none), _ => some Errno.einval
  | .entry _, reply => (reply.bind Reply.error?).map AllocError.errno
  | .method _, _ | .slot _, _ => none

end Call

/-! ## 3. One call -/

section One

variable {σ : Type} [Primitive σ]

omit [Primitive σ] in
/-- The form of an allocation in a zone. -/
theorem Zone.orNull_pointer (result : Except AllocError Addr × Layer σ) :
    (Zone.orNull result).map Returned.pointer id = ((Reply.pointer result.1).bare, result.2) := by
  rcases result with ⟨_ | _, layer⟩ <;> rfl

/-- A slot serves its request. -/
theorem Layer.callSlot_eq (s : Layer σ) (slot : Zone.Slot) :
    s.callSlot slot = (s.serve (.ofSlot slot)).map Reply.bare id := by
  cases slot with
  | size ptr => rfl
  | malloc size => exact Zone.orNull_pointer (s.malloc size)
  | calloc count size => exact Zone.orNull_pointer (s.calloc count size)
  | valloc size => exact Zone.orNull_pointer (s.valloc size)
  | memalign alignment size => exact Zone.orNull_pointer (s.memalign alignment size)
  | realloc ptr size =>
    simp only [callSlot, Zone.realloc, serve, Request.ofSlot]
    rcases s.realloc ptr size with ⟨_ | _, layer⟩ <;> rfl
  | free ptr => rfl
  | freeDefiniteSize ptr size => rfl
  | goodSize size => rfl

namespace CSurface

/-- The reply to a call comes back in the manner of its surface. -/
def conclude (c : CSurface σ) (call : Call) (served : Option Reply × Layer σ) :
    Returned × CSurface σ :=
  (call.render served.1,
    { c with layer := served.2, errno := (call.errno? served.1).getD c.errno })

omit [Primitive σ] in
/-- The C form of an allocation. -/
theorem answer_pointer (c : CSurface σ) (result : Except AllocError Addr × Layer σ) :
    (c.answer some result).map Returned.pointer id =
      ((Reply.pointer result.1).bare,
        { c with
          layer := result.2
          errno := ((Reply.pointer result.1).error?.map AllocError.errno).getD c.errno }) := by
  rcases result with ⟨_ | _, layer⟩ <;> rfl

omit [Primitive σ] in
/-- The C form of a reallocation. -/
theorem answer_resized (c : CSurface σ) (result : Except AllocError Reallocated × Layer σ) :
    (c.answer Reallocated.pointer result).map Returned.pointer id =
      ((Reply.resized result.1).bare,
        { c with
          layer := result.2
          errno := ((Reply.resized result.1).error?.map AllocError.errno).getD c.errno }) := by
  rcases result with ⟨_ | _, layer⟩ <;> rfl

/-- An entry point serves its request, if it has one. -/
theorem enter_eq (c : CSurface σ) (entry : Entry) :
    c.enter entry = c.conclude (.entry entry) (c.layer.serve? (Request.ofEntry? entry)) := by
  cases entry with
  | malloc size => exact answer_pointer c (c.layer.malloc size)
  | calloc count size => exact answer_pointer c (c.layer.calloc count size)
  | memalign alignment size => exact answer_pointer c (c.layer.memalign alignment size)
  | alignedAlloc alignment size => exact answer_pointer c (c.layer.alignedAlloc alignment size)
  | valloc size => exact answer_pointer c (c.layer.valloc size)
  | strdup text =>
    cases text with
    | none => rfl
    | some text => exact answer_pointer c (c.layer.strdup text)
  | realloc ptr size => exact answer_resized c (c.layer.realloc ptr size)
  | reallocf ptr size => exact answer_resized c (c.layer.reallocf ptr size)
  | posixMemalign hasVariable alignment size =>
    cases hasVariable with
    | false => rfl
    | true =>
      simp only [enter, posixMemalign, conclude, Request.ofEntry?, Layer.serve?, Layer.serve,
        if_true]
      rcases c.layer.posixMemalign alignment size with ⟨_ | _, layer⟩ <;> rfl
  | free ptr => rfl
  | vfree ptr => rfl
  | mallocUsableSize ptr => rfl
  | mallocSize ptr => rfl
  | mallocGoodSize size => rfl

/-- Every call serves its request, if it has one. -/
theorem call_eq (c : CSurface σ) (call : Call) :
    c.call call = c.conclude call (c.layer.serve? (Request.ofCall? call)) := by
  cases call with
  | method request => rfl
  | entry entry => exact enter_eq c entry
  | slot slot =>
    simp only [call, Layer.callSlot_eq]
    rfl

end CSurface

end One

/-! ## 4. What the caller sees -/

theorem AllocError.errno_ne_zero (err : AllocError) : err.errno ≠ 0 := by
  cases err with
  | outOfMemory requested => exact (by decide : Errno.enomem ≠ 0)
  | invalidAlignment alignment => exact (by decide : Errno.einval ≠ 0)
  | overflow lhs rhs => exact (by decide : Errno.enomem ≠ 0)

namespace Reply

theorem bare_eq_pointer {reply : Reply} {ptr : Option Addr} (bare : reply.bare = .pointer ptr) :
    ptr = Request.obtains reply ∧ (ptr = none ↔ reply.IsNull) := by
  cases reply with
  | pointer result =>
    cases result with
    | error err =>
      obtain rfl := Returned.pointer.inj bare
      exact ⟨rfl, iff_of_true rfl trivial⟩
    | ok p =>
      obtain rfl := Returned.pointer.inj bare
      exact ⟨rfl, iff_of_false nofun id⟩
  | resized result =>
    cases result with
    | error err =>
      obtain rfl := Returned.pointer.inj bare
      exact ⟨rfl, iff_of_true rfl trivial⟩
    | ok outcome =>
      obtain rfl := Returned.pointer.inj bare
      cases outcome with
      | released => exact ⟨rfl, iff_of_true rfl trivial⟩
      | inPlace p => exact ⟨rfl, iff_of_false nofun id⟩
      | moved p => exact ⟨rfl, iff_of_false nofun id⟩
  | size n => cases bare
  | done => cases bare

theorem bare_ne_code (reply : Reply) (code : Errno) (written : Option Addr) :
    reply.bare ≠ .code code written := by
  rcases reply with (_ | _) | (_ | _) | _ | _ <;> exact nofun

end Reply

namespace Call

variable {reply : Option Reply}

/-- A pointer is that of the reply, and null if that is a failure or a release. -/
theorem render_eq_pointer {call : Call} {ptr : Option Addr} (h : call.render reply = .pointer ptr) :
    ptr = reply.bind Request.obtains ∧ (ptr = none ↔ ∀ r ∈ reply, r.IsNull) := by
  unfold render at h
  split at h
  · cases h
  · cases h
  · cases h
  · obtain ⟨same, null⟩ := Reply.bare_eq_pointer h
    refine ⟨same, null.trans ?_⟩
    simp only [Option.mem_def, Option.some.injEq, forall_eq']
  · cases h
    exact ⟨rfl, iff_of_true rfl fun r member => absurd member (Option.not_mem_none r)⟩

/-- A code is zero if and only if a pointer was written. Only an allocation has one. -/
theorem render_eq_code {call : Call} {code : Errno} {written : Option Addr}
    (allocates : ∀ hasVariable alignment size,
      call = .entry (.posixMemalign hasVariable alignment size) →
        ∀ r ∈ reply, ∃ result, r = .pointer result)
    (h : call.render reply = .code code written) :
    written = reply.bind Request.obtains ∧ (code = 0 ↔ written.isSome) ∧
      (reply = none → code = Errno.einval) := by
  unfold render at h
  split at h
  · cases h
  · obtain ⟨result, rfl⟩ := allocates _ _ _ rfl _ rfl
    cases h
    cases result with
    | error err => exact ⟨rfl, iff_of_false err.errno_ne_zero nofun, nofun⟩
    | ok p => exact ⟨rfl, iff_of_true rfl rfl, nofun⟩
  · cases h
    exact ⟨rfl, iff_of_false nofun nofun, fun _ => rfl⟩
  · exact (Reply.bare_ne_code _ _ _ h).elim
  · cases h

end Call

namespace CSurface

variable {σ : Type} [Primitive σ]

/-- The call leaves this code in errno, whatever was there. -/
def Writes (c : CSurface σ) (call : Call) (code : Errno) : Prop :=
  ∀ before, ({ c with errno := before }.call call).2.errno = code

/-- The call leaves errno alone. -/
def KeepsErrno (c : CSurface σ) (call : Call) : Prop :=
  ∀ before, ({ c with errno := before }.call call).2.errno = before

theorem errno_call (c : CSurface σ) (call : Call) (before : Errno) :
    ({ c with errno := before }.call call).2.errno =
      (call.errno? (c.layer.serve? (Request.ofCall? call)).1).getD before := by
  rw [call_eq]
  rfl

theorem writes_iff {c : CSurface σ} {call : Call} {code : Errno} :
    c.Writes call code ↔
      call.errno? (c.layer.serve? (Request.ofCall? call)).1 = some code := by
  simp only [Writes, errno_call]
  cases call.errno? (c.layer.serve? (Request.ofCall? call)).1 with
  | none =>
    -- What is left alone would have to be two codes at once.
    refine iff_of_false (fun all => ?_) nofun
    have same : (0 : Errno) = 1 := (all 0).trans (all 1).symm
    exact absurd same (by decide)
  | some written => exact ⟨fun all => congrArg some (all 0), fun h _ => Option.some.inj h⟩

theorem keepsErrno_iff {c : CSurface σ} {call : Call} :
    c.KeepsErrno call ↔ call.errno? (c.layer.serve? (Request.ofCall? call)).1 = none := by
  simp only [KeepsErrno, errno_call]
  cases call.errno? (c.layer.serve? (Request.ofCall? call)).1 with
  | none => exact iff_of_true (fun _ => rfl) rfl
  | some written =>
    refine iff_of_false (fun all => ?_) nofun
    have same : (0 : Errno) = 1 := (all 0).symm.trans (all 1)
    exact absurd same (by decide)

/-- The call does to the process what serving its request does to the layer, and says
so in the manner of its surface. -/
structure Agrees (c : CSurface (Recorded σ)) (call : Call)
    (served : Option Reply × Layer (Recorded σ)) : Prop where
  layer : (c.call call).2.layer = served.2
  calls : (c.call call).2.layer.primitiveCalls = served.2.primitiveCalls
  /-- A call that is turned down does not reach the layer. -/
  refused : Request.ofCall? call = none → (c.call call).2.layer = c.layer
  fork : (c.call call).2.fork = c.fork
  returned : (c.call call).1 = call.render served.1
  /-- A pointer is that of the reply, and null if that is a failure or a release. -/
  pointer : ∀ ptr, (c.call call).1 = .pointer ptr →
    ptr = served.1.bind Request.obtains ∧ (ptr = none ↔ ∀ reply ∈ served.1, reply.IsNull)
  /-- A code is zero if and only if a pointer was written. -/
  code : ∀ code written, (c.call call).1 = .code code written →
    written = served.1.bind Request.obtains ∧ (code = 0 ↔ written.isSome) ∧
      (served.1 = none → code = Errno.einval)
  writes : ∀ code, c.Writes call code ↔ call.errno? served.1 = some code
  keeps : c.KeepsErrno call ↔ call.errno? served.1 = none

theorem call_agrees (c : CSurface (Recorded σ)) (call : Call) :
    c.Agrees call (c.layer.serve? (Request.ofCall? call)) := by
  have eq := c.call_eq call
  constructor
  · exact congrArg (·.2.layer) eq
  · exact congrArg (·.2.layer.primitiveCalls) eq
  · intro refused
    rw [eq, refused]
    rfl
  · exact congrArg (·.2.fork) eq
  · exact congrArg Prod.fst eq
  · intro ptr h
    rw [eq] at h
    exact Call.render_eq_pointer h
  · intro code written h
    rw [eq] at h
    refine Call.render_eq_code ?_ h
    rintro hasVariable alignment size rfl r served
    cases hasVariable with
    | false => cases served
    | true =>
      cases served
      exact ⟨_, rfl⟩
  · exact fun code => writes_iff
  · exact keepsErrno_iff

/-! ## 5. Programs -/

/-- The code in errno after some calls, given what each of them wrote. -/
def lastWritten (errno : Errno) (written : List (Option Errno)) : Errno :=
  written.foldl (fun errno code => code.getD errno) errno

theorem run_eq (c : CSurface σ) (program : List Call) :
    c.run program =
      let served := c.layer.serveEach (program.map Request.ofCall?)
      (List.zipWith Call.render program served.1,
        { c with
          layer := served.2
          errno := lastWritten c.errno (List.zipWith Call.errno? program served.1) }) := by
  induction program generalizing c with
  | nil => rfl
  | cons call rest ih =>
    simp only [run, call_eq, ih]
    rfl

/-- A program does to the process what serving its requests one after the other does to
the layer, and every call says so in the manner of its surface. -/
structure Follows (c : CSurface (Recorded σ)) (program : List Call)
    (served : List (Option Reply) × Layer (Recorded σ)) : Prop where
  layer : (c.run program).2.layer = served.2
  calls : (c.run program).2.layer.primitiveCalls = served.2.primitiveCalls
  fork : (c.run program).2.fork = c.fork
  returned : (c.run program).1 = List.zipWith Call.render program served.1
  errno : (c.run program).2.errno =
    lastWritten c.errno (List.zipWith Call.errno? program served.1)

theorem run_follows (c : CSurface (Recorded σ)) (program : List Call) :
    c.Follows program (c.layer.serveEach (program.map Request.ofCall?)) := by
  have eq := c.run_eq program
  constructor
  · exact congrArg (·.2.layer) eq
  · exact congrArg (·.2.layer.primitiveCalls) eq
  · exact congrArg (·.2.fork) eq
  · exact congrArg Prod.fst eq
  · exact congrArg (·.2.errno) eq

/-- In every state, the three surfaces agree on every call and on every program. -/
theorem surfaces_agree (c : CSurface (Recorded σ)) :
    (∀ call, c.Agrees call (c.layer.serve? (Request.ofCall? call))) ∧
      ∀ program, c.Follows program (c.layer.serveEach (program.map Request.ofCall?)) :=
  ⟨c.call_agrees, c.run_follows⟩

/-- With errno cleared, it tells the two nulls of a reallocation apart. -/
theorem realloc_null {c : CSurface σ} (clear : c.errno = 0) {ptr : Option Addr} {size : UInt64}
    (null : (c.realloc ptr size).1 = none) :
    (c.realloc ptr size).2.errno = 0 ↔ (c.layer.realloc ptr size).1 = .ok .released := by
  unfold realloc at null ⊢
  generalize c.layer.realloc ptr size = result at null ⊢
  rcases result with ⟨err | outcome, layer⟩
  · exact iff_of_false err.errno_ne_zero nofun
  · cases outcome with
    | released => exact iff_of_true clear rfl
    | inPlace p => cases null
    | moved p => cases null

end CSurface

end MallocLayer
