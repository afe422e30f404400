import MallocLayer.Proofs.FailedRealloc
import MallocLayer.Proofs.Ownership

/-!
# Documented ownership

The documentation of `realloc` says that an error leaves the caller with the block that
it had. A client that relies on this keeps another ledger than the layer does
(`settleAsDocumented`), and has other holdings (`AllowsAsDocumented`).

The two ledgers differ after one kind of request only, one that forfeits a block: an error
at size zero, after which the block is released. Up to there the documented account is the
true one. From there on it is not: the client has a pointer to no block.

So there are two answers for each program. By what the layer leaves the client with, the
account is always sound, and the layer always refines the holdings. By the documentation,
the account is sound exactly if no block was forfeited (`ofHeap_ownership`), and then the
layer refines the documented holdings (`ofHeap_contents`). One block and one failure are
enough to see that both fail otherwise.
-/

namespace MallocLayer

/-! ## 1. What is documented -/

namespace Request

/-- The ledger of a client that takes the documentation at its word: an error of `realloc`
leaves it what it had. -/
def settleAsDocumented (owned : Ledger) : Request → Reply → Ledger
  | .realloc _ _, .resized (.error _) => owned
  | r, reply => r.settle owned reply

/-- The block is gone, and the client is told of an error. -/
def Forfeits : Request → Reply → Prop
  | .realloc (some _) size, .resized (.error _) => size = 0
  | _, _ => False

instance : (r : Request) → (reply : Reply) → Decidable (r.Forfeits reply)
  | .realloc (some _) size, .resized (.error _) => inferInstanceAs (Decidable (size = 0))
  | .realloc (some _) _, .resized (.ok _) | .realloc (some _) _, .pointer _
  | .realloc (some _) _, .size _ | .realloc (some _) _, .done | .realloc none _, _
  | .malloc _, _ | .calloc .., _ | .strdup _, _ | .memalign .., _ | .alignedAlloc .., _
  | .posixMemalign .., _ | .valloc _, _ | .reallocf .., _ | .free _, _ | .vfree _, _
  | .usableSize _, _ | .goodSize _, _ | .write .., _ => inferInstanceAs (Decidable False)

variable {r : Request} {reply : Reply}

theorem Forfeits.exists_error (h : r.Forfeits reply) :
    ∃ p err, r = .realloc (some p) 0 ∧ reply = .resized (.error err) := by
  unfold Forfeits at h
  split at h
  · next p size err =>
    subst h
    exact ⟨p, err, rfl, rfl⟩
  · exact h.elim

/-- While no block is forfeited, the ledgers are the same. -/
theorem settleAsDocumented_eq (keeps : ¬ r.Forfeits reply) (owned : Ledger) :
    settleAsDocumented owned r reply = r.settle owned reply := by
  unfold settleAsDocumented
  split
  · next ptr size err =>
    cases ptr with
    | none => exact resettle_none_error.symm
    | some p =>
      have spares : ¬ Layer.Forfeits size .keepBlock := fun either => either.elim keeps nofun
      exact (resettle_failed spares).symm
  · rfl

end Request

namespace Holdings

/-- What a request may do to the holdings by the documentation: nothing, if it is a `realloc`
that fails. -/
def AllowsAsDocumented (h : Holdings) : Request → Reply → Holdings → Prop
  | .realloc _ _, .resized (.error _), h' => h' = h
  | r, reply, h' => h.Allows r reply h'

variable {r : Request} {reply : Reply} {h h' : Holdings}

/-- While no block is forfeited, the same is allowed. -/
theorem allowsAsDocumented_iff (keeps : ¬ r.Forfeits reply) :
    h.AllowsAsDocumented r reply h' ↔ h.Allows r reply h' := by
  unfold AllowsAsDocumented
  split
  · next ptr size err =>
    cases ptr with
    | none => exact Iff.rfl
    | some p =>
      have spares : ¬ Layer.Forfeits size .keepBlock := fun either => either.elim keeps nofun
      show h' = h ↔ h' = if Layer.Forfeits size .keepBlock then h.drop p else h
      rw [if_neg spares]
  · exact Iff.rfl

end Holdings

/-! ## 2. Programs that forfeit nothing -/

namespace Layer

open Primitive (Block Contract)

variable {σ τ : Type} [Primitive σ] [Primitive τ]

/-- No request of the program forfeits a block. -/
def ForfeitsNothing (s : Layer σ) : List Request → Prop
  | [] => True
  | r :: rest => ¬ r.Forfeits (s.serve r).1 ∧ ForfeitsNothing (s.serve r).2 rest

instance ForfeitsNothing.decidable (s : Layer σ) :
    (program : List Request) → Decidable (s.ForfeitsNothing program)
  | [] => inferInstanceAs (Decidable True)
  | r :: rest =>
    have := ForfeitsNothing.decidable (s.serve r).2 rest
    inferInstanceAs (Decidable (_ ∧ _))

variable {s : Layer σ} {owned : Ledger} {program : List Request}

/-- What is forfeited does not depend on the heap below the projection. -/
theorem along_forfeitsNothing {f : Heap σ → Heap τ} (proj : Primitive.Projects f) (s : Layer σ)
    {program : List Request} : (s.along f).ForfeitsNothing program ↔ s.ForfeitsNothing program := by
  induction program generalizing s with
  | nil => exact Iff.rfl
  | cons r rest ih =>
    have answer : (s.along f).serve r = (s.serve r).map id (along f) :=
      project_serve (.ofHeaps proj) s r
    unfold ForfeitsNothing
    rw [answer]
    exact and_congr_right fun _ => ih (s.serve r).2

namespace ForfeitsNothing

theorem legalBy_iff (nothing : s.ForfeitsNothing program) :
    s.LegalBy Request.settleAsDocumented owned program ↔ s.LegalRun owned program := by
  induction program generalizing s owned with
  | nil => exact Iff.rfl
  | cons r rest ih =>
    obtain ⟨keeps, later⟩ := nothing
    show _ ∧ LegalBy _ _ _ _ ↔ _ ∧ LegalBy _ _ _ _
    rw [Request.settleAsDocumented_eq keeps]
    exact and_congr_right fun _ => ih later

theorem throughoutBy_iff {P : Layer σ → Ledger → Prop} (nothing : s.ForfeitsNothing program) :
    s.ThroughoutBy Request.settleAsDocumented P owned program ↔ s.Throughout P owned program := by
  induction program generalizing s owned with
  | nil => exact Iff.rfl
  | cons r rest ih =>
    obtain ⟨keeps, later⟩ := nothing
    show _ ∧ ThroughoutBy _ _ _ _ _ ↔ _ ∧ ThroughoutBy _ _ _ _ _
    rw [Request.settleAsDocumented_eq keeps]
    exact and_congr_right fun _ => ih later

theorem refinesBy_iff {h : Holdings} (nothing : s.ForfeitsNothing program) :
    h.RefinesBy Holdings.AllowsAsDocumented Request.settleAsDocumented s owned program ↔
      h.Refines s owned program := by
  induction program generalizing s owned h with
  | nil => exact Iff.rfl
  | cons r rest ih =>
    obtain ⟨keeps, later⟩ := nothing
    show _ ∧ (∃ h', _ ∧ Holdings.RefinesBy _ _ _ _ _ _) ↔
      _ ∧ ∃ h', _ ∧ Holdings.RefinesBy _ _ _ _ _ _
    rw [Request.settleAsDocumented_eq keeps]
    exact and_congr_right fun _ => exists_congr fun h' =>
      and_congr (Holdings.allowsAsDocumented_iff keeps) (ih later)

end ForfeitsNothing

/-! ## 3. Ownership -/

section Sound

variable {c : Contract σ} {own : Tenancy}

/-- A client that still counts on a block that was forfeited has a pointer to no block. -/
theorem Accounts.not_sound_of_forfeits {s : Layer (Audited σ)} {r : Request}
    (h : s.Accounts c.audited owned own) (legal : r.Legal s owned)
    (forfeits : r.Forfeits (s.serve r).1) :
    ¬ (s.serve r).2.Sound c (Request.settleAsDocumented owned r (s.serve r).1) := by
  obtain ⟨p, err, rfl, failed⟩ := forfeits.exists_error
  rw [failed]
  intro sound
  have mine : p ∈ owned := legal
  have answer : (s.realloc (some p) 0).1 = .error err := Reply.resized.inj failed
  obtain ⟨-, -, loses⟩ := (h.realloc_error mine (Prod.ext answer rfl)).loses rfl
  obtain ⟨b, member, inside, live⟩ := loses.block
  obtain ⟨d, ⟨still, inside'⟩, -⟩ := sound.block p mine
  have left : d ∈ c.audited.live s.heap \ {b} := live ▸ still
  exact left.2 (c.audited.apart h.backs.valid d left.1 b member p inside' inside)

/-- The documented account stays sound only as long as no block is forfeited. -/
theorem Accounts.forfeitsNothing {s : Layer (Audited σ)} (h : s.Accounts c.audited owned own)
    (legal : s.LegalBy Request.settleAsDocumented owned program)
    (sound : s.ThroughoutBy Request.settleAsDocumented (Sound c) owned program) :
    s.ForfeitsNothing program := by
  induction program generalizing s owned own with
  | nil => trivial
  | cons r rest ih =>
    have keeps : ¬ r.Forfeits (s.serve r).1 := fun forfeits =>
      h.not_sound_of_forfeits legal.1 forfeits sound.2.head
    obtain ⟨-, own', accounts⟩ := h.exists_serve r legal.1
    rw [← Request.settleAsDocumented_eq keeps] at accounts
    exact ⟨keeps, ih accounts legal.2 sound.2⟩

end Sound

/-- By what the layer leaves the client with, the account is sound throughout every legal
program. By the documentation, it is sound throughout a program exactly if no request of the
program forfeits a block. -/
theorem ofHeap_ownership (c : Contract σ) {heap : Heap σ} (valid : c.Valid heap)
    (bare : c.live heap = ∅) (page : PageSize) (config : Config) (program : List Request) :
    ((ofHeap heap page config).LegalRun ∅ program →
      (ofHeap (Audited.ofHeap heap) page config).Throughout (Sound c) ∅ program) ∧
    ((ofHeap heap page config).LegalBy Request.settleAsDocumented ∅ program →
      ((ofHeap (Audited.ofHeap heap) page config).ThroughoutBy Request.settleAsDocumented (Sound c)
          ∅ program ↔
        (ofHeap heap page config).ForfeitsNothing program)) := by
  refine ⟨ofHeap_sound c valid bare page config program, fun legal => ?_⟩
  have unaudited : (ofHeap (Audited.ofHeap heap) page config).along Audited.innerHeap =
      ofHeap heap page config := rfl
  constructor
  · intro sound
    have clean : c.audited.Valid (Audited.ofHeap heap) := ⟨valid, nofun⟩
    rw [← unaudited] at legal ⊢
    rw [along_forfeitsNothing Audited.projects]
    exact (accounts_ofHeap clean bare page config).forfeitsNothing
      ((along_legalBy Audited.projects _).1 legal) sound
  · intro nothing
    have sound := ofHeap_sound c valid bare page config program (nothing.legalBy_iff.1 legal)
    rw [← unaudited, along_forfeitsNothing Audited.projects] at nothing
    exact nothing.throughoutBy_iff.2 sound

theorem ofHeap_ownership_tour :
    (Arena.contract skewed skewed_fits).Valid (Arena.fresh skewed) ∧
      (Arena.contract skewed skewed_fits).live (Arena.fresh skewed) = ∅ ∧
      (ofHeap (Arena.fresh skewed) widePages).LegalRun ∅ tour ∧
      (ofHeap (Arena.fresh skewed) widePages).LegalBy Request.settleAsDocumented ∅ tour ∧
      (ofHeap (Audited.ofHeap (Arena.fresh skewed)) widePages).Throughout
        (Sound (Arena.contract skewed skewed_fits)) ∅ tour ∧
      (ofHeap (Audited.ofHeap (Arena.fresh skewed)) widePages).ThroughoutBy
        Request.settleAsDocumented (Sound (Arena.contract skewed skewed_fits)) ∅ tour := by
  have valid := Arena.valid_fresh skewed skewed_fits
  have bare := Arena.live_fresh skewed skewed_fits
  have legal : (ofHeap (Arena.fresh skewed) widePages).LegalRun ∅ tour := by decide +kernel
  have legal' :
      (ofHeap (Arena.fresh skewed) widePages).LegalBy Request.settleAsDocumented ∅ tour := by
    decide +kernel
  have nothing : (ofHeap (Arena.fresh skewed) widePages).ForfeitsNothing tour := by decide +kernel
  obtain ⟨sound, documented⟩ := ofHeap_ownership _ valid bare widePages {} tour
  exact ⟨valid, bare, legal, legal', sound legal, (documented legal').2 nothing⟩

/-- A client of an arena where all calls but the first fail. It gets a block, is told that it
could not be reallocated, and so gives it back. -/
def givesBack : List Request :=
  [.malloc 64, .realloc (some (Arena.address 0)) 0, .free (some (Arena.address 0))]

/-- The audited layer over that arena, once the client was told of the error. -/
def afterError : Layer (Audited Arena) :=
  (((ofHeap (Audited.ofHeap (Arena.fresh onceOnly)) widePages).serve (.malloc 64)).2.serve
    (.realloc (some (Arena.address 0)) 0)).2

/-- That client does what it may by the documentation, and yet what it gives back in the end is a
pointer to no block. -/
theorem sound_asDocumented_false :
    (ofHeap (Arena.fresh onceOnly) widePages).LegalBy Request.settleAsDocumented ∅ givesBack ∧
      ¬ (ofHeap (Audited.ofHeap (Arena.fresh onceOnly)) widePages).ThroughoutBy
        Request.settleAsDocumented (Sound (Arena.contract onceOnly onceOnly_fits)) ∅ givesBack := by
  refine ⟨by decide +kernel, ?_⟩
  rintro ⟨-, -, after⟩
  have sound : afterError.Sound (Arena.contract onceOnly onceOnly_fits) _ := after.head
  have empty : (Audited.innerHeap afterError.heap).state.blocks = [] := by decide +kernel
  obtain ⟨b, ⟨⟨block, member, -⟩, -⟩, -⟩ :=
    sound.block (Arena.address 0) (by decide +kernel)
  rw [empty] at member
  cases member

/-! ## 4. Contents -/

/-- Every legal program runs as the holdings allow that the layer leaves the client with. A
program that is legal by the documentation and forfeits no block runs as the documented
holdings allow. -/
theorem ofHeap_contents (c : Contract σ) {heap : Heap σ} (valid : c.Valid heap)
    (bare : c.live heap = ∅) (page : PageSize) (config : Config) (program : List Request) :
    ((ofHeap heap page config).LegalRun ∅ program →
      Holdings.Refines (fun _ => none) (ofHeap heap page config) ∅ program) ∧
    ((ofHeap heap page config).LegalBy Request.settleAsDocumented ∅ program →
      (ofHeap heap page config).ForfeitsNothing program →
      Holdings.RefinesBy Holdings.AllowsAsDocumented Request.settleAsDocumented (fun _ => none)
        (ofHeap heap page config) ∅ program) := by
  have refines := ofHeap_refines c valid bare page config program
  exact ⟨refines, fun legal nothing =>
    nothing.refinesBy_iff.2 (refines (nothing.legalBy_iff.1 legal))⟩

theorem ofHeap_contents_tour :
    (Arena.contract skewed skewed_fits).Valid (Arena.fresh skewed) ∧
      (Arena.contract skewed skewed_fits).live (Arena.fresh skewed) = ∅ ∧
      (ofHeap (Arena.fresh skewed) widePages).LegalRun ∅ tour ∧
      (ofHeap (Arena.fresh skewed) widePages).LegalBy Request.settleAsDocumented ∅ tour ∧
      (ofHeap (Arena.fresh skewed) widePages).ForfeitsNothing tour ∧
      Holdings.Refines (fun _ => none) (ofHeap (Arena.fresh skewed) widePages) ∅ tour ∧
      Holdings.RefinesBy Holdings.AllowsAsDocumented Request.settleAsDocumented (fun _ => none)
        (ofHeap (Arena.fresh skewed) widePages) ∅ tour := by
  have valid := Arena.valid_fresh skewed skewed_fits
  have bare := Arena.live_fresh skewed skewed_fits
  have legal : (ofHeap (Arena.fresh skewed) widePages).LegalRun ∅ tour := by decide +kernel
  have legal' :
      (ofHeap (Arena.fresh skewed) widePages).LegalBy Request.settleAsDocumented ∅ tour := by
    decide +kernel
  have nothing : (ofHeap (Arena.fresh skewed) widePages).ForfeitsNothing tour := by decide +kernel
  obtain ⟨refines, documented⟩ := ofHeap_contents _ valid bare widePages {} tour
  exact ⟨valid, bare, legal, legal', nothing, refines legal, documented legal' nothing⟩

/-- By the documentation the client has its 64 bytes after the error, and nothing is left of
them. -/
theorem refines_asDocumented_false :
    (ofHeap (Arena.fresh onceOnly) widePages).LegalBy Request.settleAsDocumented ∅ givesBack ∧
      ¬ Holdings.RefinesBy Holdings.AllowsAsDocumented Request.settleAsDocumented (fun _ => none)
        (ofHeap (Arena.fresh onceOnly) widePages) ∅ givesBack := by
  refine ⟨by decide +kernel, ?_⟩
  rintro ⟨-, h, given, -, h', kept, there, -⟩
  have granted : ((ofHeap (Arena.fresh onceOnly) widePages).serve (.malloc 64)).1 =
      .pointer (.ok (Arena.address 0)) := rfl
  have failed : (afterOneBlock.serve (.realloc (some (Arena.address 0)) 0)).1 =
      .resized (.error (.outOfMemory 1)) := rfl
  have gone : ((afterOneBlock.serve (.realloc (some (Arena.address 0)) 0)).2.usableSize
      (some (Arena.address 0))).1.toNat = 0 := by decide +kernel
  rw [granted] at given
  obtain ⟨-, bytes, large, -, rfl⟩ := given
  change Holdings.AllowsAsDocumented _ _ (afterOneBlock.serve _).1 h' at kept
  rw [failed] at kept
  obtain rfl : h' = _ := kept
  have usable := there.usable (Function.update_self ..)
  have none_left : bytes.length = 0 := usable.symm.trans gone
  rw [none_left] at large
  exact absurd large (by decide)

end Layer

end MallocLayer
