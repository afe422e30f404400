import MallocLayer.Zone
import MallocLayer.Proofs.LifecycleLog
import Mathlib.Logic.Function.Basic

/-!
# Registration

Zones share one registry, and each lies over a layer, which it may share with others.
They are installed in any order and any number of times.

Only the first install of a zone does anything to the registry, and a zone that was
replaced does not come back. So the first installs, in their order, say all there is to
say: the default zone is the last of them, if there was one. `run_settled` says that zones
and registry agree with this after every sequence of installs, and what every next install
does.

What an install does is said once, in `install_first` and `install_again`. The rest is
read off these two.
-/

namespace MallocLayer

open Lifecycle

/-! ## 1. The registry -/

/-- What a call does to the default zone. Removing a zone that is not the default has no
outcome. -/
def RegistryCall.defaultAfter (default : Option Addr) : RegistryCall → Option (Option Addr)
  | .unregister zone => if default = some zone then some none else none
  | .register zone => some (some zone)

namespace ZoneRegistry

/-- The calls that put a zone in the place of the default one, which is removed if it
is another zone. -/
def takeover (default : Option Addr) (zone : Addr) : List RegistryCall :=
  match default with
  | none => [.register zone]
  | some previous =>
    if previous = zone then [.register zone] else [.unregister previous, .register zone]

/-- The registry after a zone has taken over. -/
def takenOver (r : ZoneRegistry) (zone : Addr) : ZoneRegistry where
  default := some zone
  calls := r.calls ++ takeover r.default zone

/-- A takeover removes no zone but the default. -/
theorem foldlM_takeover (default : Option Addr) (zone : Addr) :
    (takeover default zone).foldlM RegistryCall.defaultAfter default = some (some zone) := by
  cases default with
  | none => rfl
  | some previous =>
    show (ite _ _ _ : List RegistryCall).foldlM _ _ = _
    split
    · rfl
    · simp [RegistryCall.defaultAfter]

/-- A takeover adds one zone. -/
theorem count_takeover (default : Option Addr) (zone z : Addr) :
    (takeover default zone).count (.register z) = if zone = z then 1 else 0 := by
  have added : [RegistryCall.register zone].count (.register z) = if zone = z then 1 else 0 := by
    rw [List.count_singleton]
    exact if_congr (by simp) rfl rfl
  cases default with
  | none => exact added
  | some previous =>
    show (ite _ _ _ : List RegistryCall).count _ = _
    split
    · exact added
    · have other : RegistryCall.unregister previous ≠ .register z := nofun
      rw [List.count_cons_of_ne other]
      exact added

end ZoneRegistry

namespace Zone

/-- The record of a first install. -/
def installed (z : Zone) : Event :=
  { level := .info, symbol := "zone_register", event := "zone_registered", outcome := "success",
    ptr := some z.address }

/-- The record of every other install. -/
def repeated : Event :=
  { level := .warn, symbol := "zone_register", event := "zone_register_repeat",
    outcome := "already_registered" }

variable {σ : Type} (z : Zone) (r : ZoneRegistry) (s : Layer σ)

theorem installAsDefault_first (new : z.registered = false) :
    z.installAsDefault r s =
      (.ok (), { z with registered := true }, r.takenOver z.address, s.record z.installed) := by
  unfold installAsDefault
  rw [if_neg (by simp [new])]
  obtain ⟨default, calls⟩ := r
  cases default with
  | none => rfl
  | some previous =>
    by_cases same : previous = z.address
    · simp only [ZoneRegistry.takenOver, ZoneRegistry.takeover, if_pos same]
      rfl
    · simp only [ZoneRegistry.takenOver, ZoneRegistry.takeover, if_neg same,
        ZoneRegistry.register, ZoneRegistry.unregister, List.append_assoc]
      rfl

theorem installAsDefault_again (old : z.registered = true) :
    z.installAsDefault r s = (.error .alreadyRegistered, z, r, s.record repeated) :=
  if_pos old

end Zone

/-! ## 2. Zones over layers -/

/-- Zones with the layers that they lie over, and their registry. -/
structure Zones (ι κ σ : Type) where
  zone : ι → Zone
  /-- The layer of each zone. -/
  home : ι → κ
  layer : κ → Layer σ
  registry : ZoneRegistry

namespace Zones

variable {ι κ σ : Type} [DecidableEq ι] [DecidableEq κ]

/-- One zone, the registry and the layer of the zone change. -/
def set (f : Zones ι κ σ) (i : ι) (next : Zone × ZoneRegistry × Layer σ) : Zones ι κ σ where
  zone := Function.update f.zone i next.1
  home := f.home
  layer := Function.update f.layer (f.home i) next.2.2
  registry := next.2.1

/-- Installs a zone as the default one. -/
def install (f : Zones ι κ σ) (i : ι) : Except RegistrationError Unit × Zones ι κ σ :=
  ((f.zone i).installAsDefault f.registry (f.layer (f.home i))).map id (f.set i)

/-- Installs zones one after the other. -/
def run (f : Zones ι κ σ) (installs : List ι) : Zones ι κ σ :=
  installs.foldl (fun f i => (f.install i).2) f

section Install

variable {f : Zones ι κ σ} {i : ι}

theorem install_first (new : (f.zone i).registered = false) :
    f.install i = (.ok (), f.set i
      ({ f.zone i with registered := true }, f.registry.takenOver (f.zone i).address,
        (f.layer (f.home i)).record (f.zone i).installed)) := by
  rw [install, Zone.installAsDefault_first _ _ _ new]
  rfl

theorem install_again (old : (f.zone i).registered = true) :
    f.install i = (.error .alreadyRegistered, f.set i
      (f.zone i, f.registry, (f.layer (f.home i)).record Zone.repeated)) := by
  rw [install, Zone.installAsDefault_again _ _ _ old]
  rfl

end Install

/-! ## 3. First installs -/

/-- The zone whose first install came last. -/
def newest (installs : List ι) : Option ι := installs.eraseDups.getLast?

theorem eraseDups_again {installs : List ι} {i : ι} (old : i ∈ installs) :
    (installs ++ [i]).eraseDups = installs.eraseDups := by
  rw [List.eraseDups_append]
  simp [List.removeAll, old]

theorem eraseDups_first {installs : List ι} {i : ι} (new : i ∉ installs) :
    (installs ++ [i]).eraseDups = installs.eraseDups ++ [i] := by
  rw [List.eraseDups_append]
  simp [List.removeAll, new, List.eraseDups_cons]

/-- Zones and registry agree with the first installs. -/
structure Settled (start f : Zones ι κ σ) (installs : List ι) : Prop where
  home : f.home = start.home
  address : ∀ i, (f.zone i).address = (start.zone i).address
  registered : ∀ i, (f.zone i).registered = true ↔ i ∈ installs
  default : f.registry.default =
    ((newest installs).map fun i => (start.zone i).address).or start.registry.default
  /-- No zone was removed but the default of that moment. -/
  removed : f.registry.calls.foldlM RegistryCall.defaultAfter start.registry.default =
    some f.registry.default
  once : ∀ i, f.registry.calls.count (.register (start.zone i).address) =
    if i ∈ installs then 1 else 0
  log : ∀ k, (f.layer k).log.WellFormed

/-- The record that the next install of a zone leaves. -/
def nextEvent (f : Zones ι κ σ) (installs : List ι) (i : ι) : Event :=
  if i ∈ installs then Zone.repeated else (f.zone i).installed

/-- What the next install does. -/
structure Guarded (f : Zones ι κ σ) (installs : List ι) : Prop where
  /-- The first install of a zone succeeds, and the zone takes over. -/
  first : ∀ i, i ∉ installs →
    (f.install i).1 = .ok () ∧
      (f.install i).2.registry.calls =
        f.registry.calls ++ ZoneRegistry.takeover f.registry.default (f.zone i).address ∧
      (f.install i).2.registry.default = some (f.zone i).address
  /-- Every other one fails, and the registry does not hear of it. -/
  again : ∀ i, i ∈ installs →
    (f.install i).1 = .error .alreadyRegistered ∧ (f.install i).2.registry = f.registry
  /-- All that happens to the layer of the zone is that its log gets one record. -/
  recorded : ∀ i,
    (f.install i).2.layer (f.home i) =
      (f.layer (f.home i)).record (f.nextEvent installs i) ∧
    ((f.install i).2.layer (f.home i)).log.snapshot =
      ((f.layer (f.home i)).log.snapshot ++
        [(f.layer (f.home i)).log.stamp (f.nextEvent installs i)]).drop
          (f.layer (f.home i)).log.overwrites
  /-- Other layers and other zones are left alone. -/
  others : ∀ i, (∀ k ≠ f.home i, (f.install i).2.layer k = f.layer k) ∧
    ∀ j ≠ i, (f.install i).2.zone j = f.zone j

/-- Zones with addresses of their own, none of them installed, and a registry that was not
called so far. Its default zone may be any. -/
structure Fresh (start : Zones ι κ σ) : Prop where
  apart : Function.Injective fun i => (start.zone i).address
  registered : ∀ i, (start.zone i).registered = false
  calls : start.registry.calls = []
  log : ∀ k, (start.layer k).log.WellFormed

/-! ## 4. One install -/

section One

variable {start f : Zones ι κ σ} {installs : List ι} {i : ι}
  {next : Zone × ZoneRegistry × Layer σ}

theorem forall_zone_set {P : ι → Zone → Prop} :
    (∀ j, P j ((f.set i next).zone j)) ↔ P i next.1 ∧ ∀ j ≠ i, P j (f.zone j) :=
  Function.forall_update_iff ..

theorem forall_layer_set {P : κ → Layer σ → Prop} :
    (∀ k, P k ((f.set i next).layer k)) ↔
      P (f.home i) next.2.2 ∧ ∀ k ≠ f.home i, P k (f.layer k) :=
  Function.forall_update_iff ..

namespace Settled

omit [DecidableEq κ] in
theorem registered_eq_false (h : Settled start f installs) (first : i ∉ installs) :
    (f.zone i).registered = false :=
  Bool.eq_false_iff.2 fun old => first ((h.registered i).1 old)

/-- The first install of a zone adds it to the first installs. -/
theorem first (h : Settled start f installs) (fresh : start.Fresh) (new : i ∉ installs) :
    Settled start (f.install i).2 (installs ++ [i]) := by
  rw [install_first (h.registered_eq_false new)]
  constructor
  · exact h.home
  · exact (forall_zone_set (P := fun j z => z.address = (start.zone j).address)).2
      ⟨h.address i, fun j _ => h.address j⟩
  · refine (forall_zone_set
      (P := fun j z => z.registered = true ↔ j ∈ installs ++ [i])).2 ⟨?_, ?_⟩
    · exact iff_of_true rfl (List.mem_append_right _ (List.mem_singleton_self i))
    · intro j ne
      rw [h.registered j]
      simp [ne]
  · rw [newest, eraseDups_first new, List.getLast?_concat]
    exact congrArg some (h.address i)
  · show (f.registry.calls ++ _).foldlM _ _ = _
    rw [List.foldlM_append, h.removed]
    exact ZoneRegistry.foldlM_takeover ..
  · intro j
    show (f.registry.calls ++ _).count _ = _
    rw [List.count_append, h.once, ZoneRegistry.count_takeover, h.address]
    by_cases same : i = j
    · subst same
      simp [new]
    · -- Zones have addresses of their own, so this was no registration of the other zone.
      have other : (start.zone i).address ≠ (start.zone j).address :=
        fun eq => same (fresh.apart eq)
      have ne : j ≠ i := Ne.symm same
      simp [other, ne]
  · exact (forall_layer_set (P := fun _ s => s.log.WellFormed)).2
      ⟨(h.log _).record _, fun k _ => h.log k⟩

/-- Every other install leaves the first installs as they are. -/
theorem again (h : Settled start f installs) (old : i ∈ installs) :
    Settled start (f.install i).2 (installs ++ [i]) := by
  -- Everything is said in terms of who was installed, and that does not change.
  have same (j : ι) : j ∈ installs ++ [i] ↔ j ∈ installs := by
    constructor
    · intro either
      rcases List.mem_append.1 either with before | last
      · exact before
      · rwa [List.mem_singleton.1 last]
    · exact List.mem_append_left _
  have zones : (f.set i (f.zone i, f.registry,
      (f.layer (f.home i)).record Zone.repeated)).zone = f.zone := Function.update_eq_self ..
  rw [install_again ((h.registered i).2 old)]
  constructor
  · exact h.home
  · rw [zones]
    exact h.address
  · rw [zones]
    exact fun j => (h.registered j).trans (same j).symm
  · rw [newest, eraseDups_again old]
    exact h.default
  · exact h.removed
  · simp only [same]
    exact h.once
  · exact (forall_layer_set (P := fun _ s => s.log.WellFormed)).2
      ⟨(h.log _).record _, fun k _ => h.log k⟩

theorem step (h : Settled start f installs) (fresh : start.Fresh) (i : ι) :
    Settled start (f.install i).2 (installs ++ [i]) := by
  by_cases old : i ∈ installs
  · exact h.again old
  · exact h.first fresh old

theorem guarded (h : Settled start f installs) : f.Guarded installs := by
  have layer (i : ι) : (f.install i).2.layer (f.home i) =
      (f.layer (f.home i)).record (f.nextEvent installs i) := by
    unfold nextEvent
    by_cases old : i ∈ installs
    · rw [install_again ((h.registered i).2 old), if_pos old]
      exact Function.update_self ..
    · rw [install_first (h.registered_eq_false old), if_neg old]
      exact Function.update_self ..
  constructor
  · intro i new
    rw [install_first (h.registered_eq_false new)]
    exact ⟨rfl, rfl, rfl⟩
  · intro i old
    rw [install_again ((h.registered i).2 old)]
    exact ⟨rfl, rfl⟩
  · intro i
    refine ⟨layer i, ?_⟩
    rw [layer i]
    exact LifecycleLog.snapshot_record (h.log _) _
  · intro i
    exact ⟨fun k ne => Function.update_of_ne ne .., fun j ne => Function.update_of_ne ne ..⟩

end Settled

end One

/-! ## 5. All installs -/

section All

variable {start : Zones ι κ σ}

omit [DecidableEq κ] in
theorem Fresh.settled (fresh : start.Fresh) : Settled start start [] where
  home := rfl
  address _ := rfl
  registered i := iff_of_false (by rw [fresh.registered i]; exact nofun) List.not_mem_nil
  default := rfl
  removed := by
    rw [fresh.calls]
    rfl
  once i := by
    rw [fresh.calls]
    rfl
  log := fresh.log

theorem Settled.run {f : Zones ι κ σ} {before : List ι} (h : Settled start f before)
    (fresh : start.Fresh) (installs : List ι) :
    Settled start (f.run installs) (before ++ installs) := by
  induction installs generalizing f before with
  | nil =>
    rw [List.append_nil]
    exact h
  | cons i rest ih =>
    have after := ih (h.step fresh i)
    rw [List.append_assoc] at after
    exact after

/-- After every sequence of installs, zones and registry agree with the first installs,
and every next install is guarded. -/
theorem run_settled (fresh : start.Fresh) (installs : List ι) :
    Settled start (start.run installs) installs ∧ (start.run installs).Guarded installs := by
  have settled : Settled start (start.run installs) installs := fresh.settled.run fresh installs
  exact ⟨settled, settled.guarded⟩

/-- Three zones over two layers. One of them is the default before it is installed. -/
def trio : Zones (Fin 3) Bool Unit where
  zone i := { address := 0x1000 * UInt64.ofNat (i.val + 1) }
  home i := i.val == 2
  layer _ := .ofHeap ⟨(), .empty⟩ .fallback
  registry := { default := some 0x2000 }

/-- Two zones are installed a second time, one of them while it is the default no more. -/
def repeats : List (Fin 3) := [0, 1, 0, 2, 1]

theorem run_settled_trio :
    trio.Fresh ∧ Settled trio (trio.run repeats) repeats ∧
      (trio.run repeats).Guarded repeats ∧
      (trio.run repeats).registry =
        { default := some 0x3000
          calls := [.unregister 0x2000, .register 0x1000, .unregister 0x1000, .register 0x2000,
            .unregister 0x2000, .register 0x3000] } := by
  have apart : ∀ i j, (trio.zone i).address = (trio.zone j).address → i = j := by decide
  have fresh : trio.Fresh :=
    { apart := apart
      registered := fun _ => rfl
      calls := rfl
      log := fun _ => LifecycleLog.wellFormed_of_size_eq_zero rfl }
  obtain ⟨settled, guarded⟩ := run_settled fresh repeats
  exact ⟨fresh, settled, guarded, by decide +kernel⟩

end All

end Zones

end MallocLayer
