import MallocLayer.Config.Cache

/-!
# The configuration is resolved once

The first call for the configuration reads the environment, and the byte of the cache
says to all others where it stands. Calls that are made while the environment is read
find the marker for it, whoever makes them, and are answered with the default. They read
nothing, write nothing and make no further calls, so that there is no second level of
re-entry. Calls that come later find the configuration (`runAll_resolvesOnce`).

What a call does on its way to the answer is watched: each look at the byte, the reading
and each write. To watch does not change what is computed (`watchAll_fst`).
-/

namespace MallocLayer.Config.Cache

/-! ## 1. What the byte stands for -/

/-- How far the configuration is resolved. -/
inductive Phase where
  | unresolved
  | resolving
  | resolved (config : Config)
deriving DecidableEq, Repr

/-- The byte that marks a phase. -/
def Phase.byte : Phase → UInt8
  | .unresolved => Cache.unresolved
  | .resolving => Cache.resolving
  | .resolved config => encode config

/-- No marker is the byte of a configuration, and no two configurations have one byte. -/
theorem Phase.byte_inj {p q : Phase} : p.byte = q.byte ↔ p = q := by
  constructor
  · intro same
    cases p <;> cases q
    case resolved.resolved c d =>
      rw [← decode_encode c, show encode c = encode d from same, decode_encode]
    case resolved.unresolved c => exact absurd same (encode_ne_unresolved c)
    case resolved.resolving c => exact absurd same (encode_ne_resolving c)
    case unresolved.resolved c => exact absurd same.symm (encode_ne_unresolved c)
    case resolving.resolved c => exact absurd same.symm (encode_ne_resolving c)
    case unresolved.unresolved => rfl
    case resolving.resolving => rfl
    case unresolved.resolving => exact absurd same (by decide)
    case resolving.unresolved => exact absurd same (by decide)
  · rintro rfl
    rfl

/-! ## 2. Watched calls -/

/-- What a call does on its way to the answer. -/
inductive Action where
  /-- It looks at the byte and finds the given one. -/
  | look (byte : UInt8)
  /-- It exchanges the byte of an unresolved configuration for the marker of its resolution.
  Nothing comes between the look at the byte and the exchange. -/
  | enter
  /-- It reads a variable of the environment. -/
  | readReallocZero
  | readTrace
  /-- It writes the byte. -/
  | store (byte : UInt8)
deriving DecidableEq, Repr

/-- The byte that an action leaves, if it writes one. -/
def Action.written : Action → Option UInt8
  | .look _ | .readReallocZero | .readTrace => none
  | .enter => some resolving
  | .store byte => some byte

mutual

/-- Answers one call, and notes what is done. -/
def watch (env : Environment) : Call → Cache → (Answer × Cache) × List Action
  | .call atReallocZero atTrace, cache =>
    if cache.byte = unresolved then
      let entered := { cache with byte := resolving, reads := cache.reads + 1 }
      let first := watchAll env atReallocZero entered
      let second := watchAll env atTrace first.1.2
      let config := ofEnvironment env
      ((.answer config (first.1.1 ++ second.1.1), { second.1.2 with byte := encode config }),
        [.look cache.byte, .enter, .readReallocZero] ++ first.2 ++ [.readTrace] ++ second.2 ++
          [.store (encode config)])
    else if cache.byte = resolving then ((.answer {} [], cache), [.look cache.byte])
    else ((.answer (decode cache.byte) [], cache), [.look cache.byte])

/-- Answers calls one after the other, and notes what is done. -/
def watchAll (env : Environment) : List Call → Cache → (List Answer × Cache) × List Action
  | [], cache => (([], cache), [])
  | call :: rest, cache =>
    let first := watch env call cache
    let others := watchAll env rest first.1.2
    ((first.1.1 :: others.1.1, others.1.2), first.2 ++ others.2)

end

mutual

theorem watch_fst (env : Environment) (call : Call) (cache : Cache) :
    (watch env call cache).1 = run env call cache := by
  obtain ⟨atReallocZero, atTrace⟩ := call
  unfold watch run
  split
  · simp only [← watchAll_fst env atReallocZero, ← watchAll_fst env atTrace]
  · split <;> rfl

theorem watchAll_fst (env : Environment) (calls : List Call) (cache : Cache) :
    (watchAll env calls cache).1 = runAll env calls cache := by
  cases calls with
  | nil => rfl
  | cons call rest =>
    unfold watchAll runAll
    simp only [← watch_fst env call cache, ← watchAll_fst env rest]

end

/-! ## 3. Each phase -/

variable (env : Environment) (calls : List Call) (reads : Nat)

/-- While the environment is read, calls do nothing but look at the byte. -/
theorem watchAll_resolving :
    watchAll env calls ⟨resolving, reads⟩ =
      ((calls.map fun _ => .answer {} [], ⟨resolving, reads⟩),
        calls.map fun _ => .look resolving) := by
  induction calls with
  | nil => rfl
  | cons call rest ih =>
    obtain ⟨atReallocZero, atTrace⟩ := call
    have other : resolving ≠ unresolved := by decide
    simp only [watchAll, watch, if_neg other, if_true, ih]
    rfl

/-- When the configuration is resolved, calls do nothing but look it up. -/
theorem watchAll_resolved (config : Config) :
    watchAll env calls ⟨encode config, reads⟩ =
      ((calls.map fun _ => .answer config [], ⟨encode config, reads⟩),
        calls.map fun _ => .look (encode config)) := by
  induction calls with
  | nil => rfl
  | cons call rest ih =>
    obtain ⟨atReallocZero, atTrace⟩ := call
    simp only [watchAll, watch, if_neg (encode_ne_unresolved config),
      if_neg (encode_ne_resolving config), decode_encode, ih]
    rfl

/-- The call that finds the configuration unresolved resolves it. -/
theorem watch_unresolved (atReallocZero atTrace : List Call) :
    watch env (.call atReallocZero atTrace) ⟨unresolved, reads⟩ =
      ((.answer (ofEnvironment env) ((atReallocZero ++ atTrace).map fun _ => .answer {} []),
          ⟨encode (ofEnvironment env), reads + 1⟩),
        [.look unresolved, .enter, .readReallocZero] ++
          atReallocZero.map (fun _ => .look resolving) ++ [.readTrace] ++
          atTrace.map (fun _ => .look resolving) ++ [.store (encode (ofEnvironment env))]) := by
  rw [watch, if_pos rfl, List.map_append]
  simp only [watchAll_resolving]

/-! ## 4. A process -/

/-- What happens to the calls of a process: to the first one, during which calls are made
at the reading of each variable, and to the rest. -/
structure ResolvesOnce (env : Environment) (atReallocZero atTrace rest : List Call) : Prop where
  /-- What is watched is what is run. -/
  watched : (watchAll env (.call atReallocZero atTrace :: rest) {}).1 =
    runAll env (.call atReallocZero atTrace :: rest) {}
  /-- All calls are answered: the first one with the configuration of the environment, those
  made during it with the default, and those after it with the same configuration. No call
  is made during any other than the first. -/
  answers : (runAll env (.call atReallocZero atTrace :: rest) {}).1 =
    .answer (ofEnvironment env) ((atReallocZero ++ atTrace).map fun _ => .answer {} []) ::
      rest.map fun _ => .answer (ofEnvironment env) []
  reads : (runAll env (.call atReallocZero atTrace :: rest) {}).2.reads = 1
  /-- The first call reads each variable once and then stores the configuration. All other
  calls look at the byte once, and that is all they do. -/
  actions : (watchAll env (.call atReallocZero atTrace :: rest) {}).2 =
    [.look unresolved, .enter, .readReallocZero] ++
      atReallocZero.map (fun _ => .look resolving) ++ [.readTrace] ++
      atTrace.map (fun _ => .look resolving) ++ [.store (encode (ofEnvironment env))] ++
      rest.map fun _ => .look (encode (ofEnvironment env))
  /-- The byte goes from one phase to the next. -/
  phases : ({} : Cache).byte ::
      (watchAll env (.call atReallocZero atTrace :: rest) {}).2.filterMap Action.written =
    [Phase.unresolved, .resolving, .resolved (ofEnvironment env)].map Phase.byte
  /-- Calls during the reading leave the cache as it is. -/
  reentrant : ∀ calls reads, runAll env calls ⟨resolving, reads⟩ =
    (calls.map fun _ => .answer {} [], ⟨resolving, reads⟩)
  /-- The byte tells the phases and the configurations apart. -/
  distinct : ∀ p q : Phase, p.byte = q.byte → p = q

theorem watchAll_fresh (atReallocZero atTrace rest : List Call) :
    watchAll env (.call atReallocZero atTrace :: rest) {} =
      ((.answer (ofEnvironment env) ((atReallocZero ++ atTrace).map fun _ => .answer {} []) ::
          rest.map fun _ => .answer (ofEnvironment env) [], ⟨encode (ofEnvironment env), 1⟩),
        [.look unresolved, .enter, .readReallocZero] ++
          atReallocZero.map (fun _ => .look resolving) ++ [.readTrace] ++
          atTrace.map (fun _ => .look resolving) ++ [.store (encode (ofEnvironment env))] ++
          rest.map fun _ => .look (encode (ofEnvironment env))) := by
  have resolved := watch_unresolved env 0 atReallocZero atTrace
  have looked := watchAll_resolved env rest 1 (ofEnvironment env)
  rw [watchAll, show watch env (.call atReallocZero atTrace) {} = _ from resolved]
  simp only [looked]

/-- Calls that only look write nothing. -/
theorem filterMap_written_looks (calls : List Call) (byte : UInt8) :
    (calls.map fun _ => Action.look byte).filterMap Action.written = [] := by
  rw [List.filterMap_map]
  exact List.filterMap_eq_nil_iff.2 fun _ _ => rfl

/-- Whatever the environment holds, and whatever calls are made during which: the first
call of a process resolves the configuration, and no other does. -/
theorem runAll_resolvesOnce (env : Environment) (atReallocZero atTrace rest : List Call) :
    ResolvesOnce env atReallocZero atTrace rest where
  watched := watchAll_fst env _ _
  answers := by rw [← watchAll_fst, watchAll_fresh]
  reads := by rw [← watchAll_fst, watchAll_fresh]
  actions := by rw [watchAll_fresh]
  phases := by
    rw [watchAll_fresh]
    simp only [List.filterMap_append, filterMap_written_looks, List.append_nil]
    rfl
  reentrant calls reads := by rw [← watchAll_fst, watchAll_resolving]
  distinct _ _ := Phase.byte_inj.1

end MallocLayer.Config.Cache
