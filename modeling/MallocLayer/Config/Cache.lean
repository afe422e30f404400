import MallocLayer.Config

/-!
# The resolved configuration

The configuration is read from the environment on the first call and cached in
one byte. Reading the environment allocates, and when the layer is the process
allocator that allocation asks for the configuration again. Such a call meets
the marker for "resolving" and is answered with the default configuration, so
it neither waits nor reads the environment a second time.
-/

namespace MallocLayer.Config

/-- The cached byte, and how often the environment was read. -/
structure Cache where
  byte : UInt8 := 0
  reads : Nat := 0
deriving DecidableEq, Repr

namespace Cache

/-- The byte before the first call. -/
def unresolved : UInt8 := 0

/-- The byte while the environment is read. -/
def resolving : UInt8 := 255

/-- The byte of a resolved configuration: bit 0 is set, bit 1 means that
`realloc` of size zero returns null, bit 2 means tracing. -/
def encode (c : Config) : UInt8 :=
  1 ||| (if c.zeroSize = .returnNull then 2 else 0) ||| (if c.trace then 4 else 0)

/-- The configuration of a resolved byte. -/
def decode (byte : UInt8) : Config where
  zeroSize := if byte &&& 2 = 0 then .minimalObject else .returnNull
  trace := byte &&& 4 != 0

theorem decode_encode (c : Config) : decode (encode c) = c := by
  obtain ⟨zeroSize, trace⟩ := c
  cases zeroSize <;> cases trace <;> rfl

/-- A resolved byte is told from the byte before the first call. -/
theorem encode_ne_unresolved (c : Config) : encode c ≠ unresolved := by
  obtain ⟨zeroSize, trace⟩ := c
  cases zeroSize <;> cases trace <;> decide

/-- A resolved byte is told from the byte while the environment is read. -/
theorem encode_ne_resolving (c : Config) : encode c ≠ resolving := by
  obtain ⟨zeroSize, trace⟩ := c
  cases zeroSize <;> cases trace <;> decide

/-- A call for the configuration, with the calls that are made while it reads
each of the two variables, if it does. -/
inductive Call where
  | call (atReallocZero atTrace : List Call)
deriving Repr

/-- The answer to a call, with the answers to the calls made during it. -/
inductive Answer where
  | answer (config : Config) (during : List Answer)
deriving Repr

/-- The configuration that a call was answered with. -/
def Answer.config : Answer → Config
  | .answer config _ => config

mutual

/-- Answers one call. -/
def run (env : Environment) : Call → Cache → Answer × Cache
  | .call atReallocZero atTrace, cache =>
    if cache.byte = unresolved then
      let cache := { cache with byte := resolving, reads := cache.reads + 1 }
      let (first, cache) := runAll env atReallocZero cache
      let (second, cache) := runAll env atTrace cache
      let config := ofEnvironment env
      (.answer config (first ++ second), { cache with byte := encode config })
    else if cache.byte = resolving then (.answer {} [], cache)
    else (.answer (decode cache.byte) [], cache)

/-- Answers calls one after the other. -/
def runAll (env : Environment) : List Call → Cache → List Answer × Cache
  | [], cache => ([], cache)
  | call :: rest, cache =>
    let (answer, cache) := run env call cache
    let (answers, cache) := runAll env rest cache
    (answer :: answers, cache)

end

/-- The configuration of a process that asks for the first time. -/
def resolve (env : Environment) : Config :=
  (run env (.call [] []) {}).1.config

end Cache

end MallocLayer.Config
