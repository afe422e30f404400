import MallocLayer.Word

/-!
# Configuration

Two settings, read from the environment once: what `realloc` of size zero
answers, and whether derived operations are traced. Values are compared
without regard to ASCII case and are not trimmed.
-/

namespace MallocLayer

/-- What `realloc(ptr, 0)` answers on a live pointer. The block is released
either way. -/
inductive ZeroSizeRealloc where
  /-- A fresh object of one byte. -/
  | minimalObject
  /-- Null. -/
  | returnNull
deriving DecidableEq, Repr

/-- Lower case for ASCII letters only. -/
def asciiLower (s : String) : String := s.map Char.toLower

namespace ZeroSizeRealloc

/-- Reads the convention. Unknown words mean the default. -/
def ofString (s : String) : ZeroSizeRealloc :=
  if ["null", "none", "free", "posix"].contains (asciiLower s) then .returnNull
  else .minimalObject

end ZeroSizeRealloc

/-- The configuration of a layer. -/
structure Config where
  zeroSize : ZeroSizeRealloc := .minimalObject
  trace : Bool := false
deriving DecidableEq, Repr

/-- The environment, as far as the configuration looks at it. A variable that
is unset or holds no valid text is `none`. -/
structure Environment where
  /-- `HEAPWRAP_REALLOC_ZERO` -/
  reallocZero : Option String := none
  /-- `HEAPWRAP_TRACE` -/
  trace : Option String := none
deriving DecidableEq, Repr

namespace Environment

/-- The environment with the given values of its two variables, as bytes. -/
def ofBytes (reallocZero trace : Option ByteArray) : Environment where
  reallocZero := reallocZero.bind String.fromUTF8?
  trace := trace.bind String.fromUTF8?

end Environment

namespace Config

/-- Whether a flag is set. -/
def flagSet (s : String) : Bool := ["1", "on", "true", "yes"].contains (asciiLower s)

/-- The configuration that the environment asks for. -/
def ofEnvironment (env : Environment) : Config where
  zeroSize := env.reallocZero.elim .minimalObject ZeroSizeRealloc.ofString
  trace := env.trace.elim false flagSet

end Config

end MallocLayer
