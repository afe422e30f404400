/-!
# Failures of the layer

Every failure is a value that names its cause. Each cause has one errno, one
label for lifecycle records and one message.
-/

namespace MallocLayer

/-- An errno value. -/
abbrev Errno := Int32

namespace Errno

/-- Out of memory. -/
def enomem : Errno := 12

/-- Invalid argument. -/
def einval : Errno := 22

end Errno

/-- Why an allocation failed. -/
inductive AllocError where
  /-- The primitive allocator returned null for `requested` bytes. -/
  | outOfMemory (requested : UInt64)
  /-- The alignment is no power of two, or none at or above it fits a word. -/
  | invalidAlignment (alignment : UInt64)
  /-- A size computed from `lhs` and `rhs` does not fit a word. -/
  | overflow (lhs rhs : UInt64)
deriving DecidableEq, Repr

namespace AllocError

/-- The errno that matches the failure. -/
def errno : AllocError → Errno
  | .outOfMemory _ | .overflow _ _ => Errno.enomem
  | .invalidAlignment _ => Errno.einval

/-- The label of the failure in lifecycle records. -/
def outcome : AllocError → String
  | .outOfMemory _ => "oom"
  | .invalidAlignment _ => "invalid_alignment"
  | .overflow _ _ => "overflow"

def message : AllocError → String
  | .outOfMemory requested => s!"primitive allocator could not provide {requested} bytes"
  | .invalidAlignment alignment => s!"alignment {alignment} is not a non-zero power of two"
  | .overflow lhs rhs => s!"size computation {lhs} x {rhs} overflows"

end AllocError

/-- Why a zone could not become the default zone. -/
inductive RegistrationError where
  /-- The zone was installed before. -/
  | alreadyRegistered
deriving DecidableEq, Repr

namespace RegistrationError

def message : RegistrationError → String
  | .alreadyRegistered => "descriptor is already registered for this process"

end RegistrationError

end MallocLayer
