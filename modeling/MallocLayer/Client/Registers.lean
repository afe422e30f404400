import MallocLayer.Memory
import Std.Data.HashMap

/-!
# The pointers of a client

A client holds its pointers in named registers. A register that was never
written, or was emptied, reads as null. Inside a loop the mark `#` in a name
stands for the number of the iteration, so a loop can fill one register a
round.
-/

namespace MallocLayer.Client

/-- The name of a register. -/
abbrev Register := String

/-- The registers of a client. -/
structure Registers where
  pointers : Std.HashMap Register Addr := ∅
  /-- The number of the iteration, inside a loop. -/
  iteration : Option Nat := none

namespace Registers

/-- The register that a name stands for. -/
def resolve (r : Registers) (name : Register) : Register :=
  match r.iteration with
  | none => name
  | some i =>
    String.ofList <| name.toList.flatMap fun c => if c = '#' then (toString i).toList else [c]

/-- The pointer in a register; null without one. -/
def read (r : Registers) (name : Option Register) : Option Addr :=
  name.bind fun name => r.pointers[r.resolve name]?

/-- Puts a pointer, or null, into a register. Without a register it is
dropped. -/
def write (r : Registers) (name : Option Register) (ptr : Option Addr) : Registers :=
  match name, ptr with
  | none, _ => r
  | some name, some ptr => { r with pointers := r.pointers.insert (r.resolve name) ptr }
  | some name, none => { r with pointers := r.pointers.erase (r.resolve name) }

/-- Empties a register. -/
def clear (r : Registers) (name : Option Register) : Registers := r.write name none

end Registers

end MallocLayer.Client
