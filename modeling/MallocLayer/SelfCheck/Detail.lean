import MallocLayer.Layer
import MallocLayer.Layer.Realloc
import MallocLayer.Text.Quoted

/-!
# Failure details

How a scenario that failed shows what it was answered: addresses in hexadecimal,
results and causes by their names with what they carry.
-/

namespace MallocLayer.SelfCheck.Detail

/-- An address. -/
def address (ptr : Addr) : String := "0x" ++ String.ofList (Text.hexDigits ptr.toNat)

/-- A name with fields. -/
def record (name : String) (fields : List (String × UInt64)) : String :=
  let shown := fields.map fun (field, value) => s!"{field}: {value}"
  name ++ " \x7b " ++ ", ".intercalate shown ++ " \x7d"

def allocError : AllocError → String
  | .outOfMemory requested => record "OutOfMemory" [("requested", requested)]
  | .invalidAlignment alignment => record "InvalidAlignment" [("alignment", alignment)]
  | .overflow lhs rhs => record "Overflow" [("lhs", lhs), ("rhs", rhs)]

def registrationError : RegistrationError → String
  | .alreadyRegistered => "AlreadyRegistered"

def reallocated : Reallocated → String
  | .inPlace ptr => s!"InPlace({address ptr})"
  | .moved ptr => s!"Moved({address ptr})"
  | .released => "Released"

/-- A result, by what is shown of an error and of a success. -/
def result {ε β : Type} (failure : ε → String) (success : β → String) : Except ε β → String
  | .ok value => s!"Ok({success value})"
  | .error cause => s!"Err({failure cause})"

/-- The success that carries nothing. -/
def unit {β : Type} (_ : β) : String := "()"

/-- A byte of a C string: printable ASCII as it is, everything else escaped. -/
def stringByte (b : UInt8) : List Char :=
  let c := Char.ofNat b.toNat
  if c = '\t' then ['\\', 't']
  else if c = '\r' then ['\\', 'r']
  else if c = '\n' then ['\\', 'n']
  else if c = '\\' ∨ c = '"' ∨ c = '\'' then ['\\', c]
  else if 0x20 ≤ b ∧ b ≤ 0x7e then [c]
  else ['\\', 'x', Nat.digitChar (b.toNat / 16), Nat.digitChar (b.toNat % 16)]

/-- A C string in double quotes. -/
def cString (s : CString) : String :=
  String.ofList ('"' :: s.bytes.flatMap stringByte ++ ['"'])

example : cString (.ofBytes [0x61, 0x22, 0x0a, 0xff, 0, 0x62]) = "\"a\\\"\\n\\xff\"" := by rfl

end MallocLayer.SelfCheck.Detail
