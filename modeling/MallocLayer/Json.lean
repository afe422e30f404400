/-!
# JSON values

The data format of the logs. An integer that fits 64 bits, signed or unsigned,
is kept exactly; any other number is a double. The members of an object stand
in a list: in the order of the fields for a record, in the order of the keys
for an object that was read.
-/

namespace MallocLayer

/-- An integer that fits 64 bits, signed or unsigned. -/
structure Json.Integer where
  value : Int
  least : -9223372036854775808 ≤ value
  greatest : value ≤ 18446744073709551615
deriving DecidableEq, Repr

/-- A JSON value. -/
inductive Json where
  | null
  | bool (b : Bool)
  | integer (n : Json.Integer)
  | double (x : Float)
  | string (s : String)
  | array (elements : List Json)
  | object (members : List (String × Json))
deriving Repr, Inhabited

namespace Json

namespace Integer

/-- The integer, when it fits. -/
def ofInt? (n : Int) : Option Integer :=
  if h : -9223372036854775808 ≤ n ∧ n ≤ 18446744073709551615 then some ⟨n, h.1, h.2⟩ else none

/-- An unsigned word fits. -/
def ofWord (w : UInt64) : Integer where
  value := w.toNat
  least := by omega
  greatest := by have := w.toNat_lt; omega

/-- A signed word of 32 bits fits. -/
def ofInt32 (i : Int32) : Integer where
  value := i.toInt
  least := by have := i.le_toInt; omega
  greatest := by have := i.toInt_lt; omega

/-- The integer as an unsigned word, when it is one. -/
def toWord? (n : Integer) : Option UInt64 :=
  if 0 ≤ n.value then some (UInt64.ofNat n.value.toNat) else none

/-- The integer as a signed word of 32 bits, when it is one. -/
def toInt32? (n : Integer) : Option Int32 :=
  if -2147483648 ≤ n.value ∧ n.value < 2147483648 then some (Int32.ofInt n.value) else none

end Integer

/-- The JSON form of an unsigned word. -/
def word (w : UInt64) : Json := .integer (.ofWord w)

/-- The JSON form of a signed word of 32 bits. -/
def int32 (i : Int32) : Json := .integer (.ofInt32 i)

/-- The string of a JSON string. -/
def string? : Json → Option String
  | .string s => some s
  | _ => none

/-- The members of a JSON object. -/
def object? : Json → Option (List (String × Json))
  | .object members => some members
  | _ => none

/-- The unsigned word of a JSON integer that is one. -/
def word? : Json → Option UInt64
  | .integer n => n.toWord?
  | _ => none

/-- The signed word of 32 bits of a JSON integer that is one. -/
def int32? : Json → Option Int32
  | .integer n => n.toInt32?
  | _ => none

/-- Puts a member into a list of members in the order of their keys, in place of
a member with the same key. -/
def insertMember (key : String) (value : Json) : List (String × Json) → List (String × Json)
  | [] => [(key, value)]
  | (k, v) :: rest =>
    if key < k then (key, value) :: (k, v) :: rest
    else if key = k then (key, value) :: rest
    else (k, v) :: insertMember key value rest

/-- The object with the given members. Of several members with one key, the last
one counts. -/
def ofMembers (members : List (String × Json)) : Json :=
  .object (members.foldl (fun sorted (key, value) => insertMember key value sorted) [])

end Json

end MallocLayer
