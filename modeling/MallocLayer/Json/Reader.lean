import MallocLayer.Json

/-!
# Reading JSON

The reader takes exactly the texts of RFC 8259 whose strings hold no lone
surrogate, whose arrays and objects are nested at most 127 deep and whose
numbers are in the range of doubles. Of several members with one key the last
one counts.

A number without fraction and exponent that fits 64 bits is an integer; `-0` is
not, it is the double of that name. A double is computed from the leading
digits that fit 64 bits and a power of ten, so its last bit may differ from the
nearest double.
-/

namespace MallocLayer.Json

/-- The blanks between tokens. -/
def isBlank (c : Char) : Bool := c = ' ' || c = '\t' || c = '\n' || c = '\r'

/-- The text without the blanks in front. -/
def skipBlanks (cs : List Char) : List Char := cs.dropWhile isBlank

/-! ## Strings -/

/-- The value of a hexadecimal digit. -/
def hexValue? (c : Char) : Option Nat :=
  if '0' ≤ c ∧ c ≤ '9' then some (c.toNat - 48)
  else if 'a' ≤ c ∧ c ≤ 'f' then some (c.toNat - 87)
  else if 'A' ≤ c ∧ c ≤ 'F' then some (c.toNat - 55)
  else none

/-- Reads four hexadecimal digits. -/
def readUnit : List Char → Option (Nat × List Char)
  | a :: b :: c :: d :: rest => do
    let a ← hexValue? a
    let b ← hexValue? b
    let c ← hexValue? c
    let d ← hexValue? d
    some (((a * 16 + b) * 16 + c) * 16 + d, rest)
  | _ => none

/-- Reads what follows a backslash and a `u`: one unit, or the two units of a
surrogate pair. -/
def readCodePoint (cs : List Char) : Option (Char × List Char) := do
  let (unit, rest) ← readUnit cs
  if 0xd800 ≤ unit ∧ unit < 0xdc00 then
    match rest with
    | '\\' :: 'u' :: rest =>
      let (low, rest) ← readUnit rest
      if 0xdc00 ≤ low ∧ low < 0xe000 then
        some (Char.ofNat (0x10000 + (unit - 0xd800) * 0x400 + (low - 0xdc00)), rest)
      else none
    | _ => none
  else if 0xdc00 ≤ unit ∧ unit < 0xe000 then none
  else some (Char.ofNat unit, rest)

/-- Reads what follows a backslash. -/
def readEscape : List Char → Option (Char × List Char)
  | [] => none
  | c :: rest =>
    if c = '"' then some ('"', rest)
    else if c = '\\' then some ('\\', rest)
    else if c = '/' then some ('/', rest)
    else if c = 'b' then some ('\x08', rest)
    else if c = 'f' then some ('\x0c', rest)
    else if c = 'n' then some ('\n', rest)
    else if c = 'r' then some ('\r', rest)
    else if c = 't' then some ('\t', rest)
    else if c = 'u' then readCodePoint rest
    else none

/-- Reads a string up to its closing quote. `done` holds the characters read so
far, the last one first, and `fuel` bounds their number. -/
def readCharacters : (fuel : Nat) → List Char → (done : List Char) →
    Option (String × List Char)
  | 0, _, _ => none
  | _ + 1, [], _ => none
  | fuel + 1, c :: rest, done =>
    if c = '"' then some (String.ofList done.reverse, rest)
    else if c = '\\' then
      match readEscape rest with
      | none => none
      | some (c, rest) => readCharacters fuel rest (c :: done)
    else if c.toNat < 0x20 then none
    else readCharacters fuel rest (c :: done)

/-! ## Numbers -/

/-- Splits the digits off the front. -/
def splitDigits (cs : List Char) : List Char × List Char :=
  (cs.takeWhile Char.isDigit, cs.dropWhile Char.isDigit)

/-- The value of a digit. -/
def digitValue (c : Char) : Nat := c.toNat - 48

/-- Appends digits to a number as long as it fits 64 bits. Returns the number and
the digits left. -/
def absorb (n : Nat) : List Char → Nat × List Char
  | [] => (n, [])
  | c :: rest =>
    let next := 10 * n + digitValue c
    if next < UInt64.size then absorb next rest else (n, c :: rest)

/-- A power of ten up to 10³⁰⁸. -/
def tenTo (n : Nat) : Float := Float.ofScientific 1 false n

/-- Divides by a power of ten, in steps of 10³⁰⁸. -/
def divideByTenTo (x : Float) (n : Nat) : Float :=
  if n ≤ 308 then x / tenTo n
  else if x == 0 then x
  else divideByTenTo (x / tenTo 308) (n - 308)
termination_by n

/-- `x * 10 ^ exponent`, when it is finite. -/
def scaleByTenTo (x : Float) (exponent : Int) : Option Float :=
  if exponent < 0 then some (divideByTenTo x exponent.natAbs)
  else if exponent ≤ 308 then
    let product := x * tenTo exponent.toNat
    if product.isInf then none else some product
  else if x == 0 then some x
  else none

/-- A number that is no integer: significand, exponent, sign. -/
def double? (negative : Bool) (significand : Nat) (exponent : Int) : Option Json := do
  let magnitude ← scaleByTenTo (UInt64.ofNat significand).toFloat exponent
  some (.double (if negative then -magnitude else magnitude))

/-- An integer of at most 64 bits. Zero with a minus sign and what is too small
for a signed word are doubles. -/
def integerOrDouble? (negative : Bool) (significand : Nat) : Option Json :=
  if negative then
    if significand = 0 ∨ 0x8000000000000000 < significand then double? true significand 0
    else (Integer.ofInt? (-significand)).map .integer
  else (Integer.ofInt? significand).map .integer

/-- The value of exponent digits. All exponents from 2³¹ on are alike. -/
def exponentValue (digits : List Char) : Nat :=
  digits.foldl (fun n c => min (10 * n + digitValue c) 0x80000000) 0

/-- Reads the digits of an exponent, with their sign. -/
def readExponent (cs : List Char) : Option (Int × List Char) :=
  let (negative, cs) := match cs with
    | c :: rest => if c = '+' then (false, rest) else if c = '-' then (true, rest) else (false, cs)
    | [] => (false, [])
  let (digits, rest) := splitDigits cs
  if digits.isEmpty then none
  else
    let magnitude : Int := exponentValue digits
    some (if negative then -magnitude else magnitude, rest)

/-- Reads what may follow the digits of a number that is a double: an
exponent. -/
def readScaled (negative : Bool) (significand : Nat) (exponent : Int) (cs : List Char) :
    Option (Json × List Char) :=
  match cs with
  | [] => do some (← double? negative significand exponent, [])
  | c :: rest =>
    if c = 'e' ∨ c = 'E' then do
      let (shift, rest) ← readExponent rest
      some (← double? negative significand (exponent + shift), rest)
    else do some (← double? negative significand exponent, cs)

/-- Reads the digits after the point. The significand goes on absorbing
digits. -/
def readFraction (negative : Bool) (significand : Nat) (exponent : Int) (cs : List Char) :
    Option (Json × List Char) :=
  let (digits, rest) := splitDigits cs
  if digits.isEmpty then none
  else
    let (significand, left) := absorb significand digits
    readScaled negative significand (exponent - (digits.length - left.length : Nat)) rest

/-- Reads a number after its sign. -/
def readUnsigned (negative : Bool) (cs : List Char) : Option (Json × List Char) :=
  let (digits, rest) := splitDigits cs
  if digits.isEmpty then none
  else if digits.head? = some '0' ∧ 1 < digits.length then none
  else
    let (significand, left) := absorb 0 digits
    match rest with
    | [] =>
      if left.isEmpty then do some (← integerOrDouble? negative significand, rest)
      else readScaled negative significand left.length rest
    | c :: tail =>
      if c = '.' then readFraction negative significand left.length tail
      else if c = 'e' ∨ c = 'E' ∨ ¬ left.isEmpty then
        readScaled negative significand left.length rest
      else do some (← integerOrDouble? negative significand, rest)

/-- Reads a number. -/
def readNumber : List Char → Option (Json × List Char)
  | [] => none
  | c :: rest => if c = '-' then readUnsigned true rest else readUnsigned false (c :: rest)

/-! ## Values -/

/-- Reads one of the three words. -/
def readWord (cs : List Char) : Option (Json × List Char) :=
  if "null".toList.isPrefixOf cs then some (.null, cs.drop 4)
  else if "true".toList.isPrefixOf cs then some (.bool true, cs.drop 4)
  else if "false".toList.isPrefixOf cs then some (.bool false, cs.drop 5)
  else none

/-- Reads the key of a member and the colon after it. -/
def readKey (fuel : Nat) (cs : List Char) : Option (String × List Char) :=
  match skipBlanks cs with
  | [] => none
  | c :: rest =>
    if c = '"' then do
      let (key, rest) ← readCharacters fuel rest []
      match skipBlanks rest with
      | [] => none
      | c :: rest => if c = ':' then some (key, rest) else none
    else none

/-- The text after the closing mark, when that mark is what comes next. -/
def closing? (mark : Char) (cs : List Char) : Option (List Char) :=
  match skipBlanks cs with
  | [] => none
  | c :: rest => if c = mark then some rest else none

mutual

/-- Reads a value that holds at most `depth` levels of arrays and objects. `fuel`
exceeds twice the length of the text. -/
def readValue : (fuel depth : Nat) → List Char → Option (Json × List Char)
  | 0, _, _ => none
  | fuel + 1, depth, cs =>
    match skipBlanks cs with
    | [] => none
    | c :: rest =>
      if c = '"' then do
        let (s, rest) ← readCharacters fuel rest []
        some (.string s, rest)
      else if c = '[' then
        match depth with
        | 0 => none
        | depth + 1 =>
          match closing? ']' rest with
          | some rest => some (.array [], rest)
          | none => do
            let (elements, rest) ← readElements fuel depth rest
            some (.array elements, rest)
      else if c = '{' then
        match depth with
        | 0 => none
        | depth + 1 =>
          match closing? '}' rest with
          | some rest => some (ofMembers [], rest)
          | none => do
            let (members, rest) ← readMembers fuel depth rest
            some (ofMembers members, rest)
      else if c = '-' ∨ c.isDigit then readNumber (c :: rest)
      else readWord (c :: rest)

/-- Reads the elements of an array, of which there is at least one, and the
closing bracket. -/
def readElements : (fuel depth : Nat) → List Char → Option (List Json × List Char)
  | 0, _, _ => none
  | fuel + 1, depth, cs => do
    let (v, rest) ← readValue fuel depth cs
    match skipBlanks rest with
    | [] => none
    | c :: rest =>
      if c = ']' then some ([v], rest)
      else if c = ',' then do
        let (vs, rest) ← readElements fuel depth rest
        some (v :: vs, rest)
      else none

/-- Reads the members of an object, of which there is at least one, and the
closing brace. -/
def readMembers : (fuel depth : Nat) → List Char → Option (List (String × Json) × List Char)
  | 0, _, _ => none
  | fuel + 1, depth, cs => do
    let (key, rest) ← readKey fuel cs
    let (v, rest) ← readValue fuel depth rest
    match skipBlanks rest with
    | [] => none
    | c :: rest =>
      if c = '}' then some ([(key, v)], rest)
      else if c = ',' then do
        let (members, rest) ← readMembers fuel depth rest
        some ((key, v) :: members, rest)
      else none

end

/-- The deepest nesting of arrays and objects. -/
def deepest : Nat := 127

/-- Reads a text that holds one value and nothing else. -/
def ofChars? (cs : List Char) : Option Json := do
  let (v, rest) ← readValue (2 * cs.length + 2) deepest cs
  if (skipBlanks rest).isEmpty then some v else none

/-- Reads a text that holds one value and nothing else. -/
def ofString? (s : String) : Option Json := ofChars? s.toList

end MallocLayer.Json
