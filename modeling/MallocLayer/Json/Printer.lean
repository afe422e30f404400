import MallocLayer.Json
import MallocLayer.Decimal.Shortest

/-!
# Writing JSON

Two layouts: compact, on one line without blanks, and indented by two blanks a
level. Members are written in the order in which the value holds them. Inside
strings only the quote, the backslash and the characters below the space are
escaped.
-/

namespace MallocLayer.Json

/-- A hexadecimal digit, in lower case. -/
def hexDigit (n : Nat) : Char := Nat.digitChar (n % 16)

/-- A character as it stands inside a string. -/
def escapeChar (c : Char) : List Char :=
  if c = '"' then ['\\', '"']
  else if c = '\\' then ['\\', '\\']
  else if c = '\x08' then ['\\', 'b']
  else if c = '\x0c' then ['\\', 'f']
  else if c = '\n' then ['\\', 'n']
  else if c = '\r' then ['\\', 'r']
  else if c = '\t' then ['\\', 't']
  else if c.toNat < 0x20 then ['\\', 'u', '0', '0', hexDigit (c.toNat / 16), hexDigit c.toNat]
  else [c]

/-- A string with its quotes. -/
def renderString (s : String) : List Char := '"' :: s.toList.flatMap escapeChar ++ ['"']

/-- An integer in decimal. -/
def renderInteger (n : Integer) : List Char :=
  if n.value < 0 then '-' :: Nat.toDigits 10 n.value.natAbs else Nat.toDigits 10 n.value.natAbs

/-- The form of doubles: positional from 10⁻⁵ up to 10¹⁶, always with a
fraction; beyond, one digit before the point and a signed exponent. -/
def doubleFormat : Decimal.Format where
  leastPositional := -5
  greatestPositional := 15

mutual

/-- A value on one line. -/
def render : Json → List Char
  | .null => "null".toList
  | .bool b => (if b then "true" else "false").toList
  | .integer n => renderInteger n
  | .double x => Decimal.render doubleFormat x
  | .string s => renderString s
  | .array [] => ['[', ']']
  | .array (v :: vs) => '[' :: render v ++ renderElements vs
  | .object [] => ['{', '}']
  | .object ((k, v) :: ms) => '{' :: renderString k ++ ':' :: render v ++ renderMembers ms

/-- The elements after the first one, and the closing bracket. -/
def renderElements : List Json → List Char
  | [] => [']']
  | v :: vs => ',' :: render v ++ renderElements vs

/-- The members after the first one, and the closing brace. -/
def renderMembers : List (String × Json) → List Char
  | [] => ['}']
  | (k, v) :: ms => ',' :: renderString k ++ ':' :: render v ++ renderMembers ms

end

/-- A value on one line. -/
def compact (v : Json) : String := String.ofList (render v)

/-- A new line at the given depth. -/
def newline (depth : Nat) : List Char := '\n' :: List.replicate (2 * depth) ' '

mutual

/-- A value over several lines, at the given depth. -/
def renderIndented (depth : Nat) : Json → List Char
  | .array (v :: vs) =>
    '[' :: newline (depth + 1) ++ renderIndented (depth + 1) v ++ renderIndentedElements depth vs
  | .object ((k, v) :: ms) =>
    '{' :: newline (depth + 1) ++ renderString k ++ ':' :: ' ' :: renderIndented (depth + 1) v ++
      renderIndentedMembers depth ms
  | v => render v

/-- The elements after the first one, and the closing bracket on its own line. -/
def renderIndentedElements (depth : Nat) : List Json → List Char
  | [] => newline depth ++ [']']
  | v :: vs =>
    ',' :: newline (depth + 1) ++ renderIndented (depth + 1) v ++ renderIndentedElements depth vs

/-- The members after the first one, and the closing brace on its own line. -/
def renderIndentedMembers (depth : Nat) : List (String × Json) → List Char
  | [] => newline depth ++ ['}']
  | (k, v) :: ms =>
    ',' :: newline (depth + 1) ++ renderString k ++ ':' :: ' ' :: renderIndented (depth + 1) v ++
      renderIndentedMembers depth ms

end

/-- A value over several lines. -/
def indented (v : Json) : String := String.ofList (renderIndented 0 v)

end MallocLayer.Json
