import MallocLayer.ExportPrefix
import MallocLayer.Proofs.JsonRoundTrip
import MallocLayer.Text.Lines

/-!
# Tokens of source texts

A reader for source texts of the plain kind that a build generates: words, string
literals and marks, with blanks and line comments between them. What it does not know it
refuses, so that no literal is read for another: raw strings and identifiers, literals of
characters, comments that end before the line does, and of the escapes all but those that
quoting writes.

The reader goes from place to place, one character a step, so that a text is read piece
by piece (`run_append`). Quoted text of any kind is read back (`run_quoted`).
-/

namespace MallocLayer.Source

/-! ## 1. The reader -/

inductive Token where
  /-- Letters, digits and underscores. -/
  | word (text : String)
  /-- A string literal, with what it stands for. -/
  | literal (text : String)
  | mark (c : Char)
deriving DecidableEq, Repr

/-- Where in a text the reader is. Characters that were read are held in reverse. -/
inductive Place where
  | code
  | word (read : List Char)
  /-- Behind a slash that may begin a comment. -/
  | slash
  | comment
  | literal (read : List Char)
  /-- Behind a backslash in a literal. -/
  | escape (read : List Char)
  /-- In front of the brace that opens a code point. -/
  | brace (read : List Char)
  | codePoint (read digits : List Char)
deriving DecidableEq, Repr

/-- The character of an escape of one letter. -/
def shortEscape? (c : Char) : Option Char :=
  if c = 't' then some '\t'
  else if c = 'r' then some '\r'
  else if c = 'n' then some '\n'
  else if c = '0' then some '\x00'
  else if c = '\\' ∨ c = '"' ∨ c = '\'' then some c
  else none

/-- The number that hexadecimal digits write, going on from `n`. -/
def hexNumber? (n : Nat) : List Char → Option Nat
  | [] => some n
  | c :: rest => (Json.hexValue? c).bind fun digit => hexNumber? (16 * n + digit) rest

/-- The character of a code point. One to six digits may write it. -/
def codePoint? (digits : List Char) : Option Char :=
  if digits = [] ∨ 6 < digits.length then none
  else (hexNumber? 0 digits).bind fun n => if n.isValidChar then some (Char.ofNat n) else none

namespace Place

/-- A step outside of words, literals and comments. -/
def nextInCode (c : Char) : Option (Place × List Token) :=
  if Text.isBlank c then some (.code, [])
  else if c = '"' then some (.literal [], [])
  else if c = '/' then some (.slash, [])
  else if c = '\'' then none
  else if isIdentifierChar c then some (.word [c], [])
  else some (.code, [.mark c])

/-- One character read: the place behind it, and the tokens that it ends. -/
def next : Place → Char → Option (Place × List Token)
  | .code, c => nextInCode c
  | .word read, c =>
    if isIdentifierChar c then some (.word (c :: read), [])
    -- The word would belong to a raw string, or to a literal of another type.
    else if c = '"' ∨ c = '#' then none
    else (nextInCode c).map fun (place, tokens) =>
      (place, .word (String.ofList read.reverse) :: tokens)
  | .slash, c => if c = '/' then some (.comment, []) else none
  | .comment, c => some (if c = '\n' then .code else .comment, [])
  | .literal read, c =>
    if c = '"' then some (.code, [.literal (String.ofList read.reverse)])
    else if c = '\\' then some (.escape read, [])
    -- A line may end in two characters, but the literal then holds only the second.
    else if c = '\r' then none
    else some (.literal (c :: read), [])
  | .escape read, c =>
    if c = 'u' then some (.brace read, [])
    else (shortEscape? c).map fun escaped => (.literal (escaped :: read), [])
  | .brace read, c => if c = '{' then some (.codePoint read [], []) else none
  | .codePoint read digits, c =>
    if c = '}' then (codePoint? digits.reverse).map fun point => (.literal (point :: read), [])
    else some (.codePoint read (c :: digits), [])

/-- The tokens that the end of the text ends, if it may end here. -/
def atEnd : Place → Option (List Token)
  | .code | .comment => some []
  | .word read => some [.word (String.ofList read.reverse)]
  | _ => none

end Place

/-- The characters read from a place on: the place behind them, and the tokens that end
in them. -/
def run : Place → List Char → Option (Place × List Token)
  | place, [] => some (place, [])
  | place, c :: rest =>
    (place.next c).bind fun (between, tokens) =>
      (run between rest).map fun (last, more) => (last, tokens ++ more)

/-- The tokens of a text. -/
def tokens (text : String) : Option (List Token) :=
  (run .code text.toList).bind fun (place, tokens) => place.atEnd.map (tokens ++ ·)

/-! ## 2. Texts read piece by piece -/

variable {start between last : Place} {front back : List Char} {s t : List Token}

theorem run_cons {c : Char} {rest : List Char} (step : start.next c = some (between, s))
    (rest_read : run between rest = some (last, t)) :
    run start (c :: rest) = some (last, s ++ t) := by
  simp only [run, step, rest_read, Option.bind_some, Option.map_some]

theorem run_append (front_read : run start front = some (between, s))
    (back_read : run between back = some (last, t)) :
    run start (front ++ back) = some (last, s ++ t) := by
  induction front generalizing start s with
  | nil =>
    cases front_read
    exact back_read
  | cons c rest ih =>
    obtain ⟨⟨middle, ended⟩, step, read⟩ := Option.bind_eq_some_iff.1 front_read
    obtain ⟨⟨_, more⟩, rest_read, same⟩ := Option.map_eq_some_iff.1 read
    cases same
    rw [List.append_assoc]
    exact run_cons step (ih rest_read)

/-- A text that is given letter by letter is read without its encoding. -/
theorem run_ofList {cs more : List Char} (read : run start (cs ++ more) = some (last, s)) :
    run start ((String.ofList cs).toList ++ more) = some (last, s) := by
  rwa [String.toList_ofList]

theorem run_flatMap {α : Type} {xs : List α} {f : α → List Char} {g : α → List Token}
    (each : ∀ x ∈ xs, run .code (f x) = some (.code, g x)) :
    run .code (xs.flatMap f) = some (.code, xs.flatMap g) := by
  induction xs with
  | nil => rfl
  | cons x rest ih =>
    rw [List.flatMap_cons, List.flatMap_cons]
    exact run_append (each x List.mem_cons_self)
      (ih fun y member => each y (List.mem_cons_of_mem _ member))

theorem tokens_eq {text : String} (read : run .code text.toList = some (.code, s)) :
    tokens text = some s := by
  rw [tokens, read, Option.bind_some]
  exact congrArg some (List.append_nil s)

/-! ## 3. Quoted text -/

/-- Characters without a meaning of their own stand for themselves. -/
theorem run_plain {cs : List Char} (plain : ∀ c ∈ cs, c ≠ '"' ∧ c ≠ '\\' ∧ c ≠ '\r')
    (read : List Char) : run (.literal read) cs = some (.literal (cs.reverse ++ read), []) := by
  induction cs generalizing read with
  | nil => rfl
  | cons c rest ih =>
    obtain ⟨quote, backslash, control⟩ := plain c List.mem_cons_self
    have step : Place.next (.literal read) c = some (.literal (c :: read), []) := by
      rw [Place.next, if_neg quote, if_neg backslash, if_neg control]
    rw [List.reverse_cons, List.append_assoc]
    exact run_cons step (ih (fun d member => plain d (List.mem_cons_of_mem _ member)) _)

theorem hexNumber?_append (n : Nat) (digits : List Char) (c : Char) :
    hexNumber? n (digits ++ [c]) =
      (hexNumber? n digits).bind fun m => (Json.hexValue? c).map (16 * m + ·) := by
  induction digits generalizing n with
  | nil => exact (Option.map_eq_bind (x := Json.hexValue? c)).symm
  | cons d rest ih =>
    rw [List.cons_append, hexNumber?, hexNumber?, Option.bind_assoc]
    exact congrArg _ (funext fun digit => ih _)

theorem hexNumber?_hexDigits (n : Nat) : hexNumber? 0 (Text.hexDigits n) = some n := by
  induction n using Nat.strongRecOn with
  | ind n ih =>
    have value : Json.hexValue? (n % 16).digitChar = some (n % 16) := Json.hexValue?_hexDigit n
    by_cases small : n < 16
    · rw [Nat.mod_eq_of_lt small] at value
      rw [Text.hexDigits, Nat.toDigits_of_lt_base small, hexNumber?, value, Option.bind_some,
        Nat.mul_zero, Nat.zero_add, hexNumber?]
    · have read := ih (n / 16) (Nat.div_lt_self (by omega) (by decide))
      rw [Text.hexDigits] at read
      rw [Text.hexDigits, Nat.toDigits_of_base_le (by decide) (Nat.le_of_not_lt small),
        hexNumber?_append, read, Option.bind_some, value, Option.map_some, Nat.div_add_mod]

/-- A character that has no value ends no number. -/
theorem not_mem_of_hexNumber? {n m : Nat} {digits : List Char} {c : Char}
    (number : hexNumber? n digits = some m) (other : Json.hexValue? c = none) : c ∉ digits := by
  induction digits generalizing n with
  | nil => exact List.not_mem_nil
  | cons d rest ih =>
    obtain ⟨value, digit, read⟩ := Option.bind_eq_some_iff.1 number
    have apart : c ≠ d := by
      rintro rfl
      cases other.symm.trans digit
    exact List.not_mem_cons_of_ne_of_not_mem apart (ih read)

theorem codePoint?_hexDigits (c : Char) : codePoint? (Text.hexDigits c.toNat) = some c := by
  have valid : c.toNat.isValidChar := c.valid
  have small : c.toNat < 16 ^ 6 := by
    rcases valid with low | ⟨-, high⟩ <;> omega
  have few : ¬ (Text.hexDigits c.toNat = [] ∨ 6 < (Text.hexDigits c.toNat).length) := by
    rw [not_or, Nat.not_lt]
    exact ⟨Nat.toDigits_ne_nil, (Nat.length_toDigits_le_iff (by decide) (by decide)).2 small⟩
  rw [codePoint?, if_neg few, hexNumber?_hexDigits, Option.bind_some, if_pos valid,
    Char.ofNat_toNat]

/-- Digits are read until the brace closes. -/
theorem run_codePoint {digits : List Char} (plain : '}' ∉ digits) (read before : List Char) :
    run (.codePoint read before) digits =
      some (.codePoint read (digits.reverse ++ before), []) := by
  induction digits generalizing before with
  | nil => rfl
  | cons c rest ih =>
    rw [List.mem_cons, not_or] at plain
    have step : Place.next (.codePoint read before) c = some (.codePoint read (c :: before), []) :=
      if_neg (Ne.symm plain.1)
    rw [List.reverse_cons, List.append_assoc]
    exact run_cons step (ih plain.2 _)

/-- What is written for a character inside quotes is read as that character. -/
theorem run_quoteChar (c : Char) (read : List Char) :
    run (.literal read) (Text.quoteChar '"' c) = some (.literal (c :: read), []) := by
  unfold Text.quoteChar
  iterate 4
    split
    · next same =>
      subst same
      rfl
  next control _ _ =>
  split
  · next escaped =>
    rcases escaped with rfl | rfl <;> rfl
  next plain =>
  rw [not_or] at plain
  split
  · exact run_plain (by rintro _ (_ | ⟨_, ⟨⟩⟩); exact ⟨plain.2, plain.1, control⟩) read
  · have brace : '}' ∉ Text.hexDigits c.toNat :=
      not_mem_of_hexNumber? (hexNumber?_hexDigits c.toNat) rfl
    have digits := run_codePoint brace read []
    rw [List.append_nil] at digits
    have step : Place.next (.codePoint read (Text.hexDigits c.toNat).reverse) '}' =
        some (.literal (c :: read), []) := by
      rw [Place.next, if_pos rfl, List.reverse_reverse, codePoint?_hexDigits]
      rfl
    have closed : run (.codePoint read (Text.hexDigits c.toNat).reverse) ['}'] =
        some (.literal (c :: read), []) := run_cons step rfl
    have opened : run (.literal read) ['\\', 'u', '{'] = some (.codePoint read [], []) := rfl
    exact run_append (run_append opened digits) closed

theorem run_flatMap_quoteChar (cs read : List Char) :
    run (.literal read) (cs.flatMap (Text.quoteChar '"')) =
      some (.literal (cs.reverse ++ read), []) := by
  induction cs generalizing read with
  | nil => rfl
  | cons c rest ih =>
    rw [List.flatMap_cons, List.reverse_cons, List.append_assoc]
    exact run_append (run_quoteChar c read) (ih _)

theorem run_open : run .code ['"'] = some (.literal [], []) := rfl

theorem run_close (read : List Char) :
    run (.literal read) ['"'] = some (.code, [.literal (String.ofList read.reverse)]) := rfl

theorem run_quoted (text : String) :
    run .code (Text.quoted text).toList = some (.code, [.literal text]) := by
  have inside := run_append (run_flatMap_quoteChar text.toList []) (run_close _)
  rw [List.append_nil, List.reverse_reverse, String.ofList_toList] at inside
  rw [Text.quoted, String.toList_ofList]
  exact run_append run_open inside

-- What stands in a comment is not read, and what the reader does not know is refused.
example : tokens "x = \"a\\n\"; // \"b\"" =
    some [.word "x", .mark '=', .literal "a\n", .mark ';'] := rfl

example : tokens "r\"a\\n\"" = none := rfl

/-! ## 4. The literals of a text -/

def Token.literal? : Token → Option String
  | .literal text => some text
  | _ => none

/-- The texts of the literals, in order. -/
def literals (all : List Token) : List String := all.filterMap Token.literal?

/-- The text is read to its end, and the literals in it are these. -/
def Holds (text : List Char) (found : List String) : Prop :=
  ∃ s, run .code text = some (.code, s) ∧ literals s = found

theorem Holds.append {front back : List Char} {found more : List String}
    (front_holds : Holds front found) (back_holds : Holds back more) :
    Holds (front ++ back) (found ++ more) := by
  obtain ⟨s, front_read, rfl⟩ := front_holds
  obtain ⟨t, back_read, rfl⟩ := back_holds
  exact ⟨s ++ t, run_append front_read back_read, List.filterMap_append⟩

theorem Holds.ofList {cs more : List Char} {found : List String}
    (holds : Holds (cs ++ more) found) : Holds ((String.ofList cs).toList ++ more) found := by
  rwa [String.toList_ofList]

theorem Holds.literals_eq {text : String} {found : List String} (holds : Holds text.toList found) :
    (tokens text).map literals = some found := by
  obtain ⟨s, read, rfl⟩ := holds
  rw [tokens_eq read, Option.map_some]

theorem holds_quoted (text : String) : Holds (Text.quoted text).toList [text] :=
  ⟨_, run_quoted text, rfl⟩

/-- Quoted texts in a list are read as its members. -/
theorem holds_intercalate (texts : List String) :
    Holds (", ".intercalate (texts.map Text.quoted)).toList texts := by
  induction texts with
  | nil => exact ⟨[], rfl, rfl⟩
  | cons text rest ih =>
    cases rest with
    | nil => exact holds_quoted text
    | cons next rest =>
      have comma : Holds ", ".toList [] := ⟨_, rfl, rfl⟩
      rw [List.map_cons, List.map_cons, String.intercalate_cons_cons, String.toList_append,
        String.toList_append]
      exact ((holds_quoted text).append comma).append ih

end MallocLayer.Source
