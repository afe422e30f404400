/-!
# Lines and blanks

Lines end at a line feed. Blanks are the characters with the Unicode property
White_Space; trimming removes them at both ends, so a carriage return in front
of the line feed goes as well.
-/

namespace MallocLayer.Text

/-- Whether the character is white space. -/
def isBlank (c : Char) : Bool :=
  let n := c.toNat
  (9 ≤ n && n ≤ 13) || n == 0x20 || n == 0x85 || n == 0xa0 || n == 0x1680 ||
    (0x2000 ≤ n && n ≤ 0x200a) || n == 0x2028 || n == 0x2029 || n == 0x202f || n == 0x205f ||
    n == 0x3000

/-- Removes blanks at both ends. -/
def trim (cs : List Char) : List Char :=
  ((cs.dropWhile isBlank).reverse.dropWhile isBlank).reverse

/-- The lines of a text, without their line feeds. -/
def lines (cs : List Char) : List (List Char) :=
  go cs [] []
where
  /-- `line` holds the characters of the current line in reverse, and `done` the
  lines before it in reverse. -/
  go : List Char → (line : List Char) → (done : List (List Char)) → List (List Char)
    | [], line, done => (line.reverse :: done).reverse
    | c :: rest, line, done =>
      if c = '\n' then go rest [] (line.reverse :: done) else go rest (c :: line) done

end MallocLayer.Text
