/-!
# Shortest decimals

The decimal with the fewest digits that reads back as the same double, and of
those the one nearest to it. A positive double is `m * 2 ^ q`; the reals that
round to it form an interval around it, whose ends belong to it when `m` is
even. For one digit, two digits and so on the two neighbours of the double on
that decimal grid are tested in exact arithmetic, and the first grid with a
point in the interval wins.
-/

namespace MallocLayer.Decimal

/-- A positive double `significand * 2 ^ exponent`. -/
structure Dyadic where
  significand : Nat
  exponent : Int
  /-- Whether the next smaller double is only half as far away as the next
  larger one. -/
  narrowBelow : Bool
deriving DecidableEq, Repr

/-- A decimal `digits * 10 ^ exponent`. -/
structure Scientific where
  digits : Nat
  exponent : Int
deriving DecidableEq, Repr

namespace Dyadic

/-- The double with the given bits, without its sign. Zero, infinity and NaN
are none. -/
def ofBits? (bits : UInt64) : Option Dyadic :=
  let fraction := (bits &&& 0xfffffffffffff).toNat
  let field := ((bits >>> 52) &&& 0x7ff).toNat
  if field = 2047 then none
  else if field = 0 then if fraction = 0 then none else some ⟨fraction, -1074, false⟩
  else some ⟨fraction + 0x10000000000000, (field : Int) - 1075, fraction == 0 && 1 < field⟩

/-- The numerator and denominator of a quarter of a unit in the last place. -/
def quarter (x : Dyadic) : Nat × Nat :=
  if 2 ≤ x.exponent then (Nat.pow 2 (x.exponent - 2).toNat, 1)
  else (1, Nat.pow 2 (2 - x.exponent).toNat)

/-- The decimal as a numerator over the denominator that `quarter` has, times
the power of ten that is returned with it. -/
def scaled (x : Dyadic) (d : Scientific) : Nat × Nat :=
  let (_, den) := x.quarter
  if 0 ≤ d.exponent then (d.digits * Nat.pow 10 d.exponent.toNat * den, 1)
  else (d.digits * den, Nat.pow 10 d.exponent.natAbs)

/-- The double in quarters of a unit in the last place. -/
def quarters (x : Dyadic) : Nat := 4 * x.significand

/-- The lower end of the interval, in quarters. -/
def low (x : Dyadic) : Nat := x.quarters - if x.narrowBelow then 1 else 2

/-- The upper end of the interval, in quarters. -/
def high (x : Dyadic) : Nat := x.quarters + 2

/-- Whether the decimal rounds to the double. -/
def reads (x : Dyadic) (d : Scientific) : Bool :=
  let (num, _) := x.quarter
  let (value, ten) := x.scaled d
  let lowest := x.low * num * ten
  let highest := x.high * num * ten
  if x.significand % 2 = 0 then lowest ≤ value && value ≤ highest
  else lowest < value && value < highest

/-- The distance of the decimal from the double, in a unit that depends on the
exponent of the decimal only. -/
def distance (x : Dyadic) (d : Scientific) : Nat :=
  let (num, _) := x.quarter
  let (value, ten) := x.scaled d
  let exact := x.quarters * num * ten
  (value - exact) + (exact - value)

/-- The largest decimal with the given exponent that is at most the double. -/
def floorAt (x : Dyadic) (exponent : Int) : Scientific :=
  let (num, den) := x.quarter
  let value := x.quarters * num
  if 0 ≤ exponent then ⟨value / (den * Nat.pow 10 exponent.toNat), exponent⟩
  else ⟨value * Nat.pow 10 exponent.natAbs / den, exponent⟩

/-- The exponent of the first digit, found from above: at most `2 ^ 1024` is
below `10 ^ 309`. -/
def leadingExponent (x : Dyadic) : Int :=
  -- The number of bits gives the exponent up to one, and the division says which.
  let bits : Int := (x.significand.log2 : Int) + x.exponent
  let guess := bits * 30103 / 100000 + 1
  if (x.floorAt guess).digits = 0 then
    if (x.floorAt (guess - 1)).digits = 0 then guess - 2 else guess - 1
  else guess

/-- Of the two neighbours on a decimal grid, the one that reads back and is
nearest; of two equally near ones, the even one. -/
def onGrid? (x : Dyadic) (exponent : Int) : Option Scientific :=
  let below := x.floorAt exponent
  let above := { below with digits := below.digits + 1 }
  match x.reads below, x.reads above with
  | true, true =>
    let down := x.distance below
    let up := x.distance above
    if down < up ∨ (down = up ∧ below.digits % 2 = 0) then some below else some above
  | true, false => some below
  | false, true => some above
  | false, false => none

/-- The first grid with a decimal that reads back. Seventeen digits always
do. -/
def shortest (x : Dyadic) : Scientific :=
  let leading := x.leadingExponent
  ((List.range 17).findSome? fun (n : Nat) => x.onGrid? (leading - n)).getD (x.floorAt (leading - 16))

end Dyadic

/-- How decimals are laid out. -/
structure Format where
  /-- The least exponent of the first digit that is written positionally. -/
  leastPositional : Int
  /-- The greatest exponent of the first digit that is written positionally. -/
  greatestPositional : Int

/-- Lays out digits, the first of which stands for `10 ^ leading`. -/
def layout (format : Format) (digits : List Char) (leading : Int) : List Char :=
  if format.leastPositional ≤ leading ∧ leading ≤ format.greatestPositional then
    if leading < 0 then
      ['0', '.'] ++ List.replicate (leading.natAbs - 1) '0' ++ digits
    else
      let whole := leading.toNat + 1
      let fraction := digits.drop whole
      digits.take whole ++ List.replicate (whole - digits.length) '0' ++ '.' ::
        (if fraction.isEmpty then ['0'] else fraction)
  else
    let mark := ['e', if leading < 0 then '-' else '+']
    let exponent := mark ++ Nat.toDigits 10 leading.natAbs
    match digits with
    | first :: second :: rest => first :: '.' :: second :: rest ++ exponent
    | digits => digits ++ exponent

/-- The digits of a number without the zeros at its end. -/
def significantDigits (n : Nat) : List Char :=
  ((Nat.toDigits 10 n).reverse.dropWhile (· = '0')).reverse

/-- A finite double in its shortest form. -/
def render (format : Format) (x : Float) : List Char :=
  let bits := x.toBits
  let sign := if bits >>> 63 = 1 then ['-'] else []
  match Dyadic.ofBits? bits with
  | none => sign ++ ['0', '.', '0']
  | some dyadic =>
    let d := dyadic.shortest
    let leading := d.exponent + (Nat.toDigits 10 d.digits).length - 1
    sign ++ layout format (significantDigits d.digits) leading

end MallocLayer.Decimal
