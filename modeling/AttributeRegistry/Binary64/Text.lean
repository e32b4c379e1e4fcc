import AttributeRegistry.Binary64.Basic
import AttributeRegistry.Text.Inspect

/-!
# The text of a floating-point number

A number is written with the fewest decimal digits that read back as it, and among texts of that
length with the one closest to it.  The digits are found in exact arithmetic: of all decimal grids
from coarse to fine, the first that has a point within the range of reals that round to the
number.  Of the grid only the two neighbours of the number need a look.
-/

namespace AttributeRegistry.Binary64

/-- A positive number with the range of reals that round to it, all three over one denominator. -/
structure Neighbourhood where
  centre : Nat
  lower : Nat
  upper : Nat
  /-- The common denominator. -/
  den : Nat
  /-- Whether the ends belong to the range. -/
  closed : Bool

/-- The neighbourhood of a finite number other than zero, from its magnitude.  Its ends lie half
way to the adjacent numbers; below a power of two these are half as far apart. -/
def neighbourhood (magnitude : Nat) : Neighbourhood :=
  let exponent := magnitude >>> 52
  let fraction := magnitude % (1 <<< 52)
  let significand := if exponent = 0 then fraction else fraction + (1 <<< 52)
  let below := if fraction = 0 ∧ 1 < exponent then 1 else 2
  let scale := 1 <<< (exponent - 1)
  { centre := 4 * significand * scale
    lower := (4 * significand - below) * scale
    upper := (4 * significand + 2) * scale
    den := 1 <<< 1076
    closed := significand % 2 = 0 }

/-- How `d · 10 ^ p` compares with `num / den`. -/
def comparePoint (d : Nat) (p : Int) (num den : Nat) : Ordering :=
  compare (d * Nat.pow 10 p.toNat * den) (num * Nat.pow 10 (-p).toNat)

/-- Whether the point `d · 10 ^ p` reads back as the number. -/
def Neighbourhood.holds (n : Neighbourhood) (d : Nat) (p : Int) : Bool :=
  let low := comparePoint d p n.lower n.den
  let high := comparePoint d p n.upper n.den
  if n.closed then low.isGE && high.isLE else low.isGT && high.isLT

/-- The point of the grid of `10 ^ p` that reads back as the number, the nearer one of two; half
way between them the upper one. -/
def Neighbourhood.onGrid? (n : Neighbourhood) (p : Int) : Option Nat :=
  let down := n.centre * Nat.pow 10 (-p).toNat / (n.den * Nat.pow 10 p.toNat)
  match n.holds down p, n.holds (down + 1) p with
  | true, true => some (if (comparePoint (2 * down + 1) p (2 * n.centre) n.den).isGT
      then down else down + 1)
  | true, false => some down
  | false, true => some (down + 1)
  | false, false => none

/-- The first of `steps` grids that has a point, and the point; the grids get finer from
`10 ^ p` on. -/
def Neighbourhood.shortest (n : Neighbourhood) (p : Int) : Nat → Option (Nat × Int)
  | 0 => none
  | steps + 1 =>
    match n.onGrid? p with
    | some d => some (d, p)
    | none => n.shortest (p - 1) steps

/-- The digits of a number and the place of its decimal point, counted from the first digit. -/
def decimal (magnitude : Nat) : List Char × Int :=
  match (neighbourhood magnitude).shortest 309 640 with
  | none => (['0'], 1)
  | some (d, p) =>
    let digits := Nat.toDigits 10 d
    ((digits.reverse.dropWhile (· == '0')).reverse, digits.length + p)

/-- Writes digits with a decimal point at `point`, and at least one digit on each side of it. -/
def positional (digits : List Char) (point : Int) : List Char :=
  if point ≤ 0 then ['0', '.'] ++ List.replicate (-point).toNat '0' ++ digits
  else
    let whole := digits.take point.toNat
    let rest := digits.drop point.toNat
    whole ++ List.replicate (point.toNat - whole.length) '0' ++ '.' ::
      (if rest.isEmpty then ['0'] else rest)

/-- Writes digits with one of them before the decimal point, and a power of ten. -/
def scientific (digits : List Char) (point : Int) : List Char :=
  let rest := digits.drop 1
  digits.take 1 ++ (if rest.isEmpty then [] else '.' :: rest) ++ 'e' :: (point - 1).repr.toList

/-- A number is written with a power of ten when it is below `10 ^ -4` or from `10 ^ 16` on. -/
instance : Inspect Binary64 where
  inspect x :=
    let sign := if x.isNegative then ['-'] else []
    if x.isNaN then "NaN"
    else if x.magnitude = infinity then String.ofList (sign ++ ['i', 'n', 'f'])
    else if x.isZero then String.ofList (sign ++ ['0', '.', '0'])
    else
      let (digits, point) := decimal x.magnitude
      String.ofList (sign ++
        if -4 < point ∧ point ≤ 16 then positional digits point else scientific digits point)

end AttributeRegistry.Binary64
