import Abacus.Binary64.Arithmetic

/-!
# Decimals and binary64

A decimal is a natural number times a power of ten. Reading takes the nearest
double. Writing takes the decimal with the fewest digits that reads back, and
of these the one nearest to the value: the grids `10^p` are tried from the
coarsest on, and the first that meets the interval of values that round to the
double gives the digits.

Numbers are written positionally, never with an exponent, so that what is
written can be typed back in. An integral value has no point, and a negative
sign is kept on a zero.

* `Binary64.ofDecimal`: the double nearest to a decimal.
* `Magnitude.shortest`: the shortest decimal that reads back.
* `Decimal.positional`: a decimal without an exponent.
* `Binary64.text`: the text of a number.
-/

namespace Abacus

/-- The number `digits · 10^exponent`. -/
structure Decimal where
  digits : Nat
  exponent : Int
deriving DecidableEq

namespace Binary64

/-- The double nearest to a decimal. -/
def ofDecimal (neg : Bool) (d : Decimal) : Binary64 :=
  if 0 ≤ d.exponent then
    round neg (d.digits * Nat.pow 10 d.exponent.toNat * unitsOfOne) 1
  else round neg (d.digits * unitsOfOne) (Nat.pow 10 (-d.exponent).toNat)

end Binary64

namespace Magnitude

/-! ## The interval that rounds to a magnitude

Its ends lie half way to the neighbours. Below a power of two the neighbour is
twice as near. Everything is counted in quarter units, `2^-1076`, so that the
ends are whole numbers. -/

/-- The number of quarter units in one. -/
def quartersOfOne : Nat := 4 * Binary64.unitsOfOne

/-- The magnitude in quarter units. -/
def quarters (m : Magnitude) : Nat := 4 * m.units

/-- The lower end of the interval, in quarter units. -/
def lower (m : Magnitude) : Nat :=
  let gap := Nat.pow 2 m.exp
  m.quarters - (if m.mant = 0x10000000000000 ∧ 0 < m.exp then gap else 2 * gap)

/-- The upper end of the interval, in quarter units. -/
def upper (m : Magnitude) : Nat := m.quarters + 2 * Nat.pow 2 m.exp

/-- Does `num / den` quarter units round to the magnitude? The ends belong to
    the interval when the significand is even. -/
def covers (m : Magnitude) (num den : Nat) : Bool :=
  if m.mant % 2 = 0 then m.lower * den ≤ num && num ≤ m.upper * den
  else m.lower * den < num && num < m.upper * den

/-! ## The shortest decimal -/

/-- `k · 10^p` as a quotient counted in quarter units. -/
def gridPoint (p : Int) (k : Nat) : Nat × Nat :=
  (k * (Nat.pow 10 p.toNat * quartersOfOne), Nat.pow 10 (-p).toNat)

/-- The multiple of `10^p` nearest to the magnitude among its two neighbours on
    that grid that read back; of two as near, the even one. -/
def onGrid (m : Magnitude) (p : Int) : Option Nat :=
  let step := Nat.pow 10 p.toNat * quartersOfOne
  let scaled := m.quarters * Nat.pow 10 (-p).toNat
  let below := scaled / step
  let reads (k : Nat) : Bool := m.covers (gridPoint p k).1 (gridPoint p k).2
  match reads below, reads (below + 1) with
  | true, true => some (roundDiv scaled step)
  | true, false => some below
  | false, true => some (below + 1)
  | false, false => none

/-- Searches the grids `10^p` from `p = n - 1074` down. On the last one every
    magnitude lies exactly. -/
def shortestFrom (m : Magnitude) : Nat → Decimal
  | 0 => ⟨m.units * Nat.pow 5 1074, -1074⟩
  | n + 1 =>
    let p : Int := ((n + 1 : Nat) : Int) - 1074
    match m.onGrid p with
    | some k => ⟨k, p⟩
    | none => shortestFrom m n

/-- The decimal with the fewest digits that reads back as the magnitude, and the
    nearest of these. No grid coarser than ten to the number of integer digits
    meets the interval. -/
def shortest (m : Magnitude) : Decimal :=
  if m.mant = 0 then ⟨0, 0⟩
  else m.shortestFrom (1074 + (Nat.toDigits 10 (m.units / Binary64.unitsOfOne)).length)

end Magnitude

/-! ## Text -/

/-- Writes a decimal without an exponent; a proper fraction starts with `0.`. -/
def Decimal.positional (d : Decimal) : List Char :=
  let digits := Nat.toDigits 10 d.digits
  if 0 ≤ d.exponent then digits ++ List.replicate d.exponent.toNat '0'
  else
    let places := (-d.exponent).toNat
    if places < digits.length then
      digits.take (digits.length - places) ++ '.' :: digits.drop (digits.length - places)
    else '0' :: '.' :: List.replicate (places - digits.length) '0' ++ digits

namespace Binary64

/-- The characters of a number (`format_number`). -/
def chars : Binary64 → List Char
  | .finite neg m => (if neg then ['-'] else []) ++ m.shortest.positional
  | .infinite neg => (if neg then ['-'] else []) ++ ['i', 'n', 'f']
  | .nan => ['n', 'a', 'n']

/-- The text of a number (`format_number`). -/
def text (v : Binary64) : String := String.ofList v.chars

end Binary64

end Abacus
