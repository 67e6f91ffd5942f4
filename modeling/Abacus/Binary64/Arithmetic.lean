import Abacus.Binary64.Basic

/-!
# Arithmetic on binary64

One rounding serves reading, arithmetic and all else: the exact result is a
quotient of naturals counted in units of `2^-1074`, and `Binary64.round` takes
the nearest double, the one with the even significand when two are as near.

Sum, difference, product and quotient are the exact result, rounded once. The
cases with an infinity, a NaN or a zero divisor are those of IEEE 754, so no
operation fails: a non-zero value over zero is an infinity, and `0 / 0`,
`∞ - ∞`, `0 · ∞` and `∞ / ∞` are NaN.

* `roundDiv_cases`: the nearest integer to a quotient is its floor or the next
  integer, on the side of the remainder.
* `Binary64.round`: the nearest double.
* `Binary64.add`, `Binary64.sub`, `Binary64.mul`, `Binary64.div`: the operations.
-/

namespace Abacus

/-! ## Rounding to nearest, ties to even -/

/-- The integer nearest to `num / den`; a half goes to the even neighbour. -/
def roundDiv (num den : Nat) : Nat :=
  let floor := num / den
  let rest := num % den
  if 2 * rest < den then floor
  else if den < 2 * rest then floor + 1
  else if floor % 2 = 0 then floor
  else floor + 1

theorem roundDiv_cases (num den : Nat) :
    (roundDiv num den = num / den ∧ 2 * (num % den) ≤ den) ∨
      (roundDiv num den = num / den + 1 ∧ den ≤ 2 * (num % den)) := by
  unfold roundDiv
  dsimp only
  split
  · exact .inl ⟨rfl, by omega⟩
  · split
    · exact .inr ⟨rfl, by omega⟩
    · split
      · exact .inl ⟨rfl, by omega⟩
      · exact .inr ⟨rfl, by omega⟩

namespace Binary64

/-- The double nearest to `± num / den` units of `2^-1074`. The exponent is the
    least that leaves a significand of 53 bits; a significand that rounds up to
    the next power of two moves on to the next exponent. -/
def round (neg : Bool) (num den : Nat) : Binary64 :=
  let exp := Nat.log2 (num / den) - 52
  let mant := roundDiv num (den * Nat.pow 2 exp)
  if mant = 0x20000000000000 then ofParts neg 0x10000000000000 (exp + 1)
  else ofParts neg mant exp

/-! ## Operations -/

/-- The number of units of `2^-1074` with its sign. -/
def signedUnits (neg : Bool) (m : Magnitude) : Int :=
  if neg then -(m.units : Int) else (m.units : Int)

/-- The opposite value. -/
def neg : Binary64 → Binary64
  | .finite s m => .finite (!s) m
  | .infinite s => .infinite (!s)
  | .nan => .nan

/-- The sum. An exact zero is negative only when both terms are. -/
def add : Binary64 → Binary64 → Binary64
  | .nan, _ => .nan
  | _, .nan => .nan
  | .infinite s, .infinite t => if s = t then .infinite s else .nan
  | .infinite s, .finite _ _ => .infinite s
  | .finite _ _, .infinite t => .infinite t
  | .finite s m, .finite t n =>
    let sum := signedUnits s m + signedUnits t n
    if sum = 0 then .finite (s && t) .zero else round (decide (sum < 0)) sum.natAbs 1

/-- The difference. -/
def sub (a b : Binary64) : Binary64 := add a (neg b)

/-- The product. -/
def mul : Binary64 → Binary64 → Binary64
  | .nan, _ => .nan
  | _, .nan => .nan
  | .infinite s, .infinite t => .infinite (s != t)
  | .infinite s, .finite t n => if n.mant = 0 then .nan else .infinite (s != t)
  | .finite s m, .infinite t => if m.mant = 0 then .nan else .infinite (s != t)
  | .finite s m, .finite t n => round (s != t) (m.units * n.units) unitsOfOne

/-- The quotient (`ieee_truediv`, which refuses no divisor). -/
def div : Binary64 → Binary64 → Binary64
  | .nan, _ => .nan
  | _, .nan => .nan
  | .infinite _, .infinite _ => .nan
  | .infinite s, .finite t _ => .infinite (s != t)
  | .finite s _, .infinite t => .finite (s != t) .zero
  | .finite s m, .finite t n =>
    if n.mant = 0 then
      if m.mant = 0 then .nan else .infinite (s != t)
    else round (s != t) (m.units * unitsOfOne) n.units

instance : Add Binary64 := ⟨add⟩
instance : Sub Binary64 := ⟨sub⟩
instance : Mul Binary64 := ⟨mul⟩
instance : Div Binary64 := ⟨div⟩

end Binary64

end Abacus
