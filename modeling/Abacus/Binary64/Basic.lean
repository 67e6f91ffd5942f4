/-!
# Binary64 numbers

The values of the IEEE 754 binary64 format, with all NaNs identified. A finite
value is a sign and a magnitude, and a magnitude is `mant · 2^exp` units of
`2^-1074`, the smallest positive double. The invariants make the
representation unique, so structural equality is equality bit for bit.

* `Magnitude.units`: the exact value of a magnitude, as a count of units.
* `Binary64.ofBits`, `Binary64.toBits`: the interchange encoding.
* `Binary64.same`: the numeric comparison, under which `0` and `-0` agree and
  a NaN differs from itself.
-/

namespace Abacus

/-- A finite binary64 value without its sign. The significand has 53 bits, the
    highest of them set unless the value is as small as can be. -/
structure Magnitude where
  mant : Nat
  exp : Nat
  mant_lt : mant < 0x20000000000000
  exp_le : exp ≤ 2045
  normal : exp = 0 ∨ 0x10000000000000 ≤ mant
deriving DecidableEq

namespace Magnitude

/-- The exact value, counted in units of `2^-1074`. -/
def units (m : Magnitude) : Nat := m.mant * Nat.pow 2 m.exp

/-- The magnitude of both zeros. -/
def zero : Magnitude := ⟨0, 0, by decide, by decide, .inl rfl⟩

/-- Rebuilds a magnitude from its two parts, if they are canonical. -/
def ofParts? (mant exp : Nat) : Option Magnitude :=
  if h : mant < 0x20000000000000 ∧ exp ≤ 2045 ∧ (exp = 0 ∨ 0x10000000000000 ≤ mant) then
    some ⟨mant, exp, h.1, h.2.1, h.2.2⟩
  else none

/-- The place of a magnitude in the increasing list of all magnitudes, which is
    also its encoding without the sign bit. -/
def ordinal (m : Magnitude) : Nat := m.exp * 0x10000000000000 + m.mant

/-- The magnitude at a place of the increasing list, if the list is that long. -/
def ofOrdinal? (k : Nat) : Option Magnitude :=
  if k < 0x20000000000000 then ofParts? k 0
  else ofParts? (k % 0x10000000000000 + 0x10000000000000) (k / 0x10000000000000 - 1)

end Magnitude

/-- A binary64 value; all NaNs are one. -/
inductive Binary64
  | finite (neg : Bool) (mag : Magnitude)
  | infinite (neg : Bool)
  | nan
deriving DecidableEq

namespace Binary64

/-- The number of units in one. -/
def unitsOfOne : Nat := Nat.pow 2 1074

/-- Positive zero. -/
def zero : Binary64 := .finite false .zero

instance : Inhabited Binary64 := ⟨zero⟩

/-- A finite value, or the infinity of that sign where the parts fit no finite value. -/
def ofParts (neg : Bool) (mant exp : Nat) : Binary64 :=
  match Magnitude.ofParts? mant exp with
  | some m => .finite neg m
  | none => .infinite neg

/-- Neither an infinity nor a NaN. -/
def isFinite : Binary64 → Bool
  | .finite _ _ => true
  | _ => false

/-- A zero of either sign. -/
def isZero : Binary64 → Bool
  | .finite _ m => m.mant == 0
  | _ => false

/-- The sign bit is set; a NaN has none. -/
def signBit : Binary64 → Bool
  | .finite neg _ => neg
  | .infinite neg => neg
  | .nan => false

/-- The same value with the sign bit clear. -/
def abs : Binary64 → Binary64
  | .finite _ m => .finite false m
  | .infinite _ => .infinite false
  | .nan => .nan

/-- Numeric equality: the zeros agree, and a NaN equals nothing. -/
def same : Binary64 → Binary64 → Bool
  | .finite s m, .finite t n => (m.mant == 0 && n.mant == 0) || (s == t && m == n)
  | .infinite s, .infinite t => s == t
  | _, _ => false

/-! ## Interchange encoding -/

/-- The sign bit. -/
def signPlace : Nat := 0x8000000000000000

/-- The place after all magnitudes, which is that of an infinity. -/
def infinityPlace : Nat := 0x7FF0000000000000

/-- The place of the quiet NaN without a payload. -/
def quietPlace : Nat := 0x7FF8000000000000

/-- Decodes the 64 bits of a double: sign, then the place of the magnitude. -/
def ofBits (bits : UInt64) : Binary64 :=
  let neg := signPlace ≤ bits.toNat
  let place := bits.toNat % signPlace
  match Magnitude.ofOrdinal? place with
  | some m => .finite neg m
  | none => if place = infinityPlace then .infinite neg else .nan

/-- The 64 bits of a value; a NaN is the quiet one without a payload. -/
def toBits : Binary64 → UInt64
  | .finite neg m => UInt64.ofNat ((if neg then signPlace else 0) + m.ordinal)
  | .infinite neg => UInt64.ofNat ((if neg then signPlace else 0) + infinityPlace)
  | .nan => UInt64.ofNat quietPlace

end Binary64

end Abacus
