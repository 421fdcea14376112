import Telecontrol.Layout

/-!
# Short floating point numbers

The four-octet binary floating point format. Values travel as they are, not-a-numbers included; where
a value has to be computed with, it is done in exact integer arithmetic.

* `ShortFloat`: the bits of a number; `ShortFloat.datum` is what they mean. A finite magnitude is a
  whole number of units, and a unit is the smallest positive number of the format.
* `ShortFloat.ofRatio`: the nearest number of the format to a quotient, ties to even.
* `ShortFloat.Datum.roundAway`: the nearest integer, ties away from zero.
-/

namespace Telecontrol

/-- A number in the four-octet binary floating point format, as bits. -/
structure ShortFloat where
  bits : UInt32
  deriving DecidableEq, Repr, Inhabited

namespace ShortFloat

def unitsPerOne : Nat := Nat.pow 2 149

def signBit : Nat := 0x80000000

/-- How many values the fraction below the exponent has. -/
def fractions : Nat := 0x800000

/-- The value of a number; a magnitude counts units of the smallest positive number. -/
inductive Datum where
  | nan
  | infinite (negative : Bool)
  | finite (negative : Bool) (units : Nat)
  deriving DecidableEq, Repr, Inhabited

def datum (f : ShortFloat) : Datum :=
  let n := f.bits.toNat
  let negative := decide (signBit ≤ n)
  let exponent := n / fractions % 256
  let fraction := n % fractions
  if exponent = 255 then
    if fraction = 0 then .infinite negative else .nan
  else if exponent = 0 then .finite negative fraction
  else .finite negative ((fractions + fraction) * Nat.pow 2 (exponent - 1))

/-- The integer nearest to `num / den`, a tie going to the even neighbour. -/
def divEven (num den : Nat) : Nat :=
  let q := num / den
  let r := num % den
  if 2 * r < den then q
  else if den < 2 * r then q + 1
  else if q % 2 = 0 then q else q + 1

/-- The integer nearest to `num / den`, a tie going up. -/
def divUp (num den : Nat) : Nat := (2 * num + den) / (2 * den)

/-- The magnitude nearest to `num / den` units that has a significand of 24 bits, as the bits of the
format without the sign. -/
def magnitudeBits (num den : Nat) : Nat :=
  let shift := Nat.log2 (num / den) + 1 - 24
  let bits := shift * fractions + divEven num (den * Nat.pow 2 shift)
  min bits (255 * fractions)

/-- The number nearest to `num / den` units with the given sign, a tie going to the even neighbour. -/
def ofUnits (negative : Bool) (num den : Nat) : ShortFloat :=
  ⟨UInt32.ofNat (magnitudeBits num den + if negative then signBit else 0)⟩

/-- The number nearest to `num / den` with the given sign, a tie going to the even neighbour. -/
def ofRatio (negative : Bool) (num den : Nat) : ShortFloat :=
  ofUnits negative (num * unitsPerOne) den

/-- The integer nearest to a value, a tie going away from zero; not-a-number counts as zero and an
infinity as a value beyond the format. -/
def Datum.roundAway : Datum → Int
  | nan => 0
  | infinite negative =>
    let beyond : Int := Nat.pow 2 128
    if negative then -beyond else beyond
  | finite negative units =>
    let n : Int := divUp units unitsPerOne
    if negative then -n else n

def layout : Layout ShortFloat := Layout.word32.map ShortFloat.mk ShortFloat.bits

end ShortFloat

end Telecontrol
