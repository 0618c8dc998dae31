set_option autoImplicit false

namespace SqlReader

/-- A finite number is `significand * 2 ^ exponent` with the significand below 2^53 and the exponent
from -1074 to 971; below 2^52 the significand goes with the least exponent only. -/
inductive Binary64
  | nan
  | infinity (negative : Bool)
  | finite (negative : Bool) (significand : Nat) (exponent : Int)
deriving DecidableEq

namespace Binary64

def leastExponent : Int := -1074

def greatestExponent : Int := 971

def zero (negative : Bool) : Binary64 := .finite negative 0 leastExponent

def roundHalfEven (numerator denominator : Nat) : Nat :=
  let quotient := numerator / denominator
  let remainder := numerator % denominator
  if 2 * remainder < denominator then quotient
  else if denominator < 2 * remainder then quotient + 1
  else quotient + quotient % 2

def scale (numerator denominator : Nat) (exponent : Int) : Nat × Nat :=
  (numerator * Nat.pow 2 exponent.toNat, denominator * Nat.pow 2 (-exponent).toNat)

def exponentFor (numerator denominator : Nat) : Int :=
  let guess := (numerator.log2 : Int) - denominator.log2 - 53
  let scaled := scale numerator denominator (-guess)
  max leastExponent (if scaled.1 / scaled.2 < Nat.pow 2 53 then guess else guess + 1)

def ofQuotient (negative : Bool) (numerator denominator : Nat) : Binary64 :=
  if numerator = 0 then zero negative
  else
    let exponent := exponentFor numerator denominator
    let scaled := scale numerator denominator (-exponent)
    let rounded := roundHalfEven scaled.1 scaled.2
    let carried := if rounded = Nat.pow 2 53 then (Nat.pow 2 52, exponent + 1) else (rounded, exponent)
    if greatestExponent < carried.2 then .infinity negative
    else .finite negative carried.1 carried.2

-- The leading bit of a 53-bit significand is not stored; it carries into the field of the exponent.
def bits : Binary64 → UInt64
  | nan => 0x7ff8000000000000
  | infinity negative => sign negative + 0x7ff0000000000000
  | finite negative significand exponent =>
    sign negative + UInt64.ofNat ((exponent - leastExponent).toNat * Nat.pow 2 52 + significand)
where
  sign (negative : Bool) : UInt64 := if negative then 0x8000000000000000 else 0

end Binary64
end SqlReader
