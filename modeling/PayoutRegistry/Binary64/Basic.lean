/-!
Binary floating point with 53 significant bits, held as exact integers.

A finite value is `± mantissa * 2 ^ exponent`. Every operation computes an exact quotient of naturals
and rounds it once, to the nearest representable value and to the even mantissa on a tie.
-/
namespace PayoutRegistry

/-- The nearest natural to `num / den`, the even one of two that are equally near. -/
def roundQuotient (num den : Nat) : Nat :=
  let q := num / den
  let r := num % den
  if 2 * r < den then q
  else if den < 2 * r then q + 1
  else if q % 2 = 0 then q else q + 1

/-- A binary64 value. Finite values have one form: either 53 bits of mantissa, or the least
exponent. -/
inductive Binary64 where
  | finite (negative : Bool) (mantissa : Nat) (exponent : Int)
  | infinite (negative : Bool)
  | nan
deriving DecidableEq, Repr, Inhabited

namespace Binary64

/-- The exponent of the least positive value. -/
def minExponent : Int := -1074

/-- The exponent of the greatest finite values. -/
def maxExponent : Int := 971

def zero (negative : Bool) : Binary64 := .finite negative 0 minExponent

/-- `num / den` in units of `2 ^ exponent`, rounded. -/
def scaled (num den : Nat) (exponent : Int) : Nat :=
  roundQuotient (num * Nat.pow 2 (-exponent).toNat) (den * Nat.pow 2 exponent.toNat)

/-- The exponent at which `num / den`, which is positive, has 53 bits before rounding. -/
def exponentOf (num den : Nat) : Int :=
  let guess : Int := (num.log2 : Int) - den.log2
  -- the quotient lies between `2 ^ (guess - 1)` and `2 ^ (guess + 1)`
  let reached := den * Nat.pow 2 guess.toNat ≤ num * Nat.pow 2 (-guess).toNat
  max minExponent ((if reached then guess else guess - 1) - 52)

/-- The value nearest to `± num / den`. A zero denominator is not meant. -/
def ofRatio (negative : Bool) (num den : Nat) : Binary64 :=
  if num = 0 then zero negative
  else
    let e := exponentOf num den
    let m := scaled num den e
    -- rounding up may have carried into a 54th bit
    let (m, e) := if m = Nat.pow 2 53 then (Nat.pow 2 52, e + 1) else (m, e)
    if maxExponent < e then .infinite negative else .finite negative m e

def ofNat (n : Nat) : Binary64 := ofRatio false n 1

def ofInt (n : Int) : Binary64 := ofRatio (decide (n < 0)) n.natAbs 1

/-- `± digits * 10 ^ exponent`, rounded. Exponents far outside the range of finite values are
answered without forming the power. -/
def ofDecimal (negative : Bool) (digits : Nat) (exponent : Int) : Binary64 :=
  let size : Int := (toString digits).length + exponent
  if digits = 0 ∨ size < -330 then zero negative
  else if 310 < size then .infinite negative
  else ofRatio negative (digits * Nat.pow 10 exponent.toNat) (Nat.pow 10 (-exponent).toNat)

/-- The magnitude of a finite value as numerator and denominator. -/
def ratio (mantissa : Nat) (exponent : Int) : Nat × Nat :=
  (mantissa * Nat.pow 2 exponent.toNat, Nat.pow 2 (-exponent).toNat)

/-- The quotient by a positive natural, rounded once. -/
def divNat (x : Binary64) (n : Nat) : Binary64 :=
  match x with
  | .finite negative m e =>
    let (num, den) := ratio m e
    ofRatio negative num (den * n)
  | x => x

/-- The product with a natural, rounded once. -/
def timesNat (x : Binary64) (n : Nat) : Binary64 :=
  match x with
  | .finite negative m e =>
    let (num, den) := ratio m e
    ofRatio negative (num * n) den
  | x => x

def signed (negative : Bool) (n : Nat) : Int := if negative then -n else n

/-- The integer part of a finite value, toward zero. -/
def truncate? : Binary64 → Option Int
  | .finite negative m e =>
    let (num, den) := ratio m e
    some (signed negative (num / den))
  | _ => none

/-- The greatest integer that a finite value reaches. -/
def floor? : Binary64 → Option Int
  | .finite negative m e =>
    let (num, den) := ratio m e
    some (Int.fdiv (signed negative num) den)
  | _ => none

/-- What a finite value has above the greatest integer that it reaches. -/
def fraction : Binary64 → Binary64
  | .finite negative m e =>
    let (num, den) := ratio m e
    ofRatio false (Int.fmod (signed negative num) den).toNat den
  | x => x

/-- The nearest natural to a magnitude, the greater one on a tie. -/
def roundAway? : Binary64 → Option Nat
  | .finite _ m e =>
    let (num, den) := ratio m e
    some ((2 * num + den) / (2 * den))
  | _ => none

/-- The nearest integer to a finite value, the even one on a tie. -/
def round? : Binary64 → Option Int
  | .finite negative m e =>
    let (num, den) := ratio m e
    some (signed negative (roundQuotient num den))
  | _ => none

/-- The integer nearest to `n` times a finite value, the even one on a tie. -/
def timesRounded? (n : Nat) : Binary64 → Option Int
  | .finite negative m e =>
    let (num, den) := ratio m e
    some (signed negative (roundQuotient (num * n) den))
  | _ => none

/-- The value of a finite binary64 that is an integer. -/
def toInt? : Binary64 → Option Int
  | .finite negative m e =>
    let (num, den) := ratio m e
    if num % den = 0 then some (signed negative (num / den)) else none
  | _ => none

def isZero : Binary64 → Bool
  | .finite _ m _ => m == 0
  | _ => false

/-- A value without its sign. -/
def magnitude : Binary64 → Binary64
  | .finite _ m e => .finite false m e
  | .infinite _ => .infinite false
  | .nan => .nan

def isNegative : Binary64 → Bool
  | .finite negative _ _ => negative
  | .infinite negative => negative
  | .nan => false

def isFinite : Binary64 → Bool
  | .finite .. => true
  | _ => false

end Binary64

end PayoutRegistry
