import PayoutRegistry.Binary64.Basic

/-!
Decimal texts of binary64 values: the fewest digits that read back, and a fixed number of places.
-/
namespace PayoutRegistry.Binary64

/-- A positive decimal, `digits * 10 ^ exponent`. -/
structure Decimal where
  digits : Nat
  exponent : Int
deriving DecidableEq, Repr

namespace Decimal

def toBinary (d : Decimal) : Binary64 := ofDecimal false d.digits d.exponent

/-- Drops the zeros at the end of the digits; `steps` bounds how many. -/
def stripped (d : Decimal) : Nat → Decimal
  | 0 => d
  | steps + 1 =>
    if d.digits ≠ 0 ∧ d.digits % 10 = 0 then
      stripped { digits := d.digits / 10, exponent := d.exponent + 1 } steps
    else d

end Decimal

/-- The power of ten just above `num / den`, which is positive. -/
def decimalSize (num den : Nat) : Int :=
  let guess : Int := ((toString num).length : Int) - (toString den).length
  -- `num / den` lies between `10 ^ (guess - 1)` and `10 ^ (guess + 1)`
  if num * Nat.pow 10 (-guess).toNat < den * Nat.pow 10 guess.toNat then guess else guess + 1

/-- The decimal of `count` digits nearest to `num / den` that reads back to `x`, if there is one.
Only the two neighbours on that grid can be nearest. -/
def decimalOfLength? (x : Binary64) (num den : Nat) (count : Nat) : Option Decimal :=
  let exponent := decimalSize num den - count
  let num' := num * Nat.pow 10 (-exponent).toNat
  let den' := den * Nat.pow 10 exponent.toNat
  let below := num' / den'
  let near := roundQuotient num' den'
  let far := if near = below then below + 1 else below
  [near, far].map (Decimal.mk · exponent) |>.find? (·.toBinary == x)

/-- The shortest decimal that reads back to a positive finite value; seventeen digits suffice. -/
def shortest (mantissa : Nat) (exponent : Int) : Decimal :=
  let (num, den) := ratio mantissa exponent
  let found := (List.range 17).findSome? fun k =>
    decimalOfLength? (.finite false mantissa exponent) num den (k + 1)
  match found with
  | some d => d.stripped 20
  | none => { digits := num * Nat.pow 10 1100 / den, exponent := -1100 }

def zeros (n : Nat) : String := String.ofList (List.replicate n '0')

/-- A power of ten with its sign and at least two digits. -/
def exponentMark (n : Int) : String :=
  let size := toString n.natAbs
  "e" ++ (if n < 0 then "-" else "+") ++ zeros (2 - size.length) ++ size

/-- Positional from `0.0001` up to below `10 ^ 16`, otherwise with a signed exponent of at least two
digits. An integral value written positionally ends in `.0`. -/
def layout (d : Decimal) : String :=
  let digits := toString d.digits
  let lead : Int := digits.length + d.exponent - 1
  if -4 ≤ lead ∧ lead < 16 then
    if 0 ≤ d.exponent then digits ++ zeros d.exponent.toNat ++ ".0"
    else if 0 ≤ lead then
      let whole := (lead + 1).toNat
      (digits.take whole).copy ++ "." ++ (digits.drop whole).copy
    else "0." ++ zeros (-lead - 1).toNat ++ digits
  else
    let point := if digits.length = 1 then digits else (digits.take 1).copy ++ "." ++ (digits.drop 1).copy
    point ++ exponentMark lead

/-- The fewest digits that read back, with the words `inf` and `nan` for the other values. -/
def text : Binary64 → String
  | .nan => "nan"
  | .infinite negative => if negative then "-inf" else "inf"
  | .finite negative m e =>
    (if negative then "-" else "") ++ (if m = 0 then "0.0" else layout (shortest m e))

/-- Digits with a point before the last `places` of them; a point that nothing follows is written only
where `keepPoint` asks for it. -/
def pointed (digits : String) (places : Nat) (keepPoint : Bool) : String :=
  let whole := digits.length - places
  (digits.take whole).copy ++ (if places = 0 ∧ !keepPoint then "" else ".") ++ (digits.drop whole).copy

/-- Zeros at the end of the places after a point, and then the point, are dropped. -/
def dropEndZeros (s : String) : String :=
  if s.toList.contains '.' then
    String.ofList (((s.toList.reverse.dropWhile (· == '0')).dropWhile (· == '.')).reverse)
  else s

/-- The nearest decimal of `places + 1` digits to a finite magnitude, a tie going to the even digit. -/
def roundedDecimal (places mantissa : Nat) (exponent : Int) : Decimal :=
  if mantissa = 0 then { digits := 0, exponent := -places }
  else
    let (num, den) := ratio mantissa exponent
    let unit := decimalSize num den - (places + 1)
    let digits := roundQuotient (num * Nat.pow 10 (-unit).toNat) (den * Nat.pow 10 unit.toNat)
    -- rounding up may have carried into one digit more
    if digits = Nat.pow 10 (places + 1) then { digits := digits / 10, exponent := unit + 1 }
    else { digits, exponent := unit }

/-- A fixed number of places of the exact value, a tie going to the even digit. -/
def fixedText (places : Nat) (keepPoint : Bool) : Binary64 → String
  | .nan => "nan"
  | .infinite negative => if negative then "-inf" else "inf"
  | .finite negative m e =>
    let (num, den) := ratio m e
    let units := toString (roundQuotient (num * Nat.pow 10 places) den)
    (if negative then "-" else "") ++ pointed (zeros (places + 1 - units.length) ++ units) places keepPoint

/-- One digit, a fixed number of places and a power of ten. -/
def exponentText (places : Nat) (keepPoint : Bool) : Binary64 → String
  | .nan => "nan"
  | .infinite negative => if negative then "-inf" else "inf"
  | .finite negative m e =>
    let d := roundedDecimal places m e
    let digits := toString d.digits
    (if negative then "-" else "") ++ pointed (zeros (places + 1 - digits.length) ++ digits) places keepPoint
      ++ exponentMark (d.exponent + places)

/-- A given number of digits, at least one: positional from `0.0001` up to the value that has more digits
than that before the point, otherwise with a power of ten. Zeros at the end of the places are dropped
unless `keepZeros` asks for them. -/
def generalText (digits : Nat) (keepZeros : Bool) : Binary64 → String
  | .nan => "nan"
  | .infinite negative => if negative then "-inf" else "inf"
  | .finite negative m e =>
    let places := digits - 1
    let d := roundedDecimal places m e
    let lead := d.exponent + places
    let tidy (s : String) : String := if keepZeros then s else dropEndZeros s
    (if negative then "-" else "") ++
      if -4 ≤ lead ∧ lead ≤ places then
        tidy (fixedText (places - lead).toNat keepZeros (.finite false m e))
      else
        let shown := toString d.digits
        tidy (pointed shown (shown.length - 1) keepZeros) ++ exponentMark lead

end PayoutRegistry.Binary64
