import PayoutRegistry.Text.Blank
import PayoutRegistry.Text.Digit

/-!
Whole numbers in text: blanks around, a sign, digits of any script, and single low lines between
digits.
-/
namespace PayoutRegistry.Numeral

/-- The most digits a decimal number may have. -/
def maxDigits : Nat := 4300

/-- The value of a digit below the base; letters serve beyond nine. -/
def digit? (base : Nat) (c : Char) : Option Nat :=
  let value? := match Text.digitValue? c with
    | some d => some d
    | none =>
      if 'a' ≤ c ∧ c ≤ 'z' then some (c.toNat - 87)
      else if 'A' ≤ c ∧ c ≤ 'Z' then some (c.toNat - 55)
      else none
  value?.filter (· < base)

/-- Digits with single low lines between them; `open'` says that a digit has to follow. -/
def readDigits (base value : Nat) (open' : Bool) : List Char → Option Nat
  | [] => if open' then none else some value
  | '_' :: rest => if open' then none else readDigits base value true rest
  | c :: rest =>
    match digit? base c with
    | some d => readDigits base (value * base + d) false rest
    | none => none

/-- A sign and the characters after it. -/
def splitSign : List Char → Bool × List Char
  | '-' :: rest => (true, rest)
  | '+' :: rest => (false, rest)
  | cs => (false, cs)

/-- A decimal number of at most 4300 digits. -/
def readInt? (s : String) : Option Int :=
  let (negative, cs) := splitSign (Text.trim s.toList)
  if maxDigits < (cs.filter (· != '_')).length then none
  else (readDigits 10 0 true cs).map fun n => if negative then -n else n

/-- The characters after `0x`; one low line may follow it. -/
def afterHexMark : List Char → List Char
  | '0' :: 'x' :: '_' :: rest | '0' :: 'X' :: '_' :: rest => rest
  | '0' :: 'x' :: rest | '0' :: 'X' :: rest => rest
  | cs => cs

/-- A hexadecimal number, with or without `0x` in front. -/
def readHex? (cs : List Char) : Option Int :=
  let (negative, cs) := splitSign (Text.trim cs)
  (readDigits 16 0 true (afterHexMark cs)).map fun n => if negative then -n else n

end PayoutRegistry.Numeral
