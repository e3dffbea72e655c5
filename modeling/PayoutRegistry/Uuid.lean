import PayoutRegistry.Json.Printer
import PayoutRegistry.Json.Reader
import PayoutRegistry.Numeral

/-!
Identifiers of 128 bits. They are written as 32 hexadecimal digits in five groups; two readers accept
other spellings, one for tokens and one for forms.
-/
namespace PayoutRegistry

/-- An identifier. -/
structure Uuid where
  value : BitVec 128
deriving DecidableEq, Repr, Inhabited

namespace Uuid

/-- The lowest `count` hexadecimal digits of a number. -/
def hexDigits (count n : Nat) : List Char :=
  (List.range count).reverse.map fun k => Json.hexDigit (n / Nat.pow 16 k % 16)

/-- The written form: groups of 8, 4, 4, 4 and 12 digits. -/
def text (id : Uuid) : String :=
  let n := id.value.toNat
  String.ofList (hexDigits 8 (n / Nat.pow 16 24) ++ '-' :: hexDigits 4 (n / Nat.pow 16 20) ++
    '-' :: hexDigits 4 (n / Nat.pow 16 16) ++ '-' :: hexDigits 4 (n / Nat.pow 16 12) ++
    '-' :: hexDigits 12 n)

/-- The identifier with serial number `n`: a scattered first group, a fixed middle, and the number in
the last group. -/
def ofSerial (n : Nat) : Uuid :=
  { value := BitVec.ofNat 128
      (n * 0x9E3779B1 % Nat.pow 2 32 * Nat.pow 16 24 + 0x4000 * Nat.pow 16 16 +
        0x8000 * Nat.pow 16 12 + n % Nat.pow 16 12) }

/-- The characters with every occurrence of the word taken out, from left to right. -/
def without (word : List Char) : List Char → List Char
  | [] => []
  | c :: rest =>
    if word.isPrefixOf (c :: rest) then without word (rest.drop (word.length - 1))
    else c :: without word rest
termination_by cs => cs.length
decreasing_by
  all_goals simp only [List.length_cons, List.length_drop]; omega

def isBrace (c : Char) : Bool := c == '\x7b' || c == '\x7d'

def stripBraces (cs : List Char) : List Char :=
  ((cs.dropWhile isBrace).reverse.dropWhile isBrace).reverse

/-- The spelling that tokens may use: the marks `urn:` and `uuid:`, outer braces and every hyphen are
dropped, and 32 characters that make a hexadecimal number remain. -/
def ofLoose? (s : String) : Option Uuid :=
  let cs := without "uuid:".toList (without "urn:".toList s.toList)
  let digits := (stripBraces cs).filter (· != '-')
  if digits.length ≠ 32 then none
  else (Numeral.readHex? digits).bind fun n =>
    if 0 ≤ n ∧ n < Nat.pow 2 128 then some { value := BitVec.ofNat 128 n.toNat } else none

def hexValue? (cs : List Char) : Option Nat :=
  cs.foldlM (fun n c => (Json.hexValue? c).map (n * 16 + ·)) 0

/-- Thirty-six characters with hyphens in their places. -/
def ofHyphenated? (cs : List Char) : Option Uuid :=
  let places := [8, 13, 18, 23]
  if cs.length = 36 ∧ places.all (fun i => cs.getD i ' ' == '-') then
    let digits := cs.zipIdx.filterMap fun (c, i) => if places.contains i then none else some c
    (hexValue? digits).map fun n => { value := BitVec.ofNat 128 n }
  else none

/-- The spellings that forms accept: 32 digits, the written form, and the written form in braces or
behind `urn:uuid:`. -/
def ofForm? (s : String) : Option Uuid :=
  let cs := s.toList
  if cs.length = 32 then (hexValue? cs).map fun n => { value := BitVec.ofNat 128 n }
  else match cs with
    | '\x7b' :: rest => if rest.getLast? = some '\x7d' then ofHyphenated? rest.dropLast else none
    | cs =>
      match Json.afterWord? "urn:uuid:".toList cs with
      | some rest => ofHyphenated? rest
      | none => ofHyphenated? cs

end Uuid

end PayoutRegistry
