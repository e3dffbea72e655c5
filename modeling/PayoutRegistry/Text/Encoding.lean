import PayoutRegistry.Text.Utf8

/-!
The Unicode encoding of a JSON text that comes as bytes: a byte order mark settles it, and otherwise
the zero bytes among the first four, since a JSON text starts with an ASCII character.
-/
namespace PayoutRegistry

inductive Encoding where
  | utf8
  | utf16 (bigEndian : Bool)
  | utf32 (bigEndian : Bool)
deriving DecidableEq, Repr

namespace Encoding

/-- The encoding of the bytes, and the bytes without their mark. -/
def detect : Bytes → Encoding × Bytes
  | 0 :: 0 :: 0xFE :: 0xFF :: rest => (.utf32 true, rest)
  | 0xFF :: 0xFE :: 0 :: 0 :: rest => (.utf32 false, rest)
  | 0xFE :: 0xFF :: rest => (.utf16 true, rest)
  | 0xFF :: 0xFE :: rest => (.utf16 false, rest)
  | 0xEF :: 0xBB :: 0xBF :: rest => (.utf8, rest)
  | bytes@(a :: b :: c :: d :: _) =>
    if a = 0 then (if b = 0 then .utf32 true else .utf16 true, bytes)
    else if b = 0 then (if c = 0 ∧ d = 0 then .utf32 false else .utf16 false, bytes)
    else (.utf8, bytes)
  | [a, b] => (if a = 0 then .utf16 true else if b = 0 then .utf16 false else .utf8, [a, b])
  | bytes => (.utf8, bytes)

def unit16 (bigEndian : Bool) (a b : UInt8) : Nat :=
  if bigEndian then a.toNat * 256 + b.toNat else b.toNat * 256 + a.toNat

/-- The 16-bit units, or `none` if a byte is left over. -/
def units16 (bigEndian : Bool) : Bytes → Option (List Nat)
  | [] => some []
  | a :: b :: rest => (units16 bigEndian rest).map (unit16 bigEndian a b :: ·)
  | [_] => none

def units32 (bigEndian : Bool) : Bytes → Option (List Nat)
  | [] => some []
  | a :: b :: c :: d :: rest =>
    let unit := if bigEndian then unit16 true a b * 65536 + unit16 true c d
      else unit16 false c d * 65536 + unit16 false a b
    (units32 bigEndian rest).map (unit :: ·)
  | _ => none

def isHigh (unit : Nat) : Bool := 0xD800 ≤ unit && unit < 0xDC00

def isLow (unit : Nat) : Bool := 0xDC00 ≤ unit && unit < 0xE000

/-- The character of a surrogate pair. -/
def joined (high low : Nat) : Char := Char.ofNat (0x10000 + (high - 0xD800) * 1024 + (low - 0xDC00))

/-- The character of a unit that stands alone. A surrogate without its partner is no character, and there is no way
to keep it in a text: it is replaced by U+FFFD. -/
def single (unit : Nat) : Char :=
  if isHigh unit || isLow unit then '\ufffd' else Char.ofNat unit

def ofUnits16 : List Nat → List Char
  | [] => []
  | [unit] => [single unit]
  | high :: low :: rest =>
    if isHigh high && isLow low then joined high low :: ofUnits16 rest
    else single high :: ofUnits16 (low :: rest)

def decode? (bytes : Bytes) : Option String :=
  match detect bytes with
  | (.utf8, rest) => Utf8.decode? rest
  | (.utf16 bigEndian, rest) => (units16 bigEndian rest).map fun us => String.ofList (ofUnits16 us)
  | (.utf32 bigEndian, rest) => do
    let us ← units32 bigEndian rest
    if us.all (· < 0x110000) then some (String.ofList (us.map single)) else none

end Encoding

end PayoutRegistry
