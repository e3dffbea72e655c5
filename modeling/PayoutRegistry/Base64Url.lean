import PayoutRegistry.Text.Utf8

/-!
Bytes as text in the base-64 alphabet that is safe in addresses, without padding.

Reading is lenient: the two alphabets are taken as one, characters of neither are passed over, and
padding is supplied from the length of the text. It fails only where bits are missing.
-/
namespace PayoutRegistry.Base64Url

/-- The character of a six-bit value. -/
def digit (n : Nat) : Char :=
  if n < 26 then Char.ofNat (65 + n)
  else if n < 52 then Char.ofNat (71 + n)
  else if n < 62 then Char.ofNat (n - 4)
  else if n = 62 then '-'
  else '_'

/-- The characters of up to three bytes at a time. -/
def encodeDigits : Bytes → List Char
  | [] => []
  | [a] => [digit (a.toNat / 4), digit (a.toNat % 4 * 16)]
  | [a, b] =>
    [digit (a.toNat / 4), digit (a.toNat % 4 * 16 + b.toNat / 16), digit (b.toNat % 16 * 4)]
  | a :: b :: c :: rest =>
    digit (a.toNat / 4) :: digit (a.toNat % 4 * 16 + b.toNat / 16) ::
      digit (b.toNat % 16 * 4 + c.toNat / 64) :: digit (c.toNat % 64) :: encodeDigits rest

def encode (bytes : Bytes) : String := String.ofList (encodeDigits bytes)

/-- The six-bit value of a byte of text, in either alphabet. -/
def value? (b : UInt8) : Option Nat :=
  let n := b.toNat
  if 65 ≤ n ∧ n ≤ 90 then some (n - 65)
  else if 97 ≤ n ∧ n ≤ 122 then some (n - 71)
  else if 48 ≤ n ∧ n ≤ 57 then some (n + 4)
  else if n = 45 ∨ n = 43 then some 62
  else if n = 95 ∨ n = 47 then some 63
  else none

/-- A group of four characters under way: how many have come, and the bits not yet written. -/
inductive Group where
  | empty
  | one (bits : Nat)
  | two (bits : Nat)
  | three (bits : Nat)
deriving DecidableEq, Repr

namespace Group

/-- How many characters of padding would fill the group, where a byte of it is complete. -/
def missing? : Group → Option Nat
  | .two _ => some 2
  | .three _ => some 1
  | _ => none

/-- Takes a six-bit value; a byte may become complete. -/
def push (v : Nat) : Group → Option UInt8 × Group
  | .empty => (none, .one v)
  | .one bits => (some (UInt8.ofNat (bits * 4 + v / 16)), .two (v % 16))
  | .two bits => (some (UInt8.ofNat (bits * 16 + v / 4)), .three (v % 4))
  | .three bits => (some (UInt8.ofNat (bits * 64 + v)), .empty)

end Group

/-- Reads on in a group with `pads` characters of padding just before. Padding that fills the group
ends the text; the end of the input has to fall between groups. -/
def decodeFrom (g : Group) (pads : Nat) (acc : Bytes) : Bytes → Option Bytes
  | [] => if g = .empty then some acc.reverse else none
  | b :: rest =>
    if b = 61 then
      match g.missing? with
      | some missing =>
        if missing ≤ pads + 1 then some acc.reverse else decodeFrom g (pads + 1) acc rest
      | none => decodeFrom g pads acc rest
    else match value? b with
      | none => decodeFrom g pads acc rest
      | some v =>
        match g.push v with
        | (some byte, g) => decodeFrom g 0 (byte :: acc) rest
        | (none, g) => decodeFrom g 0 acc rest

/-- The bytes of a text; `none` where characters are missing. -/
def decode? (text : Bytes) : Option Bytes :=
  let padding := (4 - text.length % 4) % 4
  decodeFrom .empty 0 [] (text ++ List.replicate padding 61)

end PayoutRegistry.Base64Url
