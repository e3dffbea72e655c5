/-!
UTF-8: writing a text as bytes, and reading bytes one scalar value at a time.

`next` either takes a whole well-formed sequence or reports the longest start of one as malformed, so
strict reading and reading with replacement are two folds over the same step.
-/
namespace PayoutRegistry

abbrev Bytes := List UInt8

namespace Utf8

/-- The bytes of one character. -/
def encodeChar (c : Char) : Bytes :=
  let n := c.toNat
  let tail (k : Nat) : UInt8 := UInt8.ofNat (0x80 + n / Nat.pow 64 k % 64)
  if n < 0x80 then [UInt8.ofNat n]
  else if n < 0x800 then [UInt8.ofNat (0xC0 + n / 64), tail 0]
  else if n < 0x10000 then [UInt8.ofNat (0xE0 + n / 4096), tail 1, tail 0]
  else [UInt8.ofNat (0xF0 + n / 262144), tail 2, tail 1, tail 0]

def encode (s : String) : Bytes := s.toList.flatMap encodeChar

/-- One step of reading. -/
inductive Step where
  | done
  | char (c : Char) (rest : Bytes)
  | malformed (rest : Bytes)

/-- The bits that a continuation byte adds. -/
def continued (n : Nat) (b : UInt8) : Nat := n * 64 + (b.toNat - 0x80)

/-- The values a first byte allows for the second: overlong forms, surrogates and values past the last
plane are excluded here and nowhere else. -/
def secondRange (first : UInt8) : UInt8 × UInt8 :=
  if first = 0xE0 then (0xA0, 0xBF)
  else if first = 0xED then (0x80, 0x9F)
  else if first = 0xF0 then (0x90, 0xBF)
  else if first = 0xF4 then (0x80, 0x8F)
  else (0x80, 0xBF)

/-- How many continuation bytes follow a first byte. -/
def tailLength? (first : UInt8) : Option Nat :=
  if 0xC2 ≤ first ∧ first ≤ 0xDF then some 1
  else if 0xE0 ≤ first ∧ first ≤ 0xEF then some 2
  else if 0xF0 ≤ first ∧ first ≤ 0xF4 then some 3
  else none

/-- The value bits of a first byte followed by `count` continuation bytes. -/
def firstBits (first : UInt8) (count : Nat) : Nat := first.toNat % Nat.pow 2 (6 - count)

def readTail (value : Nat) : Nat → Bytes → Step
  | 0, rest => .char (Char.ofNat value) rest
  | count + 1, b :: rest =>
    if 0x80 ≤ b ∧ b ≤ 0xBF then readTail (continued value b) count rest else .malformed (b :: rest)
  | _ + 1, [] => .malformed []

def next : Bytes → Step
  | [] => .done
  | first :: rest =>
    if first < 0x80 then .char (Char.ofNat first.toNat) rest
    else match tailLength? first, rest with
      | some count, second :: rest' =>
        let (low, high) := secondRange first
        if low ≤ second ∧ second ≤ high then
          readTail (continued (firstBits first count) second) (count - 1) rest'
        else .malformed rest
      | _, _ => .malformed rest

/-- Reads with `onMalformed` standing for each malformed sequence; `none` refuses it. Every step takes
at least one byte, so `steps` is never short. -/
def readWith (onMalformed : Option Char) (acc : List Char) : Nat → Bytes → Option (List Char)
  | 0, _ => some acc.reverse
  | steps + 1, bytes =>
    match next bytes with
    | .done => some acc.reverse
    | .char c rest => readWith onMalformed (c :: acc) steps rest
    | .malformed rest =>
      match onMalformed with
      | some c => readWith onMalformed (c :: acc) steps rest
      | none => none

/-- The text of well-formed bytes. -/
def decode? (bytes : Bytes) : Option String :=
  (readWith none [] (bytes.length + 1) bytes).map String.ofList

/-- The text of any bytes, each malformed sequence read as U+FFFD. -/
def decodeReplacing (bytes : Bytes) : String :=
  String.ofList ((readWith (some '\ufffd') [] (bytes.length + 1) bytes).getD [])

end Utf8

end PayoutRegistry
