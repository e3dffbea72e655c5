import PayoutRegistry.Json.Basic
import PayoutRegistry.Text.Encoding

/-!
Reading a JSON text. Beyond the standard the reader accepts the words `NaN`, `Infinity` and
`-Infinity` as numbers, and it refuses whole numbers of more than 4300 digits. Values
may be nested to any depth, and an escaped surrogate without its partner is read as U+FFFD (`Encoding.single`).
-/
namespace PayoutRegistry.Json

/-- Why a text could not be read. -/
inductive ReadError where
  | malformed
  | hugeInteger
  | undecodable
deriving DecidableEq, Repr

/-- The most digits a whole number may have. -/
def maxDigits : Nat := 4300

def isGap (c : Char) : Bool := c == ' ' || c == '\t' || c == '\n' || c == '\r'

def skipGaps (cs : List Char) : List Char := cs.dropWhile isGap

def hexValue? (c : Char) : Option Nat :=
  if '0' ≤ c ∧ c ≤ '9' then some (c.toNat - 48)
  else if 'a' ≤ c ∧ c ≤ 'f' then some (c.toNat - 87)
  else if 'A' ≤ c ∧ c ≤ 'F' then some (c.toNat - 55)
  else none

/-- The value of four hexadecimal digits. -/
def unit? (a b c d : Char) : Option Nat := do
  return (((← hexValue? a) * 16 + (← hexValue? b)) * 16 + (← hexValue? c)) * 16 + (← hexValue? d)

def unescape? : Char → Option Char
  | '"' => some '"'
  | '\\' => some '\\'
  | '/' => some '/'
  | 'n' => some '\n'
  | 'r' => some '\r'
  | 't' => some '\t'
  | 'b' => some '\x08'
  | 'f' => some '\x0c'
  | _ => none

/-- The rest of a text after its opening quotation mark; `acc` holds what came before, reversed. -/
def readText (acc : List Char) : List Char → Except ReadError (String × List Char)
  | [] => .error .malformed
  | '"' :: rest => .ok (String.ofList acc.reverse, rest)
  | '\\' :: 'u' :: a :: b :: c :: d :: '\\' :: 'u' :: e :: f :: g :: h :: rest =>
    match unit? a b c d, unit? e f g h with
    | some high, some low =>
      if Encoding.isHigh high && Encoding.isLow low then readText (Encoding.joined high low :: acc) rest
      else readText (Encoding.single high :: acc) ('\\' :: 'u' :: e :: f :: g :: h :: rest)
    | some unit, none => readText (Encoding.single unit :: acc) ('\\' :: 'u' :: e :: f :: g :: h :: rest)
    | none, _ => .error .malformed
  | '\\' :: 'u' :: a :: b :: c :: d :: rest =>
    match unit? a b c d with
    | some unit => readText (Encoding.single unit :: acc) rest
    | none => .error .malformed
  | '\\' :: c :: rest =>
    match unescape? c with
    | some c => readText (c :: acc) rest
    | none => .error .malformed
  | c :: rest =>
    if c == '\\' || c.toNat < 0x20 then .error .malformed else readText (c :: acc) rest

def digitsValue (cs : List Char) : Nat := cs.foldl (fun n c => n * 10 + (c.toNat - 48)) 0

/-- The digits after a point, if there are any. -/
def readFraction : List Char → List Char × List Char
  | '.' :: rest =>
    match rest.span Char.isDigit with
    | ([], _) => ([], '.' :: rest)
    | (digits, rest) => (digits, rest)
  | cs => ([], cs)

/-- A power of ten, if one follows with at least one digit. -/
def readExponent (cs : List Char) : Option Int × List Char :=
  match cs with
  | mark :: rest =>
    if mark == 'e' || mark == 'E' then
      let (negative, rest) := match rest with
        | '-' :: rest => (true, rest)
        | '+' :: rest => (false, rest)
        | rest => (false, rest)
      match rest.span Char.isDigit with
      | ([], _) => (none, cs)
      | (digits, rest) => (some (Binary64.signed negative (digitsValue digits)), rest)
    else (none, cs)
  | [] => (none, [])

/-- The digits of the whole part: a zero stands alone. -/
def readWhole (cs : List Char) : List Char × List Char :=
  match cs with
  | '0' :: rest => (['0'], rest)
  | cs => cs.span Char.isDigit

def readNumber (cs : List Char) : Except ReadError (Json × List Char) :=
  let (negative, cs) := match cs with
    | '-' :: rest => (true, rest)
    | cs => (false, cs)
  match readWhole cs with
  | ([], _) => .error .malformed
  | (whole, rest) =>
    let (fraction, rest) := readFraction rest
    let (exponent, rest) := readExponent rest
    if fraction.isEmpty && exponent.isNone then
      if maxDigits < whole.length then .error .hugeInteger
      else .ok (.int (Binary64.signed negative (digitsValue whole)), rest)
    else
      let power := exponent.getD 0 - fraction.length
      .ok (.real (Binary64.ofDecimal negative (digitsValue (whole ++ fraction)) power), rest)

/-- The rest of the characters if they start with the word. -/
def afterWord? : List Char → List Char → Option (List Char)
  | [], cs => some cs
  | w :: word, c :: cs => if w == c then afterWord? word cs else none
  | _ :: _, [] => none

/-- The words that stand for a value. -/
def words : List (List Char × Json) :=
  [("null".toList, .null), ("true".toList, .bool true), ("false".toList, .bool false),
    ("NaN".toList, .real .nan), ("Infinity".toList, .real (.infinite false)),
    ("-Infinity".toList, .real (.infinite true))]

def readWord? (cs : List Char) : Option (Json × List Char) :=
  words.findSome? fun (word, v) => (afterWord? word cs).map (v, ·)

mutual

/-- A value at the start of the characters, and what follows it. Each level and each element takes a
character, so as many steps as characters suffice. -/
def readValue : Nat → List Char → Except ReadError (Json × List Char)
  | 0, _ => .error .malformed
  | steps + 1, cs =>
    match cs with
    | '"' :: rest => do
      let (s, rest) ← readText [] rest
      return (.text s, rest)
    | '[' :: rest =>
      match skipGaps rest with
      | ']' :: rest => .ok (.list [], rest)
      | rest => readItems steps [] rest
    | '\x7b' :: rest =>
      match skipGaps rest with
      | '\x7d' :: rest => .ok (.object [], rest)
      | rest => readFields steps [] rest
    | cs =>
      match readWord? cs with
      | some found => .ok found
      | none => readNumber cs

def readItems : Nat → List Json → List Char → Except ReadError (Json × List Char)
  | 0, _, _ => .error .malformed
  | steps + 1, done, cs => do
    let (v, rest) ← readValue steps cs
    match skipGaps rest with
    | ',' :: rest => readItems steps (v :: done) (skipGaps rest)
    | ']' :: rest => return (.list (v :: done).reverse, rest)
    | _ => throw .malformed

def readFields : Nat → List (String × Json) → List Char → Except ReadError (Json × List Char)
  | 0, _, _ => .error .malformed
  | steps + 1, done, cs =>
    match cs with
    | '"' :: rest => do
      let (key, rest) ← readText [] rest
      match skipGaps rest with
      | ':' :: rest =>
        let (v, rest) ← readValue steps (skipGaps rest)
        match skipGaps rest with
        | ',' :: rest => readFields steps ((key, v) :: done) (skipGaps rest)
        | '\x7d' :: rest => return (.object (Fields.ofPairs ((key, v) :: done).reverse), rest)
        | _ => throw .malformed
      | _ => throw .malformed
    | _ => .error .malformed

end

/-- The value that a whole text denotes. The limit that a stack sets to how deeply values are nested is left out. -/
def read (s : String) : Except ReadError Json := do
  let cs := skipGaps s.toList
  let (v, rest) ← readValue (2 * cs.length + 1) cs
  if (skipGaps rest).isEmpty then return v else throw .malformed

/-- The value that bytes in any of the Unicode encodings denote. -/
def ofBytes (bytes : Bytes) : Except ReadError Json :=
  match Encoding.decode? bytes with
  | some s => read s
  | none => .error .undecodable

end PayoutRegistry.Json
