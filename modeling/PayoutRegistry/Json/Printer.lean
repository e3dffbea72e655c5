import PayoutRegistry.Json.Basic
import PayoutRegistry.Binary64.Text

/-!
JSON texts. A style fixes the gaps after a comma and a colon, and whether characters beyond ASCII are
written as escapes.
-/
namespace PayoutRegistry.Json

structure Style where
  itemGap : String
  keyGap : String
  asciiOnly : Bool
deriving DecidableEq, Repr

/-- No gaps and ASCII only: the form that is signed, and the form sent to other services. -/
def Style.compact : Style := { itemGap := "", keyGap := "", asciiOnly := true }

/-- One blank after each comma and colon, with characters as they are: the form of a log line. -/
def Style.spaced : Style := { itemGap := " ", keyGap := " ", asciiOnly := false }

def hexDigit (n : Nat) : Char := if n < 10 then Char.ofNat (48 + n) else Char.ofNat (87 + n)

/-- A 16-bit unit as an escape with four hexadecimal digits. -/
def unitEscape (unit : Nat) : List Char :=
  ['\\', 'u', hexDigit (unit / 4096 % 16), hexDigit (unit / 256 % 16), hexDigit (unit / 16 % 16),
    hexDigit (unit % 16)]

/-- The escape of a character by its code, one beyond the first plane as two units. -/
def codeEscape (c : Char) : List Char :=
  let n := c.toNat
  if n < 0x10000 then unitEscape n
  else unitEscape (0xD800 + (n - 0x10000) / 1024) ++ unitEscape (0xDC00 + (n - 0x10000) % 1024)

/-- The letter that stands for a character behind a backslash. -/
def escapeLetter? : Char → Option Char
  | '"' => some '"'
  | '\\' => some '\\'
  | '\n' => some 'n'
  | '\r' => some 'r'
  | '\t' => some 't'
  | '\x08' => some 'b'
  | '\x0c' => some 'f'
  | _ => none

def escapeChar (asciiOnly : Bool) (c : Char) : List Char :=
  match escapeLetter? c with
  | some letter => ['\\', letter]
  | none =>
    if c.toNat < 0x20 || (asciiOnly && 0x7F ≤ c.toNat) then codeEscape c else [c]

/-- A text in quotation marks. -/
def quoted (asciiOnly : Bool) (s : String) : String :=
  String.ofList ('"' :: (s.toList.flatMap (escapeChar asciiOnly) ++ ['"']))

/-- A number; the values without a JSON form have the words that the reader accepts. -/
def realText : Binary64 → String
  | .nan => "NaN"
  | .infinite negative => if negative then "-Infinity" else "Infinity"
  | x => x.text

mutual

def print (style : Style) : Json → String
  | .null => "null"
  | .bool true => "true"
  | .bool false => "false"
  | .int n => toString n
  | .real x => realText x
  | .text s => quoted style.asciiOnly s
  | .list items => "[" ++ (printItems style items ++ "]")
  | .object fields => "\x7b" ++ (printFields style fields ++ "\x7d")

def printItems (style : Style) : List Json → String
  | [] => ""
  | [v] => print style v
  | v :: rest => print style v ++ ("," ++ style.itemGap ++ printItems style rest)

def printFields (style : Style) : List (String × Json) → String
  | [] => ""
  | [(key, v)] => quoted style.asciiOnly key ++ (":" ++ style.keyGap ++ print style v)
  | (key, v) :: rest =>
    quoted style.asciiOnly key ++ (":" ++ style.keyGap ++ print style v ++ ("," ++ style.itemGap ++
      printFields style rest))

end

end PayoutRegistry.Json
