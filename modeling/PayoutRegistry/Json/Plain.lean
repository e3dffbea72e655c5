import PayoutRegistry.Json.Printer
import PayoutRegistry.Text.Category

/-!
Plain texts of values, for log lines and for codes that come as numbers. A text stands for itself at the
top and is put in quotation marks inside a list or an object.
-/
namespace PayoutRegistry.Json

def hexText (width n : Nat) : List Char :=
  (List.range width).reverse.map fun k => hexDigit (n / Nat.pow 16 k % 16)

/-- The escape of a character by its code, as short as the code allows. -/
def shownCode (c : Char) : List Char :=
  let n := c.toNat
  if n < 0x100 then '\\' :: 'x' :: hexText 2 n
  else if n < 0x10000 then '\\' :: 'u' :: hexText 4 n
  else '\\' :: 'U' :: hexText 8 n

/-- A character inside quotation marks. Beyond ASCII, `keeps` tells which stand for themselves. -/
def shownChar (keeps : Char → Bool) (mark : Char) (c : Char) : List Char :=
  if c == mark || c == '\\' then ['\\', c]
  else if c == '\n' then ['\\', 'n']
  else if c == '\r' then ['\\', 'r']
  else if c == '\t' then ['\\', 't']
  else if c.toNat < 0x20 || c.toNat == 0x7F then shownCode c
  else if c.toNat < 0x7F || keeps c then [c]
  else shownCode c

/-- A text in single marks, or in double ones if it holds a single mark and no double one. -/
def shownText (keeps : Char → Bool) (s : String) : String :=
  let cs := s.toList
  let mark := if cs.contains '\'' && !cs.contains '"' then '"' else '\''
  String.ofList (mark :: (cs.flatMap (shownChar keeps mark) ++ [mark]))

mutual

/-- A value as it stands inside another. -/
def shown (keeps : Char → Bool) : Json → String
  | .null => "None"
  | .bool true => "True"
  | .bool false => "False"
  | .int n => toString n
  | .real x => x.text
  | .text s => shownText keeps s
  | .list items => "[" ++ (shownItems keeps items ++ "]")
  | .object fields => "\x7b" ++ (shownFields keeps fields ++ "\x7d")

def shownItems (keeps : Char → Bool) : List Json → String
  | [] => ""
  | [v] => shown keeps v
  | v :: rest => shown keeps v ++ (", " ++ shownItems keeps rest)

def shownFields (keeps : Char → Bool) : List (String × Json) → String
  | [] => ""
  | [(key, v)] => shownText keeps key ++ (": " ++ shown keeps v)
  | (key, v) :: rest =>
    shownText keeps key ++ (": " ++ shown keeps v ++ (", " ++ shownFields keeps rest))

end

/-- The plain text of a value. -/
def plain : Json → String
  | .text s => s
  | v => shown Text.isPrintable v

end PayoutRegistry.Json
