import PayoutRegistry.Failure

/-!
Messages with places for arguments. A place is a percent sign, an optional key in parentheses, flags, a
width, a precision, a size letter without effect, and a letter that says how the argument is written.
A star as width or precision takes it from the arguments.
-/
namespace PayoutRegistry.Log

/-- How an argument is laid out at its place. -/
structure Place where
  flags : List Char
  width : Nat
  precision : Option Nat
deriving Repr

namespace Place

def has (p : Place) (flag : Char) : Bool := p.flags.contains flag

def spaces (n : Nat) : String := String.ofList (List.replicate n ' ')

/-- Fills a text up to the width, on the left unless the flag `-` is there. -/
def fill (p : Place) (s : String) : String :=
  let gap := spaces (p.width - s.length)
  if p.has '-' then s ++ gap else gap ++ s

/-- Cuts a text to the precision, if there is one, and fills it. -/
def words (p : Place) (s : String) : String :=
  match p.precision with
  | some n => p.fill (s.take n).copy
  | none => p.fill s

/-- Writes a number: the sign, a mark of the base, zeros up to the width if asked for, the digits. -/
def number (p : Place) (negative : Bool) (mark digits : String) : String :=
  let sign := if negative then "-" else if p.has '+' then "+" else if p.has ' ' then " " else ""
  let front := sign ++ mark
  if p.has '0' && !p.has '-' then
    front ++ Binary64.zeros (p.width - front.length - digits.length) ++ digits
  else p.fill (front ++ digits)

def integer (p : Place) (base : Nat) (upper : Bool) (n : Int) : String :=
  let digits := (Nat.toDigits base n.natAbs).map fun c => if upper then c.toUpper else c
  let digits := Binary64.zeros (p.precision.getD 1 - digits.length) ++ String.ofList digits
  let mark := if !p.has '#' then "" else match base with
    | 8 => "0o"
    | 16 => if upper then "0X" else "0x"
    | _ => ""
  p.number (decide (n < 0)) mark digits

/-- Writes a binary64 value in a form for magnitudes, which is told the places and whether to keep a
bare point. Six places are written where no precision is given. -/
def real (p : Place) (form : Nat → Bool → Binary64 → String) (upper : Bool) (x : Binary64) : String :=
  let digits := form (p.precision.getD 6) (p.has '#') x.magnitude
  p.number x.isNegative "" (if upper then digits.toUpper else digits)

end Place

/-- The integer that an argument counts as where `%d` asks for one. -/
def asInteger : Json → Except Failure Int
  | .int n => .ok n
  | .bool b => .ok (if b then 1 else 0)
  | .real x =>
    match x.truncate? with
    | some n => .ok n
    | none => .error (if x = .nan then .value "cannot convert float NaN to integer" else .overflow)
  | _ => .error (.mistyped "a real number is required")

/-- The integer of an argument that has to be one already. -/
def asWhole : Json → Except Failure Int
  | .real _ => .error (.mistyped "an integer is required")
  | arg => asInteger arg

def asReal : Json → Except Failure Binary64
  | .int n =>
    let x := Binary64.ofInt n
    if x.isFinite then .ok x else .error .overflow
  | .bool b => .ok (.ofNat (if b then 1 else 0))
  | .real x => .ok x
  | _ => .error (.mistyped "must be real number")

/-- The character that an argument is or numbers. -/
def asCharacter : Json → Except Failure String
  | .text s => if s.length = 1 then .ok s else .error (.mistyped "%c requires int or char")
  | arg => do
    let n ← asWhole arg
    if 0 ≤ n ∧ n < 0x110000 then return String.ofList [Char.ofNat n.toNat]
    throw .overflow

/-- An argument at a place with the letter `letter`. -/
def Place.write (p : Place) (letter : Char) (arg : Json) : Except Failure String :=
  match letter with
  | 's' => .ok (p.words arg.plain)
  | 'r' => .ok (p.words (arg.shown Text.isPrintable))
  | 'a' => .ok (p.words (arg.shown fun _ => false))
  | 'd' | 'i' | 'u' => return p.integer 10 false (← asInteger arg)
  | 'o' => return p.integer 8 false (← asWhole arg)
  | 'x' => return p.integer 16 false (← asWhole arg)
  | 'X' => return p.integer 16 true (← asWhole arg)
  | 'f' => return p.real Binary64.fixedText false (← asReal arg)
  | 'F' => return p.real Binary64.fixedText true (← asReal arg)
  | 'e' => return p.real Binary64.exponentText false (← asReal arg)
  | 'E' => return p.real Binary64.exponentText true (← asReal arg)
  | 'g' => return p.real Binary64.generalText false (← asReal arg)
  | 'G' => return p.real Binary64.generalText true (← asReal arg)
  | 'c' => return p.fill (← asCharacter arg)
  | _ => .error (.value "unsupported format character")

/-- The arguments of a message: taken one after the other, or from one object, of which `next` is what
the place is about to take. -/
inductive Arguments where
  | inOrder (args : List Json)
  | byKey (fields : Json.Fields) (next : Option Json)

namespace Arguments

/-- The next argument. -/
def take : Arguments → Except Failure (Json × Arguments)
  | .inOrder (arg :: rest) => .ok (arg, .inOrder rest)
  | .byKey fields (some arg) => .ok (arg, .byKey fields none)
  | _ => .error (.mistyped "not enough arguments for format string")

/-- Puts forward the value under a key. -/
def select (key : String) : Arguments → Except Failure Arguments
  | .inOrder _ => .error (.mistyped "format requires a mapping")
  | .byKey fields _ =>
    match Json.Fields.get? fields key with
    | some arg => .ok (.byKey fields (some arg))
    | none => .error (.key key)

/-- Whether arguments in order are left over. -/
def isLeftOver : Arguments → Bool
  | .inOrder args => !args.isEmpty
  | .byKey .. => false

end Arguments

/-- The characters before the parenthesis that closes the `depth + 1` open ones, and those after it. -/
def splitAtClosing : Nat → List Char → Option (List Char × List Char)
  | _, [] => none
  | 0, ')' :: rest => some ([], rest)
  | depth, c :: rest =>
    let depth := if c = '(' then depth + 1 else if c = ')' then depth - 1 else depth
    (splitAtClosing depth rest).map fun (inside, rest) => (c :: inside, rest)

/-- Reads an optional key in parentheses. -/
def readKey (args : Arguments) : List Char → Except Failure (Arguments × List Char)
  | '(' :: rest =>
    match args, splitAtClosing 0 rest with
    | .byKey .., some (key, rest) => return (← args.select (String.ofList key), rest)
    | .byKey .., none => .error (.value "incomplete format key")
    | .inOrder _, _ => .error (.mistyped "format requires a mapping")
  | cs => .ok (args, cs)

/-- Reads a width or a precision: digits, or a star for the next argument. No size is greater than
`most`. -/
def readSize (most : Nat) (args : Arguments) : List Char → Except Failure (Int × Arguments × List Char)
  | '*' :: rest => do
    let (arg, args) ← args.take
    let size : Int ← match arg with
      | .int n => pure n
      | .bool b => pure (if b then 1 else 0)
      | _ => throw (.mistyped "* wants int")
    if size < -most - 1 ∨ most < size then throw .overflow
    return (size, args, rest)
  | cs =>
    let (digits, rest) := cs.span Char.isDigit
    let size := digits.foldl (fun n c => n * 10 + (c.toNat - 48)) 0
    if most < size then .error (.value "size too big") else .ok (size, args, rest)

def greatestWidth : Nat := Nat.pow 2 63 - 1

def greatestPrecision : Nat := Nat.pow 2 31 - 1

/-- Reads what stands between the percent sign and the letter. A width below zero asks for filling on the
right, and a precision below zero counts as zero. -/
def readPlace (args : Arguments) (cs : List Char) : Except Failure (Place × Arguments × List Char) := do
  let (args, cs) ← readKey args cs
  let (flags, cs) := cs.span ("#0- +".toList.contains ·)
  let (width, args, cs) ← readSize greatestWidth args cs
  let (precision, args, cs) ← match cs with
    | '.' :: rest => do
      let (precision, args, rest) ← readSize greatestPrecision args rest
      pure (some precision.toNat, args, rest)
    | cs => pure (none, args, cs)
  let cs := match cs with
    | c :: rest => if "hlL".toList.contains c then rest else c :: rest
    | [] => []
  return ({ flags := if width < 0 then '-' :: flags else flags, width := width.natAbs, precision }, args, cs)

/-- Fills the places of a message; every step takes at least one character. -/
def expandFrom : Nat → Arguments → List Char → Except Failure (List Char)
  | 0, _, _ => .ok []
  | _ + 1, args, [] =>
    if args.isLeftOver then .error (.mistyped "not all arguments converted during string formatting")
    else .ok []
  | steps + 1, args, '%' :: '%' :: rest => return '%' :: (← expandFrom steps args rest)
  | steps + 1, args, '%' :: rest => do
    let (place, args, rest) ← readPlace args rest
    let letter :: rest := rest | throw (.value "incomplete format")
    let (arg, args) ← args.take
    let s ← place.write letter arg
    return s.toList ++ (← expandFrom steps args rest)
  | steps + 1, args, c :: rest => return c :: (← expandFrom steps args rest)

/-- The message with its arguments. Without arguments a percent sign stands for itself, and a single
object that is not empty is taken by its keys. -/
def expand (message : String) (args : List Json) : Except Failure String :=
  if args.isEmpty then .ok message
  else
    let cs := message.toList
    let args := match args with
      | [.object (field :: fields)] =>
        Arguments.byKey (field :: fields) (some (.object (field :: fields)))
      | args => .inOrder args
    return String.ofList (← expandFrom (cs.length + 1) args cs)

end PayoutRegistry.Log
