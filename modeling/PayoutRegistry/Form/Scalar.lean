import PayoutRegistry.Form.Basic
import PayoutRegistry.Numeral
import PayoutRegistry.Text.Digit
import PayoutRegistry.Uuid

/-!
Checks of single values: texts, whole numbers, numbers, truth values and identifiers. A number or truth
value may also be given as text, by one grammar for request bodies and for settings.
-/
namespace PayoutRegistry.Form

/-! ### Values given as text -/

def digitsValue (cs : List Char) : Nat := cs.foldl (fun n c => n * 10 + (c.toNat - 48)) 0

/-- The characters without low lines; each low line has to stand alone and inside. -/
def withoutLowLines? (cs : List Char) : Option (List Char) :=
  let rec go (afterLine : Bool) : List Char → Option (List Char)
    | [] => if afterLine then none else some []
    | '_' :: rest => if afterLine then none else go true rest
    | c :: rest => (go false rest).map (c :: ·)
  go true cs

/-- A whole number: a sign, digits, and perhaps a point with zeros only. -/
def integerText (s : String) : Checked Int :=
  let cs := Text.trimSpace s.toList
  if Numeral.maxDigits < cs.length then .problem .oversizeInteger
  else
    let (negative, cs) := Numeral.splitSign cs
    let (whole, fraction) := cs.span (· != '.')
    match withoutLowLines? whole with
    | some digits =>
      if digits.all Char.isDigit && (fraction.drop 1).all (· == '0') then
        .value (Binary64.signed negative (digitsValue digits))
      else .problem .unreadableInteger
    | none => .problem .unreadableInteger

/-- A number in digits with a point and a power of ten. -/
def decimal? (negative : Bool) (cs : List Char) : Option Binary64 :=
  let (whole, rest) := cs.span Char.isDigit
  let (fraction, rest) := match rest with
    | '.' :: rest => rest.span Char.isDigit
    | rest => ([], rest)
  let (exponent, rest) := Json.readExponent rest
  let digits := whole ++ fraction
  if digits.isEmpty || !rest.isEmpty then none
  else some (.ofDecimal negative (digitsValue digits) (exponent.getD 0 - fraction.length))

/-- A number, or a word for what is not one. -/
def number? (cs : List Char) : Option Binary64 :=
  let (negative, cs) := Numeral.splitSign cs
  match (String.ofList cs).toLower with
  | "inf" | "infinity" => some (.infinite negative)
  | "nan" => some .nan
  | _ => decimal? negative cs

/-- Blanks may surround a number, but not one with low lines. -/
def realText (s : String) : Checked Binary64 :=
  match (number? (Text.trimSpace s.toList)).or ((withoutLowLines? s.toList).bind number?) with
  | some x => .value x
  | none => .problem .unreadableReal

def truthText (s : String) : Checked Bool :=
  match s.toLower with
  | "1" | "on" | "t" | "true" | "y" | "yes" => .value true
  | "0" | "off" | "f" | "false" | "n" | "no" => .value false
  | _ => .problem .unreadableTruth

/-! ### Values -/

def anyText : Json → Checked String
  | .text s => .value s
  | _ => .problem .notText

/-- A text with a number of characters between two limits. -/
def text (least : Nat) (most : Option Nat) (v : Json) : Checked String :=
  (anyText v).bind fun s =>
    if s.length < least then .problem (.tooShort least)
    else match most with
      | some n => if n < s.length then .problem (.tooLong n) else .value s
      | none => .value s

/-- A text of `count` decimal digits of any script. -/
def digits (count : Nat) (v : Json) : Checked String :=
  (anyText v).bind fun s =>
    if s.length = count ∧ s.toList.all Text.isDecimalDigit then .value s
    else .problem (.offPattern s!"^\\d\x7b{count}\x7d$")

def uuid : Json → Checked Uuid
  | .text s => match Uuid.ofForm? s with
    | some id => .value id
    | none => .problem .unreadableUuid
  | _ => .problem .notUuid

/-- The magnitude from which a whole number is not taken from a binary fraction. -/
def integerLimit : Nat := Nat.pow 2 63

def integer : Json → Checked Int
  | .int n => .value n
  | .bool b => .value (if b then 1 else 0)
  | .text s => integerText s
  | .real x =>
    if !x.isFinite then .problem .notFinite
    else match x.toInt? with
      | some n => if integerLimit ≤ n.natAbs then .problem .oversizeInteger else .value n
      | none => .problem .fractional
  | _ => .problem .notInteger

def real : Json → Checked Binary64
  | .real x => .value x
  | .int n => .value (.ofInt n)
  | .bool b => .value (.ofNat (if b then 1 else 0))
  | .text s => realText s
  | _ => .problem .notReal

/-- Zero and one are truth values; a number that is too great to be looked at is not even an attempt. -/
def truthOfInteger (n : Int) : Checked Bool :=
  if n = 0 then .value false else if n = 1 then .value true
  else if integerLimit ≤ n.natAbs then .problem .notTruth
  else .problem .unreadableTruth

def truth : Json → Checked Bool
  | .bool b => .value b
  | .int n => truthOfInteger n
  | .text s => truthText s
  | .real x => match x.toInt? with
    | some n => truthOfInteger n
    | none => .problem .notTruth
  | _ => .problem .notTruth

/-- A text, or nothing. -/
def optionalText : Json → Checked (Option String)
  | .null => .value none
  | v => (anyText v).map some

def list {α : Type} (check : Json → Checked α) : Json → Checked (List α)
  | .list items => Checked.items check items
  | _ => .problem .notList

/-! ### Records -/

/-- The check of a field that has to be there. -/
def field {α : Type} (fields : Json.Fields) (key : String) (check : Json → Checked α) : Checked α :=
  match Json.Fields.get? fields key with
  | some v => (check v).under (.field key)
  | none => .issues [{ places := [.field key], problem := .missing }]

/-- The check of a field that stands for a fixed value where it is not given. -/
def fieldOr {α : Type} (fields : Json.Fields) (key : String) (value : α) (check : Json → Checked α) :
    Checked α :=
  match Json.Fields.get? fields key with
  | some v => (check v).under (.field key)
  | none => .value value

/-- The check of an object; `otherwise` is the problem of any other value. -/
def record {α : Type} (otherwise : Problem) (check : Json.Fields → Checked α) : Json → Checked α
  | .object fields => check fields
  | _ => .problem otherwise

end PayoutRegistry.Form
