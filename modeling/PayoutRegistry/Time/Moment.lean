import PayoutRegistry.Time.Instant

/-!
Readings of a clock: a date and a time of day, with the offset from UTC if it is known. A reading
without an offset stands for UTC.

The text of a reading is `YYYY-MM-DDTHH:MM:SS`, six digits of microseconds where they are not zero,
and the offset.
-/
namespace PayoutRegistry

/-- A reading of a clock and the microseconds by which it is ahead of UTC. -/
structure Moment where
  wall : Instant
  offset : Option Int
deriving DecidableEq, Repr

namespace Moment

def utc (t : Instant) : Moment := { wall := t, offset := some 0 }

/-- The point in time that is meant, unless it lies outside the years that have a date. -/
def instant? (m : Moment) : Option Instant := m.wall.add? (-(m.offset.getD 0))

/-- The reading at UTC of the same point in time. -/
def asUtc? (m : Moment) : Option Moment := m.instant?.map utc

def padded (width n : Nat) : String :=
  let digits := toString n
  String.ofList (List.replicate (width - digits.length) '0') ++ digits

/-- Six digits behind a point, where the fraction of a second is not zero. -/
def fractionText (fraction : Nat) : String :=
  if fraction = 0 then "" else "." ++ padded 6 fraction

/-- Hours, minutes, and seconds and their fraction where there are any, behind a sign. -/
def offsetText (offset : Int) : String :=
  let n := offset.natAbs
  let seconds := n / microsPerSecond
  (if offset < 0 then "-" else "+") ++ padded 2 (seconds / 3600) ++ ":" ++ padded 2 (seconds / 60 % 60) ++
    (if n % microsPerMinute = 0 then "" else
      ":" ++ padded 2 (seconds % 60) ++ fractionText (n % microsPerSecond))

def dateText (t : Instant) : String :=
  let date := Date.ofDayNumber (t.micros / microsPerDay)
  padded 4 date.year ++ "-" ++ padded 2 date.month ++ "-" ++ padded 2 date.day

/-- The time of day in whole seconds. -/
def clockText (t : Instant) : String :=
  let seconds := t.micros % microsPerDay / microsPerSecond
  padded 2 (seconds / 3600) ++ ":" ++ padded 2 (seconds / 60 % 60) ++ ":" ++ padded 2 (seconds % 60)

def wallText (t : Instant) : String :=
  dateText t ++ "T" ++ clockText t ++ fractionText (t.micros % microsPerSecond)

/-- The text under which a database keeps a point in time, with all digits written out. -/
def storedText (t : Instant) : String :=
  dateText t ++ " " ++ clockText t ++ "." ++ padded 6 (t.micros % microsPerSecond)

def text (m : Moment) : String :=
  wallText m.wall ++ (match m.offset with
    | none => ""
    | some offset => offsetText offset)

/-! ### Reading -/

/-- A number of exactly `count` digits, and what follows it. -/
def fixed? (count : Nat) (cs : List Char) : Option (Nat × List Char) :=
  let digits := cs.take count
  if digits.length = count ∧ digits.all Char.isDigit then
    some (digits.foldl (fun n c => n * 10 + (c.toNat - 48)) 0, cs.drop count)
  else none

def expect? (c : Char) : List Char → Option (List Char)
  | d :: rest => if c = d then some rest else none
  | [] => none

/-- Microseconds from the digits after a point; digits past the sixth are dropped. -/
def fraction? (cs : List Char) : Option (Nat × List Char) :=
  match cs with
  | '.' :: rest =>
    match rest.span Char.isDigit with
    | ([], _) => none
    | (digits, rest) =>
      let six := (digits ++ List.replicate 6 '0').take 6
      some (six.foldl (fun n c => n * 10 + (c.toNat - 48)) 0, rest)
  | cs => some (0, cs)

/-- The seconds after `HH:MM`, where they are written, and their fraction in microseconds. -/
def seconds? (cs : List Char) : Option (Nat × List Char) :=
  match cs with
  | ':' :: rest => do
    let (s, rest) ← fixed? 2 rest
    let (fraction, rest) ← fraction? rest
    if s < 60 then some (s * microsPerSecond + fraction, rest) else none
  | cs => some (0, cs)

/-- A time of day in microseconds. -/
def timeOfDay? (cs : List Char) : Option (Nat × List Char) := do
  let (h, rest) ← fixed? 2 cs
  let rest ← expect? ':' rest
  let (m, rest) ← fixed? 2 rest
  let (s, rest) ← seconds? rest
  if h < 24 ∧ m < 60 then some ((h * 60 + m) * microsPerMinute + s, rest) else none

def date? (cs : List Char) : Option (Date × List Char) := do
  let (year, rest) ← fixed? 4 cs
  let rest ← expect? '-' rest
  let (month, rest) ← fixed? 2 rest
  let rest ← expect? '-' rest
  let (day, rest) ← fixed? 2 rest
  let date : Date := { year, month, day }
  if date.isValid then some (date, rest) else none

/-- The offset that ends a reading; `none` inside stands for no offset. -/
def offset? (cs : List Char) : Option (Option Int) :=
  match cs with
  | [] => some none
  | ['Z'] => some (some 0)
  | sign :: rest => do
    if sign ≠ '+' ∧ sign ≠ '-' then none
    let (h, rest) ← fixed? 2 rest
    let rest ← expect? ':' rest
    let (m, rest) ← fixed? 2 rest
    let (s, rest) ← seconds? rest
    let total := (h * 60 + m) * microsPerMinute + s
    if rest.isEmpty ∧ m < 60 ∧ total < microsPerDay then some (some (if sign = '-' then -total else total))
    else none

/-- The wall clock of a date and a time of day. -/
def wall? (date : Date) (time : Nat) : Option Instant :=
  Instant.ofMicros? (date.dayNumber * microsPerDay + time)

/-- The reading that a text denotes; a date alone is its midnight. -/
def ofText? (s : String) : Option Moment := do
  let (date, rest) ← date? s.toList
  match rest with
  | [] => return { wall := ← wall? date 0, offset := none }
  | separator :: rest =>
    if separator ≠ 'T' ∧ separator ≠ ' ' then none
    let (time, rest) ← timeOfDay? rest
    let offset ← offset? rest
    return { wall := ← wall? date time, offset }

end Moment

end PayoutRegistry
