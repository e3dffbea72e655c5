import PayoutRegistry.Form.Scalar
import PayoutRegistry.Time.Moment

/-!
Readings of a clock in forms: the written form with a few freedoms, a date alone, or a number of seconds
or milliseconds since the start of 1970. They are written with `Z` for UTC.
-/
namespace PayoutRegistry.Form

/-- The microseconds after a point or comma; digits past the sixth are dropped. -/
def fraction? (cs : List Char) : Option (Nat × List Char) :=
  match cs with
  | c :: rest => if c = ',' then Moment.fraction? ('.' :: rest) else Moment.fraction? cs
  | [] => some (0, [])

/-- Hours and minutes, perhaps with seconds, in microseconds. -/
def timeOfDay? (cs : List Char) : Option (Nat × List Char) := do
  let (h, rest) ← Moment.fixed? 2 cs
  let rest ← Moment.expect? ':' rest
  let (m, rest) ← Moment.fixed? 2 rest
  if ¬(h < 24 ∧ m < 60) then none
  match rest with
  | ':' :: rest =>
    let (s, rest) ← Moment.fixed? 2 rest
    let (micros, rest) ← fraction? rest
    if s < 60 then some ((h * 60 + m) * microsPerMinute + s * microsPerSecond + micros, rest) else none
  | rest => some ((h * 60 + m) * microsPerMinute, rest)

/-- The offset that ends a reading; the colon in it may be left out. -/
def offset? (cs : List Char) : Option (Option Int) :=
  match cs with
  | [] => some none
  | ['Z'] | ['z'] => some (some 0)
  | sign :: rest => do
    if sign ≠ '+' ∧ sign ≠ '-' ∧ sign ≠ '\u2212' then none
    let (h, rest) ← Moment.fixed? 2 rest
    let (m, rest) ← Moment.fixed? 2 (match rest with
      | ':' :: rest => rest
      | rest => rest)
    let total : Int := (h * 60 + m) * microsPerMinute
    if rest.isEmpty ∧ m < 60 ∧ h < 24 then some (some (if sign = '+' then total else -total)) else none

def writtenMoment? (cs : List Char) : Option Moment := do
  let (date, rest) ← Moment.date? cs
  match rest with
  | [] => return { wall := ← Moment.wall? date 0, offset := none }
  | separator :: rest =>
    if separator ∉ ['T', 't', ' ', '_'] then none
    let (time, rest) ← timeOfDay? rest
    let offset ← offset? rest
    return { wall := ← Moment.wall? date time, offset }

/-- Larger counts are of milliseconds. -/
def mostSeconds : Nat := 20000000000

/-- The start of the year 1600 in seconds from the start of 1970, before which no count reaches. -/
def firstSecond : Int := -11676096000

/-- The last second of the year 9999. -/
def lastSecond : Int := 253402300799

/-- The reading that is some seconds and microseconds after the start of 1970. -/
def secondsMoment? (seconds : Int) (micros : Nat) : Option Moment :=
  let seconds := seconds + micros / microsPerSecond
  if firstSecond ≤ seconds ∧ seconds ≤ lastSecond then
    let sinceEpoch := seconds * microsPerSecond + micros % microsPerSecond
    (Instant.ofMicros? (Instant.epochMicros + sinceEpoch)).map Moment.utc
  else none

/-- The reading of a count of seconds or of milliseconds, and microseconds beside it. -/
def countedMoment? (count : Int) (micros : Nat) : Option Moment :=
  if mostSeconds < count.natAbs then
    secondsMoment? (count.fdiv 1000) (micros + (count.fmod 1000).toNat * 1000)
  else secondsMoment? count micros

/-- The reading of a binary fraction: its whole part counts as any count does, and the digits after the
point give microseconds. -/
def realMoment? (x : Binary64) : Option Moment := do
  countedMoment? (← x.floor?) (← (x.magnitude.fraction.timesNat 1000000).roundAway?)

/-- The reading of a count with a point that is given as text. -/
def pointedMoment? (x : Binary64) : Option Moment := do
  let count := (← x.truncate?).natAbs
  let inMillis := mostSeconds < count ∨ (count = mostSeconds ∧ x.toInt? = none)
  let seconds := if inMillis then x.divNat 1000 else x
  countedMoment? (← seconds.floor?) (← (seconds.fraction.timesNat 1000000).roundAway?)

/-- The reading of digits with a sign, and perhaps with a point. -/
def numeralMoment? (s : String) : Option Moment :=
  let (negative, cs) := Numeral.splitSign s.toList
  let (whole, rest) := cs.span Char.isDigit
  if whole.isEmpty then none
  else match rest with
    | [] => countedMoment? (Binary64.signed negative (digitsValue whole)) 0
    | '.' :: fraction =>
      if fraction.all Char.isDigit then (decimal? negative cs).bind pointedMoment? else none
    | _ => none

/-- Whole numbers from here on are no counts at all. -/
def countLimit : Nat := Nat.pow 2 1024

def moment : Json → Checked Moment
  | .text s =>
    match (writtenMoment? s.toList).or (numeralMoment? s) with
    | some m => .value m
    | none => .problem .unreadableDate
  | .int n =>
    match countedMoment? n 0 with
    | some m => .value m
    | none => .problem (if n.natAbs < countLimit then .unreadableMoment else .notMoment)
  | .real x =>
    match realMoment? x with
    | some m => .value m
    | none => .problem .unreadableMoment
  | _ => .problem .notMoment

/-- The written form in answers. -/
def momentText (m : Moment) : String :=
  Moment.wallText m.wall ++ (match m.offset with
    | none => ""
    | some 0 => "Z"
    | some offset => Moment.offsetText offset)

end PayoutRegistry.Form
