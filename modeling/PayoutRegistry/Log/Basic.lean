import PayoutRegistry.Log.Template
import PayoutRegistry.Time.Moment
import PayoutRegistry.Text.LetterCase

/-!
Log records and the two forms in which they are written. The structured form is one JSON object on one
line; of the extra fields of a record it shows only those on a fixed list.
-/
namespace PayoutRegistry

namespace Log

/-- The levels that have a name. -/
def levelNames : List (Int × String) :=
  [(50, "CRITICAL"), (40, "ERROR"), (30, "WARNING"), (20, "INFO"), (10, "DEBUG"), (0, "NOTSET")]

def levelName (level : Int) : String := (levelNames.lookup level).getD s!"Level {level}"

/-- The extra fields that are shown, in their order. -/
def extraFields : List String := ["user_id", "account_id", "error_type", "is_primary", "reused"]

/-- Truth values and whole numbers are shown as such, all else as plain text. -/
def extraValue : Json → Json
  | .bool b => .bool b
  | .int n => .int n
  | v => .text v.plain

end Log

/-- Something that happened, at a level of importance. -/
structure LogRecord where
  logger : String
  level : Int
  message : String
  extras : Json.Fields
  failure : Option Failure
  /-- The lines above the failure in its report, which say where it arose. -/
  trace : String := ""

namespace LogRecord

/-- The shown extra fields that the record has, in order. -/
def shownExtras (r : LogRecord) : Json.Fields :=
  Log.extraFields.filterMap fun key =>
    match Json.Fields.get? r.extras key with
    | none | some .null => none
    | some v => some (key, Log.extraValue v)

/-- The object that the structured form writes. -/
def fields (r : LogRecord) (at' : Instant) : Json.Fields :=
  [("timestamp", .text (Moment.utc at').text), ("level", .text (Log.levelName r.level)),
    ("logger", .text r.logger), ("message", .text r.message)] ++ r.shownExtras ++
    (r.failure.toList.map fun f => ("exception", Json.text (r.trace ++ f.logText)))

def line (r : LogRecord) (at' : Instant) : String := (Json.object (r.fields at')).print .spaced

/-- The line of a record whose message still has places for arguments. -/
def lineWith (r : LogRecord) (args : List Json) (at' : Instant) : Except Failure String :=
  return { r with message := ← Log.expand r.message args }.line at'

/-- The form for people: the time, the level, the logger and the message. -/
def textLine (r : LogRecord) (time : String) : String :=
  s!"{time} {Log.levelName r.level} {r.logger} {r.message}"

end LogRecord

/-- How the log is set up: the least level, and which form is written. -/
structure LogSetup where
  level : Nat
  structured : Bool
deriving DecidableEq, Repr

namespace LogSetup

/-- The level that a word names, in any case; every other word means 20. -/
def levelOf (word : String) : Nat :=
  match Text.uppercase word with
  | "CRITICAL" | "FATAL" => 50
  | "ERROR" => 40
  | "WARNING" | "WARN" => 30
  | "DEBUG" => 10
  | "NOTSET" => 0
  | _ => 20

/-- Only the first setup counts. -/
def setUp (current : Option LogSetup) (level form : String) : LogSetup :=
  current.getD { level := levelOf level, structured := form == "json" }

end LogSetup

end PayoutRegistry
