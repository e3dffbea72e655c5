import PayoutRegistry.Time.Moment
import PayoutRegistry.Binary64.Basic
import PayoutRegistry.Failure

/-!
One-time codes. A code is a number of six digits that does not begin with zero, and it is accepted up to
and including its deadline.
-/
namespace PayoutRegistry.Code

/-- The least code. -/
def least : Nat := 100000

/-- How many codes there are. -/
def count : Nat := 900000

/-- The code for a random draw below `count`. -/
def ofDraw (draw : Nat) : String := toString (least + draw)

/-- Minutes for which a code is valid where nothing else is said. -/
def defaultMinutes : Int := 15

/-- The deadline of a code issued at an instant. -/
def deadline? (minutes : Int) (issued : Instant) : Option Instant :=
  issued.add? (minutes * microsPerMinute)

/-- Whether a deadline has passed. What has no deadline has passed. -/
def isPast (deadline : Option Instant) (now : Instant) : Bool :=
  match deadline with
  | none => true
  | some t => t < now

/-- The deadline, at UTC, of a code issued at a reading of a clock. Neither the reading nor the deadline may leave
the years that have a date. -/
def dueAt (minutes : Int) (issued : Moment) : Except Failure Moment :=
  match issued.instant?.bind (deadline? minutes) with
  | some t => .ok (.utc t)
  | none => .error .overflow

/-- Whether a deadline has passed at a reading of a clock. What has no deadline has passed; otherwise neither of the
two may leave the years that have a date. -/
def hasPassed (deadline : Option Moment) (now : Moment) : Except Failure Bool :=
  match deadline with
  | none => .ok true
  | some m =>
    match now.instant?, m.instant? with
    | some now, some t => .ok (isPast (some t) now)
    | _, _ => .error .overflow

/-- Whole minutes in a number of microseconds: the seconds are found first, then the minutes, each as the
nearest binary fraction, and halves go to the even neighbour. -/
def minutesIn (micros : Int) : Int :=
  let seconds := Binary64.ofRatio (micros < 0) micros.natAbs microsPerSecond
  ((seconds.divNat 60).round?).getD 0

end PayoutRegistry.Code
