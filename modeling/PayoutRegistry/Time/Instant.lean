import PayoutRegistry.Time.Calendar

/-!
Points on the time line in microseconds, from the start of year 1 to the end of year 9999. A sum that
leaves these years has no value.
-/
namespace PayoutRegistry

def microsPerSecond : Nat := 1000000

def microsPerMinute : Nat := 60 * microsPerSecond

def microsPerDay : Nat := 86400 * microsPerSecond

/-- The microseconds of all years. -/
def microsLimit : Nat := 3652059 * microsPerDay

/-- Microseconds since the start of year 1. -/
structure Instant where
  micros : Nat
  micros_lt : micros < microsLimit
deriving DecidableEq, Repr

namespace Instant

def ofMicros? (n : Int) : Option Instant :=
  if h : 0 ≤ n ∧ n < microsLimit then some { micros := n.toNat, micros_lt := by omega } else none

/-- The instant that lies `delta` microseconds later. -/
def add? (t : Instant) (delta : Int) : Option Instant := ofMicros? (t.micros + delta)

/-- The microseconds from one instant to another. -/
def since (t s : Instant) : Int := t.micros - s.micros

/-- The start of the year 1970, from which whole seconds are counted. -/
def epochMicros : Nat := 719162 * microsPerDay

/-- Whole seconds since the start of 1970, rounded down. -/
def unixSeconds (t : Instant) : Int := Int.fdiv ((t.micros : Int) - epochMicros) microsPerSecond

instance : Inhabited Instant := ⟨{ micros := 0, micros_lt := by decide }⟩

instance : LE Instant := ⟨fun s t => s.micros ≤ t.micros⟩

instance : LT Instant := ⟨fun s t => s.micros < t.micros⟩

instance (s t : Instant) : Decidable (s ≤ t) := inferInstanceAs (Decidable (s.micros ≤ t.micros))

instance (s t : Instant) : Decidable (s < t) := inferInstanceAs (Decidable (s.micros < t.micros))

end Instant

end PayoutRegistry
