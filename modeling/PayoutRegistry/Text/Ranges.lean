/-!
Tables of code points. A table is written as numbers in base 36 with blanks between them: for ranges,
the gap since the range before and the length less one, in turn.
-/
namespace PayoutRegistry

def base36Digit (c : Char) : Nat := if c.isDigit then c.toNat - 48 else c.toNat - 87

/-- The numbers in a text. -/
def numbers (s : String) : List Nat :=
  go 0 s.toList
where
  /-- `n` is the part already read of the number that stands here. -/
  go (n : Nat) : List Char → List Nat
    | [] => [n]
    | ' ' :: rest => n :: go 0 rest
    | c :: rest => go (n * 36 + base36Digit c) rest

/-- Ascending closed ranges of code points. -/
structure CodeRanges where
  ranges : List (Nat × Nat)
deriving Repr

namespace CodeRanges

def ofNumbers (next : Nat) : List Nat → List (Nat × Nat)
  | gap :: more :: rest => (next + gap, next + gap + more) :: ofNumbers (next + gap + more + 1) rest
  | _ => []

def parse (s : String) : CodeRanges := { ranges := ofNumbers 0 (numbers s) }

def contains (t : CodeRanges) (c : Char) : Bool :=
  t.ranges.any fun r => r.1 ≤ c.toNat && c.toNat ≤ r.2

end CodeRanges

end PayoutRegistry
