import PayoutRegistry.Text.CompositionTable

/-!
Canonical composition of a text: characters are taken apart, marks are put in order of their combining
class, and what composes is put together again. ASCII text is left as it is.
-/
namespace PayoutRegistry.Text

namespace Hangul

def syllableBase : Nat := 0xAC00
def leadBase : Nat := 0x1100
def vowelBase : Nat := 0x1161
def trailBase : Nat := 0x11A7
def leads : Nat := 19
def vowels : Nat := 21
def trails : Nat := 28

def isSyllable (n : Nat) : Bool := syllableBase ≤ n && n < syllableBase + leads * vowels * trails

/-- The letters of a syllable. -/
def letters (n : Nat) : List Nat :=
  let index := n - syllableBase
  let trail := index % trails
  [leadBase + index / (vowels * trails), vowelBase + index / trails % vowels] ++
    (if trail = 0 then [] else [trailBase + trail])

/-- The syllable of a lead and a vowel, or of an open syllable and a trail. -/
def compose? (a b : Nat) : Option Nat :=
  if leadBase ≤ a ∧ a < leadBase + leads ∧ vowelBase ≤ b ∧ b < vowelBase + vowels then
    some (syllableBase + ((a - leadBase) * vowels + (b - vowelBase)) * trails)
  else if isSyllable a ∧ (a - syllableBase) % trails = 0 ∧ trailBase < b ∧ b < trailBase + trails then
    some (a + (b - trailBase))
  else none

end Hangul

def combiningClass (n : Nat) : Nat :=
  ((classRanges.find? fun r => r.1 ≤ n && n ≤ r.2.1).map (·.2.2)).getD 0

/-- The full decomposition of a character. No chain in the table is longer than `steps` is meant to
be, which is four. -/
def decomposed : Nat → Nat → List Nat
  | 0, n => [n]
  | steps + 1, n =>
    if n < 0x80 then [n]
    else if Hangul.isSyllable n then Hangul.letters n
    else match decompositions.lookup n with
      | some (.single code) => decomposed steps code
      | some (.pair first second _) => decomposed steps first ++ [second]
      | none => [n]

/-- Puts a mark behind those before it whose class is not greater; `done` is reversed. -/
def insertMark (cls n : Nat) : List (Nat × Nat) → List (Nat × Nat)
  | (c, m) :: done => if cls < c then (c, m) :: insertMark cls n done else (cls, n) :: (c, m) :: done
  | [] => [(cls, n)]

/-- Orders each run of marks by class, keeping marks of one class in place. -/
def ordered (codes : List Nat) : List (Nat × Nat) :=
  (codes.foldl (fun done n =>
    match combiningClass n with
    | 0 => (0, n) :: done
    | cls => insertMark cls n done) []).reverse

def compose? (a b : Nat) : Option Nat :=
  match Hangul.compose? a b with
  | some n => some n
  | none => decompositions.findSome? fun (n, d) => if d = .pair a b true then some n else none

/-- A composition under way: what is finished, the last starter, the marks kept after it (reversed)
and the class of the last of them. -/
structure Composing where
  finished : List Nat
  starter : Option Nat
  marks : List Nat
  lastClass : Nat

namespace Composing

def flush (s : Composing) : List Nat := s.marks ++ s.starter.toList ++ s.finished

/-- A character joins the starter unless something between them blocks it. -/
def step (s : Composing) (x : Nat × Nat) : Composing :=
  let (cls, n) := x
  let open' : Bool := s.marks.isEmpty || (s.lastClass < cls)
  match s.starter, if open' then s.starter.bind (compose? · n) else none with
  | some _, some joined => { s with starter := some joined }
  | _, _ =>
    if cls = 0 then { finished := s.flush, starter := some n, marks := [], lastClass := 0 }
    else { s with marks := n :: s.marks, lastClass := cls }

end Composing

/-- The canonical composition of a text. -/
def composed (s : String) : String :=
  if s.toList.all (·.toNat < 0x80) then s
  else
    let codes := s.toList.flatMap fun c => decomposed 4 c.toNat
    let start : Composing := { finished := [], starter := none, marks := [], lastClass := 0 }
    String.ofList (((ordered codes).foldl Composing.step start).flush.reverse.map Char.ofNat)

end PayoutRegistry.Text
