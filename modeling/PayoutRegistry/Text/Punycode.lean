import PayoutRegistry.Text.Utf8

/-!
Labels of domain names in ASCII. The ASCII characters of a label come first; each other character then
follows as the distance from the one before it, in order of code, as a number of varying length whose
digits have the base 36.
-/
namespace PayoutRegistry.Text.Punycode

def digit (d : Nat) : Char := Char.ofNat (if d < 26 then 97 + d else 22 + d)

def value? (c : Char) : Option Nat :=
  if 'a' ≤ c ∧ c ≤ 'z' then some (c.toNat - 97)
  else if 'A' ≤ c ∧ c ≤ 'Z' then some (c.toNat - 65)
  else if '0' ≤ c ∧ c ≤ '9' then some (c.toNat - 22)
  else none

/-- The least digit value, at a place, after which another digit follows. -/
def threshold (bias place : Nat) : Nat := max 1 (min 26 (place - bias))

def settle (delta places : Nat) : Nat :=
  if 455 < delta then settle (delta / 35) (places + 36) else places + 36 * delta / (delta + 38)
termination_by delta
decreasing_by omega

/-- The bias for the next distance. -/
def adapt (delta count : Nat) (first : Bool) : Nat :=
  let delta := if first then delta / 700 else delta / 2
  settle (delta + delta / count) 0

def distance (bias place q : Nat) : List Char :=
  let t := threshold bias place
  if q < t then [digit q]
  else digit (t + (q - t) % (36 - t)) :: distance bias (place + 36) ((q - t) / (36 - t))
termination_by q
decreasing_by
  rename_i h
  have h1 : 1 ≤ threshold bias place := by unfold threshold; omega
  have h2 := Nat.div_le_self (q - threshold bias place) (36 - threshold bias place)
  omega

/-- How far a label has been written. -/
structure Writing where
  out : List Char
  delta : Nat
  bias : Nat
  done : Nat

/-- One character of the label, while those with code `code` are written. -/
def Writing.push (basic code : Nat) (w : Writing) (c : Char) : Writing :=
  if c.toNat < code then { w with delta := w.delta + 1 }
  else if c.toNat = code then
    { out := w.out ++ distance w.bias 36 w.delta, delta := 0,
      bias := adapt w.delta (w.done + 1) (w.done == basic), done := w.done + 1 }
  else w

/-- The written form of a label, without a mark in front. -/
def encode (label : List Char) : List Char :=
  let basic := label.filter (·.toNat < 0x80)
  let codes := ((label.map Char.toNat).filter (0x80 ≤ ·)).mergeSort.eraseDups
  let start : Writing := { out := [], delta := 0, bias := 72, done := basic.length }
  let (w, _) := codes.foldl (fun (w, next) code =>
    let w := { w with delta := w.delta + (code - next) * (w.done + 1) }
    let w := label.foldl (Writing.push basic.length code) w
    ({ w with delta := w.delta + 1 }, code + 1)) (start, 0x80)
  basic ++ (if basic.isEmpty then [] else ['-']) ++ w.out

/-- A distance read from the digits, and the characters after it. -/
def readDistance (bias place weight sum : Nat) : List Char → Option (Nat × List Char)
  | [] => none
  | c :: rest =>
    match value? c with
    | none => none
    | some d =>
      let t := threshold bias place
      let sum := sum + d * weight
      if d < t then some (sum, rest) else readDistance bias (place + 36) (weight * (36 - t)) sum rest

/-- Puts in the characters that the distances stand for, in at most `steps` steps. -/
def insertAll (steps : Nat) (label : List Char) (code position bias : Nat) (cs : List Char) :
    Option (List Char) :=
  match steps, cs with
  | _, [] => some label
  | 0, _ => none
  | steps + 1, cs => do
    let (d, rest) ← readDistance bias 36 1 0 cs
    let size := label.length + 1
    let position' := position + d
    let code := code + position' / size
    if 0x10FFFF < code ∨ (0xD800 ≤ code ∧ code < 0xE000) then none
    let place := position' % size
    insertAll steps (label.take place ++ Char.ofNat code :: label.drop place) code (place + 1)
      (adapt d size (position == 0)) rest

/-- The label that a written form denotes. -/
def decode? (written : List Char) : Option (List Char) :=
  if written.all (·.toNat < 0x80) then
    match written.reverse.span (· != '-') with
    | (tail, []) => insertAll tail.length [] 0x80 0 72 tail.reverse
    | (tail, _ :: head) => insertAll tail.length head.reverse 0x80 0 72 tail.reverse
  else none

end PayoutRegistry.Text.Punycode
