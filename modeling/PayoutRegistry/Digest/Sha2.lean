import PayoutRegistry.Digest.Constants
import PayoutRegistry.Text.Utf8

/-!
The SHA-2 digests of byte strings. The members of the family share one compression function over words
of width `w` and differ in their constants, rotations and the length of the answer.
-/
namespace PayoutRegistry.Digest

/-- Two rotations and a third one, or a shift in its place. -/
structure Mix where
  first : Nat
  second : Nat
  third : Nat
  shifts : Bool

namespace Mix

variable {w : Nat}

def apply (m : Mix) (x : BitVec w) : BitVec w :=
  x.rotateRight m.first ^^^ x.rotateRight m.second ^^^
    (if m.shifts then x >>> m.third else x.rotateRight m.third)

end Mix

/-- What a member of the family is made of. -/
structure Family (w : Nat) where
  initial : List (BitVec w)
  rounds : List (BitVec w)
  upperA : Mix
  upperE : Mix
  lower15 : Mix
  lower2 : Mix
  answerBytes : Nat

/-- The eight working words. -/
structure Working (w : Nat) where
  a : BitVec w
  b : BitVec w
  c : BitVec w
  d : BitVec w
  e : BitVec w
  f : BitVec w
  g : BitVec w
  h : BitVec w

variable {w : Nat}

namespace Working

def ofList (l : List (BitVec w)) : Working w :=
  { a := l.getD 0 0, b := l.getD 1 0, c := l.getD 2 0, d := l.getD 3 0,
    e := l.getD 4 0, f := l.getD 5 0, g := l.getD 6 0, h := l.getD 7 0 }

def toList (s : Working w) : List (BitVec w) := [s.a, s.b, s.c, s.d, s.e, s.f, s.g, s.h]

def add (s t : Working w) : Working w := ofList (s.toList.zipWith (· + ·) t.toList)

end Working

namespace Family

variable (p : Family w)

/-- One round with a round constant and a word of the schedule. -/
def round (s : Working w) (k x : BitVec w) : Working w :=
  let choice := (s.e &&& s.f) ^^^ (~~~s.e &&& s.g)
  let majority := (s.a &&& s.b) ^^^ (s.a &&& s.c) ^^^ (s.b &&& s.c)
  let t := s.h + p.upperE.apply s.e + choice + k + x
  { a := t + (p.upperA.apply s.a + majority), b := s.a, c := s.b, d := s.c,
    e := s.d + t, f := s.e, g := s.f, h := s.g }

/-- Extends the schedule, held latest word first, by `count` words. -/
def extend (words : List (BitVec w)) : Nat → List (BitVec w)
  | 0 => words
  | count + 1 =>
    let word := p.lower2.apply (words.getD 1 0) + words.getD 6 0 +
      p.lower15.apply (words.getD 14 0) + words.getD 15 0
    extend (word :: words) count

def compress (s : Working w) (block : List (BitVec w)) : Working w :=
  let schedule := (extend p block.reverse (p.rounds.length - 16)).reverse
  s.add ((p.rounds.zip schedule).foldl (fun s (k, x) => p.round s k x) s)

end Family

/-- A natural in `count` bytes, the highest first. -/
def bigEndian (count n : Nat) : Bytes :=
  (List.range count).reverse.map fun k => UInt8.ofNat (n / Nat.pow 256 k % 256)

def ofBigEndian (bytes : Bytes) : Nat := bytes.foldl (fun n b => n * 256 + b.toNat) 0

/-- Consecutive pieces of `size` elements; `count` bounds their number. -/
def pieces {α : Type} (size : Nat) : Nat → List α → List (List α)
  | 0, _ => []
  | count + 1, l => if l.isEmpty then [] else l.take size :: pieces size count (l.drop size)

/-- The message with its end mark, zeros, and its length in bits, filling whole blocks of sixteen
words. -/
def padded (wordBytes : Nat) (message : Bytes) : Bytes :=
  let block := 16 * wordBytes
  let used := message.length + 1 + 2 * wordBytes
  let gap := (block - used % block) % block
  message ++ 0x80 :: List.replicate gap 0 ++ bigEndian (2 * wordBytes) (8 * message.length)

def Family.digest (p : Family w) (message : Bytes) : Bytes :=
  let wordBytes := w / 8
  let whole := padded wordBytes message
  let blocks := (pieces (16 * wordBytes) whole.length whole).map fun block =>
    (pieces wordBytes 16 block).map fun bytes => BitVec.ofNat w (ofBigEndian bytes)
  let final := blocks.foldl p.compress (Working.ofList p.initial)
  (final.toList.flatMap fun x => bigEndian wordBytes x.toNat).take p.answerBytes

def sha256 : Family 32 where
  initial := initial256
  rounds := rounds256
  upperA := { first := 2, second := 13, third := 22, shifts := false }
  upperE := { first := 6, second := 11, third := 25, shifts := false }
  lower15 := { first := 7, second := 18, third := 3, shifts := true }
  lower2 := { first := 17, second := 19, third := 10, shifts := true }
  answerBytes := 32

def sha512 : Family 64 where
  initial := initial512
  rounds := rounds512
  upperA := { first := 28, second := 34, third := 39, shifts := false }
  upperE := { first := 14, second := 18, third := 41, shifts := false }
  lower15 := { first := 1, second := 8, third := 7, shifts := true }
  lower2 := { first := 19, second := 61, third := 6, shifts := true }
  answerBytes := 64

def sha384 : Family 64 := { sha512 with initial := initial384, answerBytes := 48 }

end PayoutRegistry.Digest
