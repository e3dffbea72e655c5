import PayoutRegistry.Text.Ranges

/-!
Upper and lower case without regard to language or position, as of Unicode 14. Most characters move by
a fixed distance within a run; a few become two or three characters.
-/
namespace PayoutRegistry.Text

/-- Characters `first`, `first + step`, … whose other case lies `distance` away. -/
structure CaseRun where
  first : Nat
  count : Nat
  step : Nat
  distance : Int
deriving DecidableEq, Repr

namespace CaseRun

def contains (r : CaseRun) (n : Nat) : Bool :=
  r.first ≤ n && n < r.first + r.count * r.step && (n - r.first) % r.step == 0

/-- Runs from numbers in groups of four: the distance of the first character from that of the run
before, the count, the step, and the distance to the other case with its sign in the lowest bit. -/
def ofNumbers (last : Nat) : List Nat → List CaseRun
  | gap :: count :: step :: move :: rest =>
    let distance : Int := if move % 2 = 0 then move / 2 else -((move + 1) / 2 : Nat)
    { first := last + gap, count, step, distance } :: ofNumbers (last + gap) rest
  | _ => []

end CaseRun

/-- Lists of code points from numbers: a gap from the key before, a length, and that many codes. -/
def mappingsOfNumbers (last : Nat) : Nat → List Nat → List (Nat × List Nat)
  | steps + 1, gap :: length :: rest =>
    (last + gap, rest.take length) :: mappingsOfNumbers (last + gap) steps (rest.drop length)
  | _, _ => []

/-- A change of case: the runs, and the characters that become more than one. -/
structure CaseMap where
  runs : List CaseRun
  expansions : List (Nat × List Nat)

namespace CaseMap

def char (m : CaseMap) (c : Char) : List Char :=
  match m.expansions.lookup c.toNat with
  | some codes => codes.map Char.ofNat
  | none =>
    match m.runs.find? (·.contains c.toNat) with
    | some run => [Char.ofNat ((c.toNat : Int) + run.distance).toNat]
    | none => [c]

def text (m : CaseMap) (s : String) : String := String.ofList (s.toList.flatMap m.char)

end CaseMap

def upperCase : CaseMap where
  runs := CaseRun.ofNumbers 0 (numbers (String.join [
    "2p q 1 1r 2c 1 1 15a 17 n 1 1r o 7 1 1r 7 1 1 6q 2 o 2 1 1c 1 1 cv 2 3 2 1 7 8 2 1 h n 2 1 1b 3 ",
    "2 1 5 1 1 gn 1 1 1 au 3 2 2 1 5 1 1 1 4 1 1 1 6 1 1 1 3 1 1 5e 4 1 1 1 1 1 1 92 4 1 1 78 3 3 2 1 ",
    "7 1 1 1 5 1 1 1 3 1 1 1 4 2 2 1 5 1 1 1 4 1 1 1 2 1 1 34 6 1 1 1 1 1 1 3 2 1 1 1 1 1 1 3 2 1 1 1 ",
    "1 1 1 3 2 8 2 1 f 1 1 4d 2 9 2 1 j 1 1 1 1 1 1 3 2 1 1 1 4 k 2 1 16 9 2 1 p 1 1 1 3 2 1 gou 3 1 ",
    "1 1 5 5 2 1 9 1 1 gn2 1 1 1 gmw 1 1 1 gn0 1 1 1 bn 1 1 1 bf 2 2 1 bd 3 1 1 b7 2 1 1 b9 1 1 1 ",
    "1tb2 4 1 1 bd 1 1 1 1tau 2 1 1 bh 2 1 1 1t8w 1 1 1 1tag 2 1 1 bl 1 1 1 bp 1 1 1 1tag 1 1 1 gku 1 ",
    "1 1 1taa 3 1 1 bp 2 1 1 gl6 1 1 1 bt 3 1 1 bv 8 1 1 gjy 3 1 1 c3 2 1 1 1tae 1 1 1 c3 4 1 1 1t90 ",
    "1 1 1 c3 1 1 1 3t 1 2 1 c1 2 1 1 3x 6 1 1 c5 b 1 1 1t7u 1 1 1 1t7o 4n 1 1 4o 18 2 2 1 6 1 1 1 4 ",
    "3 1 78 1d 1 1 23 1 3 1 21 4 h 1 1r h 1 1 1p 1 9 1 1r 9 1 1 3j 1 2 1 3h 3 1 1 3f 1 1 1 35 4 1 1 ",
    "2l 1 1 1 2z 1 1 1 f 2 c 2 1 n 1 1 4r 1 1 1 4f 1 1 1 e 1 1 1 6f 2 1 1 5b 3 1 1 1 3 1 1 1 1h w 1 ",
    "1r w g 1 4f h h 2 1 16 r 2 1 1j 7 2 1 d 1 1 t 2 1c 2 1 40 12 1 2n 29b 17 1 4n4 19 3 1 4n4 l7 6 1 ",
    "f 1oo 1 1 9nf 1 1 1 9nd 1 1 1 9mv 1 2 1 9mr 2 1 1 9mt 1 1 1 9mf 1 1 1 9jd 1 1 1 1if8 6p 1 1 1iiw ",
    "4 1 1 5vw h 1 1 1ils 37 23 2 1 4a 1 1 39 6 1c 2 1 2n 8 1 g g 6 1 g g 8 1 g g 8 1 g g 6 1 g h 4 2 ",
    "g f 8 1 g g 2 1 44 2 4 1 4s 4 2 1 5k 2 2 1 74 2 2 1 68 2 2 1 70 1g 2 1 g e 1 1 b49 i 2 1 g g 2 1 ",
    "g 5 1 1 e a1 1 1 1j y g 1 v k 1 1 1 ng q 1 1f 1gg 1c 1 2n 1d 1 1 1 4 1 1 gnp 1 1 1 gnj 2 3 2 1 b ",
    "1 1 1 3 1 1 1 b 1e 2 1 2z 2 2 1 7 1 1 1 d 12 1 b7j 13 1 1 b7j 6 1 1 b7j nx0 n 2 1 1s e 2 1 4i 7 ",
    "2 1 g v 2 1 1z 2 2 1 5 5 2 1 d 1 1 1 5 2 2 1 3 1 1 2o 3 a 2 1 u 8 2 1 j 2 2 1 9 1 1 1 6 2 2 1 v ",
    "1 1 1 nx 1 1 1fj t 28 1 1nz3 gk1 q 1 1r yv 14 1 27 4w 10 1 27 5b b 1 25 c f 1 25 g 7 1 25 8 2 1 ",
    "25 1dx 1f 1 3j 2dc w 1 1r gww w 1 1r o8y y 1 1v"]))
  expansions := mappingsOfNumbers 0 200 (numbers (String.join [
    "67 2 2b 2b 2y 2 jg 26 4n 2 22 lo bk 3 pl lk ld w 3 px lk ld d3 2 111 11u 4y7 2 20 mp 1 2 2c lk 1 ",
    "2 2f lm 1 2 2h lm 1 2 1t ji 52 2 px lv 2 3 px lv lc 2 3 px lv ld 2 3 px lv n6 16 2 64o pl 1 2 ",
    "64p pl 1 2 64q pl 1 2 64r pl 1 2 64s pl 1 2 64t pl 1 2 64u pl 1 2 64v pl 1 2 64o pl 1 2 64p pl 1 ",
    "2 64q pl 1 2 64r pl 1 2 64s pl 1 2 64t pl 1 2 64u pl 1 2 64v pl 1 2 65k pl 1 2 65l pl 1 2 65m pl ",
    "1 2 65n pl 1 2 65o pl 1 2 65p pl 1 2 65q pl 1 2 65r pl 1 2 65k pl 1 2 65l pl 1 2 65m pl 1 2 65n ",
    "pl 1 2 65o pl 1 2 65p pl 1 2 65q pl 1 2 65r pl 1 2 67c pl 1 2 67d pl 1 2 67e pl 1 2 67f pl 1 2 ",
    "67g pl 1 2 67h pl 1 2 67i pl 1 2 67j pl 1 2 67c pl 1 2 67d pl 1 2 67e pl 1 2 67f pl 1 2 67g pl 1 ",
    "2 67h pl 1 2 67i pl 1 2 67j pl 3 2 69m pl 1 2 pd pl 1 2 p2 pl 2 2 pd n6 1 3 pd n6 pl 5 2 pd pl 6 ",
    "2 6a2 pl 1 2 pj pl 1 2 p5 pl 2 2 pj n6 1 3 pj n6 pl 5 2 pj pl 6 3 pl lk lc 1 3 pl lk ld 3 2 pl ",
    "n6 1 3 pl lk n6 b 3 px lk lc 1 3 px lk ld 1 2 pt lv 2 2 px n6 1 3 px lk n6 b 2 6be pl 1 2 q1 pl ",
    "1 2 pb pl 2 2 q1 n6 1 3 q1 n6 pl 5 2 q1 pl 179g 2 1y 1y 1 2 1y 21 1 2 1y 24 1 3 1y 1y 21 1 3 1y ",
    "1y 24 1 2 2b 2c 1 2 2b 2c d 2 11g 11i 1 2 11g 111 1 2 11g 117 1 2 11q 11i 1 2 11g 119"]))

def lowerCase : CaseMap where
  runs := CaseRun.ofNumbers 0 (numbers (String.join [
    "1t q 1 1s 3j n 1 1s o 7 1 1s 14 o 2 2 1e 3 2 2 7 8 2 2 h n 2 2 1a 1 1 6p 1 3 2 2 8 1 1 bo 1 2 2 ",
    "2 4 1 1 bg 1 1 1 2 2 2 1 be 2 1 1 2 3 1 1 4e 1 1 1 b8 1 1 1 ba 1 1 1 2 2 1 1 be 1 1 1 bi 2 1 1 ",
    "bq 1 1 1 bm 1 1 1 2 4 1 1 bq 1 1 1 bu 2 1 1 bw 1 3 2 2 6 1 1 c4 1 1 1 2 2 1 1 c4 3 1 1 2 2 1 1 ",
    "c4 1 1 1 2 2 2 1 c2 2 2 2 2 4 1 1 c6 1 1 1 2 4 1 1 2 8 1 1 4 1 1 1 2 2 1 1 4 1 1 1 2 2 1 1 4 1 9 ",
    "2 2 j 9 2 2 j 1 1 4 1 2 2 2 4 1 1 5d 1 1 1 33 1 k 2 2 14 1 1 77 2 9 2 2 o 1 1 gnq 1 1 1 2 2 1 1 ",
    "91 1 1 1 gnk 3 1 1 2 2 1 1 at 1 1 1 3u 1 1 1 3y 1 5 2 2 8a 2 2 2 6 1 1 2 9 1 1 6g 7 1 1 24 2 3 1 ",
    "22 4 1 1 3k 2 2 1 3i 3 h 1 1s i 9 1 1s 18 1 1 g 9 c 2 2 s 1 1 3b 3 1 1 2 2 1 1 d 1 1 1 2 3 3 1 ",
    "77 3 g 1 4g g w 1 1s 28 h 2 2 16 r 2 2 1i 1 1 u 1 7 2 2 f 1c 2 2 2p 12 1 2o 29b 12 1 b7k 13 1 1 ",
    "b7k 6 1 1 b7k k3 28 1 1nz4 28 6 1 g 1pc 17 1 4n3 19 3 1 4n3 8z 23 2 2 4e 1 1 br1 2 1c 2 2 2w 8 1 ",
    "f g 6 1 f g 8 1 f g 8 1 f g 6 1 f h 4 2 f f 8 1 f w 8 1 f g 8 1 f g 8 1 f g 2 1 f 2 2 1 43 2 1 1 ",
    "h c 4 1 4r 4 1 1 h c 2 1 f 2 2 1 5j e 2 1 f 2 2 1 67 2 1 1 d c 2 1 73 2 2 1 6z 2 1 1 h 8a 1 1 ",
    "bll 4 1 1 cxp 1 1 1 cqz 7 1 1 1k 1a g 1 w z 1 1 2 mr q 1 1g 1fu 1c 1 2o 2o 1 1 2 2 1 1 gkt 1 1 1 ",
    "5vv 1 1 1 gjx 3 3 2 2 6 1 1 gmv 1 1 1 gl5 1 1 1 gn1 1 1 1 gmz 2 1 1 2 3 1 1 2 9 2 1 got 2 1e 2 2 ",
    "2z 2 2 2 7 1 1 2 nym n 2 2 1s e 2 2 4i 7 2 2 g v 2 2 1z 2 2 2 4 1 1 1iiv 1 5 2 2 d 1 1 2 2 1 1 ",
    "1t8v 3 2 2 2 6 a 2 2 k 1 1 1taf 1 1 1 1tb1 1 1 1 1tat 1 1 1 1ta9 1 1 1 1taf 2 1 1 1t7n 1 1 1 ",
    "1t8z 1 1 1 1t7t 1 1 1 1fk 1 8 2 2 g 1 1 2n 1 1 1 1tad 1 1 1 1ilr 1 2 2 2 9 1 1 2 6 2 2 2 v 1 1 2 ",
    "h7w q 1 1s yn 14 1 28 4w 10 1 28 5c b 1 26 c f 1 26 g 7 1 26 8 2 1 26 1d8 1f 1 3k 2e8 w 1 1s gww ",
    "w 1 1s o8w y 1 1w"]))
  expansions := [(0x130, [0x69, 0x307])]

def uppercase (s : String) : String := upperCase.text s

def lowercase (s : String) : String := lowerCase.text s

end PayoutRegistry.Text
