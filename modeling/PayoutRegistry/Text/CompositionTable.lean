import PayoutRegistry.Text.Ranges

/-!
Canonical decompositions and combining classes, as of Unicode 14. Hangul syllables are not listed:
they follow a formula.
-/
namespace PayoutRegistry.Text

/-- How a character decomposes by one step. Only some pairs are put together again. -/
inductive Decomposition where
  | single (code : Nat)
  | pair (first second : Nat) (composes : Bool)
deriving DecidableEq, Repr

/-- Entries from numbers: a gap from the character before, a kind, and one or two codes. -/
def decompositionsOfNumbers (last : Nat) : List Nat → List (Nat × Decomposition)
  | gap :: 0 :: code :: rest => (last + gap, .single code) :: decompositionsOfNumbers (last + gap) rest
  | gap :: kind :: first :: second :: rest =>
    (last + gap, .pair first second (kind == 1)) :: decompositionsOfNumbers (last + gap) rest
  | _ => []

def decompositions : List (Nat × Decomposition) := decompositionsOfNumbers 0 (numbers (String.join [
    "5c 1 1t lc 1 1 1t ld 1 1 1t le 1 1 1t lf 1 1 1t lk 1 1 1t lm 2 1 1v mf 1 1 1x lc 1 1 1x ld 1 1 ",
    "1x le 1 1 1x lk 1 1 21 lc 1 1 21 ld 1 1 21 le 1 1 21 lk 2 1 26 lf 1 1 27 lc 1 1 27 ld 1 1 27 le ",
    "1 1 27 lf 1 1 27 lk 3 1 2d lc 1 1 2d ld 1 1 2d le 1 1 2d lk 1 1 2h ld 3 1 2p lc 1 1 2p ld 1 1 2p ",
    "le 1 1 2p lf 1 1 2p lk 1 1 2p lm 2 1 2r mf 1 1 2t lc 1 1 2t ld 1 1 2t le 1 1 2t lk 1 1 2x lc 1 1 ",
    "2x ld 1 1 2x le 1 1 2x lk 2 1 32 lf 1 1 33 lc 1 1 33 ld 1 1 33 le 1 1 33 lf 1 1 33 lk 3 1 39 lc ",
    "1 1 39 ld 1 1 39 le 1 1 39 lk 1 1 3d ld 2 1 3d lk 1 1 1t lg 1 1 2p lg 1 1 1t li 1 1 2p li 1 1 1t ",
    "mg 1 1 2p mg 1 1 1v ld 1 1 2r ld 1 1 1v le 1 1 2r le 1 1 1v lj 1 1 2r lj 1 1 1v lo 1 1 2r lo 1 1 ",
    "1w lo 1 1 2s lo 3 1 1x lg 1 1 2t lg 1 1 1x li 1 1 2t li 1 1 1x lj 1 1 2t lj 1 1 1x mg 1 1 2t mg ",
    "1 1 1x lo 1 1 2t lo 1 1 1z le 1 1 2v le 1 1 1z li 1 1 2v li 1 1 1z lj 1 1 2v lj 1 1 1z mf 1 1 2v ",
    "mf 1 1 20 le 1 1 2w le 3 1 21 lf 1 1 2x lf 1 1 21 lg 1 1 2x lg 1 1 21 li 1 1 2x li 1 1 21 mg 1 1 ",
    "2x mg 1 1 21 lj 4 1 22 le 1 1 2y le 1 1 23 mf 1 1 2z mf 2 1 24 ld 1 1 30 ld 1 1 24 mf 1 1 30 mf ",
    "1 1 24 lo 1 1 30 lo 5 1 26 ld 1 1 32 ld 1 1 26 mf 1 1 32 mf 1 1 26 lo 1 1 32 lo 4 1 27 lg 1 1 33 ",
    "lg 1 1 27 li 1 1 33 li 1 1 27 ln 1 1 33 ln 3 1 2a ld 1 1 36 ld 1 1 2a mf 1 1 36 mf 1 1 2a lo 1 1 ",
    "36 lo 1 1 2b ld 1 1 37 ld 1 1 2b le 1 1 37 le 1 1 2b mf 1 1 37 mf 1 1 2b lo 1 1 37 lo 1 1 2c mf ",
    "1 1 38 mf 1 1 2c lo 1 1 38 lo 3 1 2d lf 1 1 39 lf 1 1 2d lg 1 1 39 lg 1 1 2d li 1 1 39 li 1 1 2d ",
    "lm 1 1 39 lm 1 1 2d ln 1 1 39 ln 1 1 2d mg 1 1 39 mg 1 1 2f le 1 1 3b le 1 1 2h le 1 1 3d le 1 1 ",
    "2h lk 1 1 2i ld 1 1 3e ld 1 1 2i lj 1 1 3e lj 1 1 2i lo 1 1 3e lo y 1 27 m3 1 1 33 m3 e 1 2d m3 ",
    "1 1 39 m3 t 1 1t lo 1 1 2p lo 1 1 21 lo 1 1 2x lo 1 1 27 lo 1 1 33 lo 1 1 2d lo 1 1 39 lo 1 1 64 ",
    "lg 1 1 70 lg 1 1 64 ld 1 1 70 ld 1 1 64 lo 1 1 70 lo 1 1 64 lc 1 1 70 lc 2 1 5g lg 1 1 6c lg 1 1 ",
    "fa lg 1 1 fb lg 1 1 5i lg 1 1 6e lg 3 1 1z lo 1 1 2v lo 1 1 23 lo 1 1 2z lo 1 1 27 mg 1 1 33 mg ",
    "1 1 dm lg 1 1 dn lg 1 1 c7 lo 1 1 ia lo 1 1 2y lo 4 1 1z ld 1 1 2v ld 3 1 26 lc 1 1 32 lc 1 1 5h ",
    "ld 1 1 6d ld 1 1 5i ld 1 1 6e ld 1 1 60 ld 1 1 6w ld 1 1 1t lr 1 1 2p lr 1 1 1t lt 1 1 2p lt 1 1 ",
    "1x lr 1 1 2t lr 1 1 1x lt 1 1 2t lt 1 1 21 lr 1 1 2x lr 1 1 21 lt 1 1 2x lt 1 1 27 lr 1 1 33 lr ",
    "1 1 27 lt 1 1 33 lt 1 1 2a lr 1 1 36 lr 1 1 2a lt 1 1 36 lt 1 1 2d lr 1 1 39 lr 1 1 2d lt 1 1 39 ",
    "lt 1 1 2b me 1 1 37 me 1 1 2c me 1 1 38 me 3 1 20 lo 1 1 2w lo 7 1 1t lj 1 1 2p lj 1 1 1x mf 1 1 ",
    "2t mf 1 1 5y lg 1 1 6u lg 1 1 5x lg 1 1 6t lg 1 1 27 lj 1 1 33 lj 1 1 fi lg 1 1 fj lg 1 1 2h lg ",
    "1 1 3d lg 7h 0 lc 1 0 ld 2 0 lv 1 2 lk ld 1c 0 jd a 0 1n 7 1 4o ld 1 1 pd ld 1 0 53 1 1 ph ld 1 ",
    "1 pj ld 1 1 pl ld 2 1 pr ld 2 1 px ld 1 1 q1 ld 1 1 qy ld q 1 pl lk 1 1 px lk 1 1 q9 ld 1 1 qd ",
    "ld 1 1 qf ld 1 1 qh ld 1 1 qz ld q 1 qh lk 1 1 qt lk 1 1 qn ld 1 1 qt ld 1 1 qx ld 5 1 r6 ld 1 1 ",
    "r6 lk 18 1 t1 lc 1 1 t1 lk 2 1 sz ld 4 1 sm lk 5 1 t6 ld 1 1 t4 lc 1 1 tf li b 1 t4 li w 1 u0 li ",
    "n 1 tx lc 1 1 tx lk 2 1 tv ld 4 1 uu lk 5 1 u2 ld 1 1 u0 lc 1 1 ub li o 1 vo lr 1 1 vp lr 22 1 ",
    "t2 li 1 1 ty li e 1 sw li 1 1 ts li 1 1 sw lk 1 1 ts lk 3 1 t1 li 1 1 tx li 3 1 yg lk 1 1 yh lk ",
    "1 1 t2 lk 1 1 ty lk 1 1 t3 lk 1 1 tz lk 3 1 t4 lg 1 1 u0 lg 1 1 t4 lk 1 1 u0 lk 1 1 ta lk 1 1 u6 ",
    "lk 3 1 yw lk 1 1 yx lk 1 1 tp lk 1 1 ul lk 1 1 tf lg 1 1 ub lg 1 1 tf lk 1 1 ub lk 1 1 tf ln 1 1 ",
    "ub ln 1 1 tj lk 1 1 uf lk 3 1 tn lk 1 1 uj lk 89 1 17r 18z 1 1 17r 190 1 1 18o 190 1 1 17r 191 1 ",
    "1 18q 190 4a 1 1cl 190 2 1 1c1 190 h 1 1ci 190 gm 1 1t4 1to 8 1 1tc 1to 3 1 1tf 1to 10 2 1sl 1to ",
    "1 2 1sm 1to 1 2 1sn 1to 1 2 1ss 1to 1 2 1sx 1to 1 2 1sy 1to 1 2 1t7 1to 1 2 1tb 1to 30 1 1xj 1xa ",
    "1 1 1xj 1xz g 2 1wh 1x8 1 2 1wi 1x8 2 2 1wv 1x8 2c 2 20i 20s 3 2 20o 20s z 2 1zq 20s 1 2 1zr 20s ",
    "1 2 1zw 20s 3 2 20b 20s 6i 1 287 28m 3 1 287 27y 1 1 287 28n g 2 275 27w 1 2 276 27w 1j 1 2aa ",
    "2c7 1i 1 2bq 2bi 1 1 2br 2bi 1 1 2bq 2c7 3g 1 2fa 2fq 3c 1 2in 2j9 7 1 2iu 2j9 1 1 2iu 2ja 2 1 ",
    "2iu 2iq 1 1 2iy 2j9 3j 1 2me 2m6 1 1 2mf 2m6 1 1 2me 2mv 3y 1 2qh 2q2 2 1 2qh 2q7 1 1 2qk 2q2 1 ",
    "1 2qh 2qn 9x 2 30i 33r a 2 30s 33r 5 2 30x 33r 5 2 312 33r 5 2 317 33r d 2 30g 33p a 2 31t 31u 2 ",
    "2 31t 31w 1 2 33m 328 2 2 33n 328 9 2 31t 328 i 2 32q 33r a 2 330 33r 5 2 335 33r 5 2 33a 33r 5 ",
    "2 33f 33r d 2 32o 33p 31 1 36t 372 25c 1 5c5 5dh 2 1 5c7 5dh 2 1 5c9 5dh 2 1 5cb 5dh 2 1 5cd 5dh ",
    "4 1 5ch 5dh 15 1 5dm 5dh 2 1 5do 5dh 3 1 5dq 5dh 1 1 5dr 5dh 2 1 5du 5dh jh 1 1t md 1 1 2p md 1 ",
    "1 1u lj 1 1 2q lj 1 1 1u mb 1 1 2q mb 1 1 1u mp 1 1 2q mp 1 1 5j ld 1 1 6f ld 1 1 1w lj 1 1 2s ",
    "lj 1 1 1w mb 1 1 2s mb 1 1 1w mp 1 1 2s mp 1 1 1w mf 1 1 2s mf 1 1 1w ml 1 1 2s ml 1 1 7m lc 1 1 ",
    "7n lc 1 1 7m ld 1 1 7n ld 1 1 1x ml 1 1 2t ml 1 1 1x mo 1 1 2t mo 1 1 fc li 1 1 fd li 1 1 1y lj ",
    "1 1 2u lj 1 1 1z lg 1 1 2v lg 1 1 20 lj 1 1 2w lj 1 1 20 mb 1 1 2w mb 1 1 20 lk 1 1 2w lk 1 1 20 ",
    "mf 1 1 2w mf 1 1 20 mm 1 1 2w mm 1 1 21 mo 1 1 2x mo 1 1 5r ld 1 1 6n ld 1 1 23 ld 1 1 2z ld 1 1 ",
    "23 mb 1 1 2z mb 1 1 23 mp 1 1 2z mp 1 1 24 mb 1 1 30 mb 1 1 5yu lg 1 1 5yv lg 1 1 24 mp 1 1 30 ",
    "mp 1 1 24 ml 1 1 30 ml 1 1 25 ld 1 1 31 ld 1 1 25 lj 1 1 31 lj 1 1 25 mb 1 1 31 mb 1 1 26 lj 1 1 ",
    "32 lj 1 1 26 mb 1 1 32 mb 1 1 26 mp 1 1 32 mp 1 1 26 ml 1 1 32 ml 1 1 5x ld 1 1 6t ld 1 1 5x lk ",
    "1 1 6t lk 1 1 98 lc 1 1 99 lc 1 1 98 ld 1 1 99 ld 1 1 28 ld 1 1 34 ld 1 1 28 lj 1 1 34 lj 1 1 2a ",
    "lj 1 1 36 lj 1 1 2a mb 1 1 36 mb 1 1 5zu lg 1 1 5zv lg 1 1 2a mp 1 1 36 mp 1 1 2b lj 1 1 37 lj 1 ",
    "1 2b mb 1 1 37 mb 1 1 9m lj 1 1 9n lj 1 1 9s lj 1 1 9t lj 1 1 602 lj 1 1 603 lj 1 1 2c lj 1 1 38 ",
    "lj 1 1 2c mb 1 1 38 mb 1 1 2c mp 1 1 38 mp 1 1 2c ml 1 1 38 ml 1 1 2d mc 1 1 39 mc 1 1 2d mo 1 1 ",
    "39 mo 1 1 2d ml 1 1 39 ml 1 1 a0 ld 1 1 a1 ld 1 1 a2 lk 1 1 a3 lk 1 1 2e lf 1 1 3a lf 1 1 2e mb ",
    "1 1 3a mb 1 1 2f lc 1 1 3b lc 1 1 2f ld 1 1 3b ld 1 1 2f lk 1 1 3b lk 1 1 2f lj 1 1 3b lj 1 1 2f ",
    "mb 1 1 3b mb 1 1 2g lj 1 1 3c lj 1 1 2g lk 1 1 3c lk 1 1 2h lj 1 1 3d lj 1 1 2i le 1 1 3e le 1 1 ",
    "2i mb 1 1 3e mb 1 1 2i mp 1 1 3e mp 1 1 2w mp 1 1 38 lk 1 1 3b lm 1 1 3d lm 2 1 an lj 5 1 1t mb ",
    "1 1 2p mb 1 1 1t ll 1 1 2p ll 1 1 5e ld 1 1 6a ld 1 1 5e lc 1 1 6a lc 1 1 5e ll 1 1 6a ll 1 1 5e ",
    "lf 1 1 6a lf 1 1 61s le 1 1 61t le 1 1 76 ld 1 1 77 ld 1 1 76 lc 1 1 77 lc 1 1 76 ll 1 1 77 ll 1 ",
    "1 76 lf 1 1 77 lf 1 1 61s li 1 1 61t li 1 1 1x mb 1 1 2t mb 1 1 1x ll 1 1 2t ll 1 1 1x lf 1 1 2t ",
    "lf 1 1 5m ld 1 1 6i ld 1 1 5m lc 1 1 6i lc 1 1 5m ll 1 1 6i ll 1 1 5m lf 1 1 6i lf 1 1 62g le 1 ",
    "1 62h le 1 1 21 ll 1 1 2x ll 1 1 21 mb 1 1 2x mb 1 1 27 mb 1 1 33 mb 1 1 27 ll 1 1 33 ll 1 1 5w ",
    "ld 1 1 6s ld 1 1 5w lc 1 1 6s lc 1 1 5w ll 1 1 6s ll 1 1 5w lf 1 1 6s lf 1 1 630 le 1 1 631 le 1 ",
    "1 bk ld 1 1 bl ld 1 1 bk lc 1 1 bl lc 1 1 bk ll 1 1 bl ll 1 1 bk lf 1 1 bl lf 1 1 bk mb 1 1 bl ",
    "mb 1 1 2d mb 1 1 39 mb 1 1 2d ll 1 1 39 ll 1 1 bz ld 1 1 c0 ld 1 1 bz lc 1 1 c0 lc 1 1 bz ll 1 1 ",
    "c0 ll 1 1 bz lf 1 1 c0 lf 1 1 bz mb 1 1 c0 mb 1 1 2h lc 1 1 3d lc 1 1 2h mb 1 1 3d mb 1 1 2h ll ",
    "1 1 3d ll 1 1 2h lf 1 1 3d lf 7 1 q9 lv 1 1 q9 lw 1 1 64g lc 1 1 64h lc 1 1 64g ld 1 1 64h ld 1 ",
    "1 64g n6 1 1 64h n6 1 1 pd lv 1 1 pd lw 1 1 64o lc 1 1 64p lc 1 1 64o ld 1 1 64p ld 1 1 64o n6 1 ",
    "1 64p n6 1 1 qd lv 1 1 qd lw 1 1 64w lc 1 1 64x lc 1 1 64w ld 1 1 64x ld 3 1 ph lv 1 1 ph lw 1 1 ",
    "654 lc 1 1 655 lc 1 1 654 ld 1 1 655 ld 3 1 qf lv 1 1 qf lw 1 1 65c lc 1 1 65d lc 1 1 65c ld 1 1 ",
    "65d ld 1 1 65c n6 1 1 65d n6 1 1 pj lv 1 1 pj lw 1 1 65k lc 1 1 65l lc 1 1 65k ld 1 1 65l ld 1 1 ",
    "65k n6 1 1 65l n6 1 1 qh lv 1 1 qh lw 1 1 65s lc 1 1 65t lc 1 1 65s ld 1 1 65t ld 1 1 65s n6 1 1 ",
    "65t n6 1 1 pl lv 1 1 pl lw 1 1 660 lc 1 1 661 lc 1 1 660 ld 1 1 661 ld 1 1 660 n6 1 1 661 n6 1 1 ",
    "qn lv 1 1 qn lw 1 1 668 lc 1 1 669 lc 1 1 668 ld 1 1 669 ld 3 1 pr lv 1 1 pr lw 1 1 66g lc 1 1 ",
    "66h lc 1 1 66g ld 1 1 66h ld 3 1 qt lv 1 1 qt lw 1 1 66o lc 1 1 66p lc 1 1 66o ld 1 1 66p ld 1 1 ",
    "66o n6 1 1 66p n6 2 1 px lw 2 1 66x lc 2 1 66x ld 2 1 66x n6 1 1 qx lv 1 1 qx lw 1 1 674 lc 1 1 ",
    "675 lc 1 1 674 ld 1 1 675 ld 1 1 674 n6 1 1 675 n6 1 1 q1 lv 1 1 q1 lw 1 1 67c lc 1 1 67d lc 1 1 ",
    "67c ld 1 1 67d ld 1 1 67c n6 1 1 67d n6 1 1 q9 lc 1 0 q4 1 1 qd lc 1 0 q5 1 1 qf lc 1 0 q6 1 1 ",
    "qh lc 1 0 q7 1 1 qn lc 1 0 r0 1 1 qt lc 1 0 r1 1 1 qx lc 1 0 r2 3 1 64g n9 1 1 64h n9 1 1 64i n9 ",
    "1 1 64j n9 1 1 64k n9 1 1 64l n9 1 1 64m n9 1 1 64n n9 1 1 64o n9 1 1 64p n9 1 1 64q n9 1 1 64r ",
    "n9 1 1 64s n9 1 1 64t n9 1 1 64u n9 1 1 64v n9 1 1 65c n9 1 1 65d n9 1 1 65e n9 1 1 65f n9 1 1 ",
    "65g n9 1 1 65h n9 1 1 65i n9 1 1 65j n9 1 1 65k n9 1 1 65l n9 1 1 65m n9 1 1 65n n9 1 1 65o n9 1 ",
    "1 65p n9 1 1 65q n9 1 1 65r n9 1 1 674 n9 1 1 675 n9 1 1 676 n9 1 1 677 n9 1 1 678 n9 1 1 679 n9 ",
    "1 1 67a n9 1 1 67b n9 1 1 67c n9 1 1 67d n9 1 1 67e n9 1 1 67f n9 1 1 67g n9 1 1 67h n9 1 1 67i ",
    "n9 1 1 67j n9 1 1 q9 li 1 1 q9 lg 1 1 67k n9 1 1 q9 n9 1 1 q4 n9 2 1 q9 n6 1 1 69i n9 1 1 pd li ",
    "1 1 pd lg 1 1 pd lc 1 0 p2 1 1 pd n9 2 0 qh 3 1 4o n6 1 1 67o n9 1 1 qf n9 1 1 q6 n9 2 1 qf n6 1 ",
    "1 69y n9 1 1 ph lc 1 0 p4 1 1 pj lc 1 0 p5 1 1 pj n9 1 1 69r lc 1 1 69r ld 1 1 69r n6 1 1 qh li ",
    "1 1 qh lg 1 1 qy lc 1 0 pc 3 1 qh n6 1 1 qy n6 1 1 pl li 1 1 pl lg 1 1 pl lc 1 0 p6 2 1 6bi lc 1 ",
    "1 6bi ld 1 1 6bi n6 1 1 qt li 1 1 qt lg 1 1 qz lc 1 0 q8 1 1 qp lv 1 1 qp lw 1 1 qt n6 1 1 qz n6 ",
    "1 1 px li 1 1 px lg 1 1 px lc 1 0 pa 1 1 pt lw 1 1 4o lc 1 0 p1 1 0 2o 3 1 67w n9 1 1 qx n9 1 1 ",
    "r2 n9 2 1 qx n6 1 1 6ba n9 1 1 pr lc 1 0 p8 1 1 q1 lc 1 0 pb 1 1 q1 n9 1 0 50 3 0 6bm 1 0 6bn 85 ",
    "0 q1 4 0 23 1 0 5h 33 1 6mo mw 1 1 6mq mw j 1 6ms mw v 1 6og mw 1 1 6ok mw 1 1 6oi mw 1h 1 6pv ",
    "mw 5 1 6q0 mw 3 1 6q3 mw o 1 6qr mw 2 1 6qt mw r 1 6rg mw 3 1 6rn mw 3 1 6rp mw 2 1 6rs mw n 1 ",
    "1p mw 2 1 6sh mw b 1 6rx mw 1 1 1o mw 1 1 1q mw 1 1 6sk mw 1 1 6sl mw 3 1 6sy mw 1 1 6sz mw 3 1 ",
    "6t2 mw 1 1 6t3 mw 7 1 6t6 mw 1 1 6t7 mw 3 1 6te mw 1 1 6tf mw 3 1 6ti mw 1 1 6tj mw z 1 6ua mw 1 ",
    "1 6ug mw 1 1 6uh mw 1 1 6uj mw 1d 1 6t8 mw 1 1 6t9 mw 1 1 6tt mw 1 1 6tu mw 7 1 6uq mw 1 1 6ur ",
    "mw 1 1 6us mw 1 1 6ut mw 1o 0 9hk 1 0 9hl 1iq 2 8gt mw 12o 1 9jf 9ll 2 1 9jh 9ll 2 1 9jj 9ll 2 1 ",
    "9jl 9ll 2 1 9jn 9ll 2 1 9jp 9ll 2 1 9jr 9ll 2 1 9jt 9ll 2 1 9jv 9ll 2 1 9jx 9ll 2 1 9jz 9ll 2 1 ",
    "9k1 9ll 3 1 9k4 9ll 2 1 9k6 9ll 2 1 9k8 9ll 7 1 9kf 9ll 1 1 9kf 9lm 2 1 9ki 9ll 1 1 9ki 9lm 2 1 ",
    "9kl 9ll 1 1 9kl 9lm 2 1 9ko 9ll 1 1 9ko 9lm 2 1 9kr 9ll 1 1 9kr 9lm n 1 9ja 9ll a 1 9lp 9ll e 1 ",
    "9m3 9ll 2 1 9m5 9ll 2 1 9m7 9ll 2 1 9m9 9ll 2 1 9mb 9ll 2 1 9md 9ll 2 1 9mf 9ll 2 1 9mh 9ll 2 1 ",
    "9mj 9ll 2 1 9ml 9ll 2 1 9mn 9ll 2 1 9mp 9ll 3 1 9ms 9ll 2 1 9mu 9ll 2 1 9mw 9ll 7 1 9n3 9ll 1 1 ",
    "9n3 9lm 2 1 9n6 9ll 1 1 9n6 9lm 2 1 9n9 9ll 1 1 9n9 9lm 2 1 9nc 9ll 1 1 9nc 9lm 2 1 9nf 9ll 1 1 ",
    "9nf 9lm n 1 9ly 9ll 3 1 9nz 9ll 1 1 9o0 9ll 1 1 9o1 9ll 1 1 9o2 9ll 4 1 9od 9ll 13ia 0 rpk 1 0 ",
    "kc4 1 0 s7e 1 0 rt4 1 0 lw1 1 0 fg2 1 0 gkl 1 0 vj0 1 0 vj0 1 0 hn5 1 0 ssx 1 0 gw7 1 0 hmw 1 0 ",
    "jcm 1 0 ne1 1 0 p6t 1 0 qin 1 0 qt6 1 0 r20 1 0 sjz 1 0 kxu 1 0 ljv 1 0 mah 1 0 mvy 1 0 q4d 1 0 ",
    "sq2 1 0 uep 1 0 fia 1 0 ghh 1 0 l50 1 0 mjf 1 0 qi5 1 0 v8e 1 0 ifk 1 0 m3v 1 0 qfh 1 0 r50 1 0 ",
    "jih 1 0 pnc 1 0 qvz 1 0 iq2 1 0 kd3 1 0 lm2 1 0 mpo 1 0 slq 1 0 fpi 1 0 g53 1 0 gda 1 0 jwk 1 0 ",
    "l3n 1 0 mj4 1 0 nhj 1 0 pa9 1 0 qh2 1 0 qjg 1 0 s1b 1 0 tv6 1 0 upb 1 0 v7e 1 0 nt8 1 0 nzz 1 0 ",
    "otc 1 0 q15 1 0 t1g 1 0 vb3 1 0 rfa 1 0 hjz 1 0 iro 1 0 okg 1 0 pdq 1 0 mle 1 0 nuy 1 0 rsy 1 0 ",
    "ttj 1 0 hjs 1 0 i8y 1 0 kyb 1 0 lp6 1 0 lxr 1 0 oq7 1 0 oxj 1 0 tor 1 0 gcy 1 0 pe3 1 0 g64 1 0 ",
    "g5o 1 0 o4c 1 0 ou6 1 0 q29 1 0 tpx 1 0 rk0 1 0 jin 1 0 kxu 1 0 rge 1 0 fg9 1 0 i5j 1 0 iz6 1 0 ",
    "mtj 1 0 n74 1 0 gev 1 0 nwb 1 0 fr3 1 0 iw9 1 0 ff1 1 0 lho 1 0 k1k 1 0 opu 1 0 gjn 1 0 hge 1 0 ",
    "ni9 1 0 q4p 1 0 re2 1 0 la2 1 0 sds 1 0 lfs 1 0 jjy 1 0 put 1 0 jog 1 0 n6t 1 0 fji 1 0 g2x 1 0 ",
    "g5l 1 0 kn5 1 0 oo7 1 0 prj 1 0 rf6 1 0 ssv 1 0 gdx 1 0 gn6 1 0 ho3 1 0 ir0 1 0 k3p 1 0 m4e 1 0 ",
    "nxm 1 0 tkd 1 0 ui2 1 0 vbr 1 0 vda 1 0 gbf 1 0 kau 1 0 l87 1 0 sbm 1 0 ino 1 0 j9s 1 0 jcw 1 0 ",
    "jve 1 0 lyb 1 0 mdl 1 0 n0p 1 0 o22 1 0 ovo 1 0 pdb 1 0 s9y 1 0 q9a 1 0 sgz 1 0 t3e 1 0 g7r 1 0 ",
    "gbn 1 0 gql 1 0 ma0 1 0 r0i 1 0 re2 1 0 iq1 1 0 iyd 1 0 jnf 1 0 l9q 1 0 oji 1 0 mt1 1 0 fl0 1 0 ",
    "h6h 1 0 i5j 1 0 iii 1 0 izg 1 0 muq 1 0 mzt 1 0 p7e 1 0 pc6 1 0 svo 1 0 tti 1 0 tvs 1 0 u1k 1 0 ",
    "fpn 1 0 o1a 1 0 ss4 1 0 trs 1 0 j4x 1 0 fie 1 0 fyy 1 0 i5q 1 0 i7z 1 0 k2h 1 0 kxu 1 0 mha 1 0 ",
    "ncy 1 0 q9o 1 0 sjg 1 0 vil 1 0 k94 1 0 tny 1 0 gax 1 0 kfv 1 0 kj7 1 0 lkx 1 0 luk 1 0 mx5 1 0 ",
    "n6h 1 0 nsb 1 0 opc 1 0 u3i 1 0 g31 1 0 je6 1 0 tq0 1 0 fu3 1 0 ie1 1 0 lpm 1 0 sa2 1 0 ivf 1 0 ",
    "j7o 1 0 kk7 1 0 mtj 1 0 tqe 1 0 g89 1 0 glr 1 0 i91 1 0 k5v 1 0 kem 1 0 ko8 1 0 lid 1 0 mx2 1 0 ",
    "naa 1 0 p6h 1 0 r0v 1 0 r1d 1 0 sss 1 0 tsy 1 0 gfz 1 0 lve 1 0 gm5 1 0 mhc 1 0 n14 1 0 qgq 1 0 ",
    "tr7 1 0 uvr 1 0 vbz 1 0 kgn 1 0 lor 1 0 pns 1 0 o97 1 0 obk 1 0 olu 1 0 mo0 1 0 m8p 1 0 riw 1 0 ",
    "fk0 1 0 px2 1 0 g8q 1 0 g7b 1 0 ip2 1 0 jir 1 0 onq 1 0 i2t 1 0 ljy 1 0 kac 1 0 saj 1 0 qx8 1 0 ",
    "tot 1 0 r63 1 0 iqb 1 0 g1s 1 0 gxs 3 0 hga 2 0 k8k 3 0 g66 1 0 mqy 1 0 ngq 1 0 ny4 1 0 nz2 1 0 ",
    "nz9 1 0 o0f 1 0 tw6 1 0 on2 1 0 p8d 2 0 qhe 2 0 rg8 3 0 shk 1 0 sn1 4 0 u7j 1 0 u7w 1 0 u94 1 0 ",
    "v5g 1 0 sm6 1 0 trr 1 0 fqm 1 0 fzb 1 0 g25 1 0 gcp 1 0 gdg 1 0 ggh 1 0 gwt 1 0 gzq 1 0 h2g 1 0 ",
    "hfk 1 0 hig 1 0 i90 1 0 i9a 1 0 j2s 1 0 j8o 1 0 j9q 1 0 jci 1 0 k0f 1 0 k4i 1 0 k9d 1 0 kn9 1 0 ",
    "lmf 1 0 lqy 1 0 lya 1 0 mem 1 0 mjv 1 0 mxu 1 0 ntd 1 0 ny6 1 0 nyh 1 0 nyg 1 0 nyo 1 0 nyu 1 0 ",
    "nz1 1 0 o0d 1 0 o0e 1 0 o5c 1 0 o75 1 0 og0 1 0 ovo 1 0 ow9 1 0 oxt 1 0 p6a 1 0 pad 1 0 pnx 1 0 ",
    "prt 1 0 prt 1 0 q53 1 0 r2o 1 0 r6e 1 0 rgh 1 0 ri1 1 0 rtf 1 0 ruw 1 0 sdy 1 0 shk 1 0 tsz 1 0 ",
    "u0v 1 0 u2j 1 0 j1x 1 0 36cu 1 0 pp4 3 0 ffq 1 0 g51 1 0 g2w 1 0 fpc 1 0 g1x 1 0 g3k 1 0 gcn 1 0 ",
    "ge2 1 0 gwt 1 0 gut 1 0 gwp 1 0 gyq 1 0 hga 1 0 hir 1 0 hms 1 0 hn8 1 0 huq 1 0 i08 1 0 iqa 1 0 ",
    "iqh 1 0 iuh 1 0 iwd 1 0 j4o 1 0 j7y 1 0 j60 1 0 j9q 1 0 j8g 1 0 jci 1 0 jec 1 0 jpg 1 0 jrw 1 0 ",
    "jte 1 0 k0m 1 0 k8k 1 0 kd3 1 0 kd7 1 0 keu 1 0 l89 1 0 la2 1 0 lkx 1 0 lwb 1 0 lvv 1 0 lya 1 0 ",
    "m5a 1 0 mem 1 0 nmv 1 0 mk5 1 0 mnj 1 0 mqy 1 0 n01 1 0 n46 1 0 n5n 1 0 nbx 1 0 nbz 1 0 ngq 1 0 ",
    "nh7 1 0 nhw 1 0 nka 1 0 nk0 1 0 nv0 1 0 o8h 1 0 og0 1 0 ol7 1 0 orf 1 0 ovo 1 0 p4u 1 0 pad 1 0 ",
    "pxu 1 0 q27 1 0 qrd 1 0 r41 1 0 r5y 1 0 r6e 1 0 ren 1 0 rg8 1 0 rez 1 0 rgh 1 0 rge 1 0 rfx 1 0 ",
    "ri1 1 0 rka 1 0 ruw 1 0 sag 1 0 sj6 1 0 srd 1 0 sxi 1 0 tq4 1 0 tsz 1 0 tw6 1 0 tzv 1 0 u0v 1 0 ",
    "u17 1 0 u2j 1 0 umq 1 0 vj0 1 0 313e 1 0 3138 1 0 33dh 1 0 brx 1 0 cns 1 0 cop 1 0 39e1 1 0 3bgw ",
    "1 0 3i6r 1 0 vgj 1 0 vim 1w 2 15l 14k 2 2 16a 14n b 2 161 14x 1 2 161 14y 1 2 1dmx 14x 1 2 1dmx ",
    "14y 1 2 15c 14n 1 2 15c 14o 1 2 15c 14s 1 2 15d 14s 1 2 15e 14s 1 2 15f 14s 1 2 15g 14s 1 2 15h ",
    "14s 1 2 15i 14s 2 2 15k 14s 1 2 15l 14s 1 2 15m 14s 1 2 15n 14s 1 2 15o 14s 2 2 15q 14s 2 2 15s ",
    "14s 1 2 15t 14s 2 2 15v 14s 1 2 15w 14s 2 2 15y 14s 1 2 15z 14s 1 2 160 14s 1 2 161 14s 1 2 162 ",
    "14s 1 2 15h 14p 1 2 15d 14v 1 2 15n 14v 1 2 15w 14v 47g 1 1huh 1hve 2 1 1huj 1hve f 1 1hut 1hve ",
    "3n 1 1hyp 1hyf 1 1 1hyq 1hyf f0 1 1idj 1ida 1 1 1idj 1idz a7 1 1int 1inu 1 1 1int 1ink 2 1 1int ",
    "1inx 70 1 1iuw 1iun 1 1 1iux 1iun ot 1 1jjp 1jjk 10di 2 2jx3 2jxh 1 2 2jx4 2jxh 1 2 2jxb 2jxq 1 ",
    "2 2jxb 2jxr 1 2 2jxb 2jxs 1 2 2jxb 2jxt 1 2 2jxb 2jxu 2f 2 2jzt 2jxh 1 2 2jzu 2jxh 1 2 2jzv 2jxq ",
    "1 2 2jzw 2jxq 1 2 2jzv 2jxr 1 2 2jzw 2jxr 1m4g 0 fgd 1 0 fg8 1 0 fgh 1 0 2tcy 1 0 fog 1 0 fqm 1 ",
    "0 fqz 1 0 fsy 1 0 fwa 1 0 fx5 1 0 fzb 1 0 fyn 1 0 ae6 1 0 2ud6 1 0 g25 1 0 g2c 1 0 g2s 1 0 g3b 1 ",
    "0 2u58 1 0 aex 1 0 g2v 1 0 g3x 1 0 2u6j 1 0 g47 1 0 g4k 1 0 fkc 1 0 g4s 1 0 g51 1 0 3ly7 1 0 g6t ",
    "1 0 g77 1 0 afz 1 0 g8r 1 0 g92 1 0 gaa 1 0 gaf 1 0 ahh 1 0 gcn 1 0 gcp 1 0 gdg 1 0 ge2 1 0 ged ",
    "1 0 gee 1 0 gev 1 0 gg9 1 0 ggh 1 0 ggq 1 0 ghf 1 0 ghp 1 0 ghr 1 0 ghr 1 0 ghr 1 0 2v58 1 0 m7k ",
    "1 0 gju 1 0 gkf 1 0 2vdv 1 0 gkr 1 0 gkx 1 0 gli 1 0 gpq 1 0 gmw 1 0 gnc 1 0 go8 1 0 gpu 1 0 gs6 ",
    "1 0 gsw 1 0 gur 1 0 gv7 1 0 gw4 1 0 gw4 1 0 gwp 1 0 gx7 1 0 gxf 1 0 gxu 1 0 h7a 1 0 gzq 1 0 h7b ",
    "1 0 h1t 1 0 h2s 1 0 g7b 1 0 hke 1 0 hce 1 0 hdg 1 0 he5 1 0 haj 1 0 hf6 1 0 hf5 1 0 hik 1 0 2x9g ",
    "1 0 hki 1 0 hkn 1 0 hl2 1 0 hlm 1 0 hlu 1 0 hnm 1 0 2xm0 1 0 2xnu 1 0 hrg 1 0 hsr 1 0 ht3 1 0 ",
    "hqw 1 0 huu 1 0 aum 1 0 av0 1 0 hzc 1 0 i0u 1 0 i0u 1 0 2y88 1 0 i4j 1 0 i54 1 0 i5j 1 0 i5v 1 0 ",
    "2yhk 1 0 i67 1 0 i6e 1 0 itv 1 0 i76 1 0 ayp 1 0 i8w 1 0 i9a 1 0 ibk 1 0 ia5 1 0 2z1g 1 0 if7 1 ",
    "0 2z1i 1 0 ige 1 0 igb 1 0 igs 1 0 ijl 1 0 ijm 1 0 b3j 1 0 ikd 1 0 ilk 1 0 im5 1 0 ind 1 0 b4y 1 ",
    "0 2zr7 1 0 b5o 1 0 ipc 1 0 ipf 1 0 ipi 1 0 iq2 1 0 3pg2 1 0 iri 1 0 3035 1 0 3035 1 0 poh 1 0 ",
    "isi 1 0 isi 1 0 b7r 1 0 335k 1 0 3cgq 1 0 iua 1 0 iuj 1 0 b8j 1 0 ivu 1 0 ix9 1 0 ixj 1 0 iyh 1 ",
    "0 j29 1 0 bay 1 0 ba4 1 0 j2s 1 0 30t0 1 0 j47 1 0 j7s 1 0 j7w 1 0 j7y 1 0 j7w 1 0 j96 1 0 j9q 1 ",
    "0 jaq 1 0 jac 1 0 jan 1 0 jby 1 0 jci 1 0 jcm 1 0 jdc 1 0 jdn 1 0 jfh 1 0 jht 1 0 jis 1 0 jm8 1 ",
    "0 31n0 1 0 jlp 1 0 jjw 1 0 jmw 1 0 jnn 1 0 jqc 1 0 31td 1 0 js2 1 0 jph 1 0 jop 1 0 bhq 1 0 ju1 ",
    "1 0 jum 1 0 jvh 1 0 juf 1 0 bjg 1 0 k0f 1 0 k18 1 0 32mi 1 0 k4j 1 0 kc8 1 0 k7d 1 0 bo9 1 0 k9d ",
    "1 0 bns 1 0 bms 1 0 g42 1 0 g45 1 0 kcg 1 0 k9o 1 0 pf1 1 0 deh 1 0 kd3 1 0 kd7 1 0 kdd 1 0 kf2 ",
    "1 0 ker 1 0 33cz 1 0 bpl 1 0 kje 1 0 kg5 1 0 klu 1 0 kn9 1 0 33hp 1 0 kni 1 0 kkf 1 0 kr8 1 0 ",
    "brx 1 0 ksi 1 0 kv7 1 0 kx6 1 0 l2g 1 0 33xf 1 0 l3v 1 0 bvc 1 0 l5t 1 0 34br 1 0 l78 1 0 bwu 1 ",
    "0 l82 1 0 l9b 1 0 la2 1 0 la3 1 0 34p9 1 0 2yvf 1 0 34sa 1 0 le6 1 0 354s 1 0 lhb 1 0 lhp 1 0 ",
    "lev 1 0 ljq 1 0 lku 1 0 lmf 1 0 lkx 1 0 lm1 1 0 lmg 1 0 lmt 1 0 357i 1 0 lkk 1 0 lrj 1 0 lta 1 0 ",
    "c37 1 0 lvv 1 0 lvr 1 0 35jl 1 0 lq1 1 0 m0e 1 0 35ni 1 0 35ou 1 0 m2u 1 0 m61 1 0 m5a 1 0 m57 1 ",
    "0 c5y 1 0 m6i 1 0 m7x 1 0 m7r 1 0 m99 1 0 2u5h 1 0 mdh 1 0 368z 1 0 mfw 1 0 36i3 1 0 mjs 1 0 mk5 ",
    "1 0 mkw 1 0 36yw 1 0 mm8 1 0 mmt 1 0 3779 1 0 37dg 1 0 mt6 1 0 mtn 1 0 cdo 1 0 mud 1 0 ce0 1 0 ",
    "ce0 1 0 myv 1 0 mzg 1 0 n01 1 0 n0l 1 0 n2i 1 0 cgr 1 0 n50 1 0 386u 1 0 n5q 1 0 389e 1 0 n74 1 ",
    "0 2zrz 1 0 nbk 1 0 38v5 1 0 38vs 1 0 38zo 1 0 cn0 1 0 cnc 1 0 nhw 1 0 394j 1 0 394i 1 0 395l 1 0 ",
    "396b 1 0 nj2 1 0 nj3 1 0 nj3 1 0 nka 1 0 cop 1 0 nm3 1 0 cp2 1 0 cra 1 0 39r1 1 0 nri 1 0 nt8 1 ",
    "0 nv0 1 0 ctf 1 0 3a5i 1 0 nyu 1 0 3a8q 1 0 3a9x 1 0 o0f 1 0 o2z 1 0 cvj 1 0 o5c 1 0 o5m 1 0 o5r ",
    "1 0 3at8 1 0 3b1j 1 0 3b1j 1 0 oa6 1 0 d1e 1 0 3b8r 1 0 og6 1 0 og9 1 0 d2f 1 0 3beo 1 0 onm 1 0 ",
    "d5s 1 0 oo8 1 0 oo3 1 0 oow 1 0 3c06 1 0 orn 1 0 d8h 1 0 ouf 1 0 ow2 1 0 oxx 1 0 d9w 1 0 3ciw 1 ",
    "0 3cjr 1 0 dax 1 0 3cnt 1 0 p6i 1 0 3cqm 1 0 p79 1 0 pa2 1 0 pad 1 0 3d22 1 0 3d43 1 0 pcw 1 0 ",
    "3d7s 1 0 pdc 1 0 33a7 1 0 ded 1 0 pf6 1 0 phf 1 0 dfv 1 0 pj2 1 0 hx1 1 0 3dlz 1 0 3dmd 1 0 33bn ",
    "1 0 33bw 1 0 poh 1 0 pok 1 0 sda 1 0 dij 1 0 psh 1 0 psb 1 0 pst 1 0 gc3 1 0 ptd 1 0 ptf 1 0 ptp ",
    "1 0 puu 1 0 3ebg 1 0 put 1 0 pwd 1 0 pyb 1 0 q0d 1 0 pwj 1 0 q0t 1 0 q1z 1 0 q53 1 0 pxv 1 0 q16 ",
    "1 0 q18 1 0 q1o 1 0 3eie 1 0 3eqz 1 0 3emt 1 0 dnv 1 0 q9d 1 0 q9f 1 0 qae 1 0 3g0a 1 0 qck 1 0 ",
    "3f3g 1 0 dp9 1 0 dpd 1 0 3f75 1 0 3ff6 1 0 dpn 1 0 qj4 1 0 qjg 1 0 qjr 1 0 qjt 1 0 qll 1 0 qko 1 ",
    "0 qoe 1 0 qn6 1 0 qrd 1 0 qp4 1 0 qqz 1 0 qrq 1 0 dsn 1 0 qu9 1 0 qv5 1 0 dtl 1 0 qxs 1 0 qxv 1 ",
    "0 3giv 1 0 r13 1 0 r1a 1 0 dv9 1 0 r22 1 0 aez 1 0 3gz2 1 0 3h46 1 0 dz2 1 0 dzb 1 0 rds 1 0 rfx ",
    "1 0 rka 1 0 rpx 1 0 3hrc 1 0 rsb 1 0 rsx 1 0 rvf 1 0 rxz 1 0 3i9b 1 0 2upw 1 0 s0b 1 0 rzw 1 0 ",
    "s1c 1 0 2uvy 1 0 s7o 1 0 sag 1 0 3jki 1 0 3jl9 1 0 sk4 1 0 smp 1 0 snl 1 0 3ju6 1 0 snv 1 0 svs ",
    "1 0 t07 1 0 t08 1 0 sxo 1 0 t89 1 0 t91 1 0 3ksa 1 0 tjf 1 0 ej9 1 0 tkn 1 0 3l2v 1 0 eli 1 0 ",
    "ts3 1 0 iia 1 0 tur 1 0 3ltx 1 0 3lzu 1 0 epa 1 0 epi 1 0 u00 1 0 3mdm 1 0 er6 1 0 3mhi 1 0 u17 ",
    "1 0 u17 1 0 u21 1 0 3mpi 1 0 u76 1 0 eur 1 0 u95 1 0 ucn 1 0 ude 1 0 uf2 1 0 ez2 1 0 3nsg 1 0 ",
    "umq 1 0 uv4 1 0 v0d 1 0 f66 1 0 f71 1 0 v3b 1 0 3owe 1 0 f7c 1 0 3oxx 1 0 3p5a 1 0 3p8x 1 0 vcr ",
    "1 0 f9y 1 0 veh 1 0 vem 1 0 vet 1 0 vf3 1 0 vfa 1 0 vgb 1 0 3pxc"]))

/-- Ranges of one combining class from numbers: a gap, the length less one, and the class. -/
def classesOfNumbers (next : Nat) : List Nat → List (Nat × Nat × Nat)
  | gap :: more :: cls :: rest =>
    (next + gap, next + gap + more, cls) :: classesOfNumbers (next + gap + more + 1) rest
  | _ => []

def classRanges : List (Nat × Nat × Nat) := classesOfNumbers 0 (numbers (String.join [
    "lc k 6e 0 0 6g 0 3 64 0 0 6g 0 0 60 0 4 64 0 1 5m 0 3 64 0 1 5m 0 a 64 0 4 1 0 3 64 0 7 6e 0 0 ",
    "6o 0 0 6e 0 2 64 0 2 6e 0 1 64 1 2 6e 0 3 64 0 0 6e 0 0 6g 0 1 64 0 0 6e 0 0 6h 0 1 6i 0 0 6h 0 ",
    "1 6i 0 0 6h 0 c 6e 7n 4 6e 7d 0 64 0 3 6e 0 0 64 0 2 6e 0 0 66 0 0 64 0 5 6e 0 5 64 0 1 6e 0 0 ",
    "64 0 1 6e 0 0 66 0 0 6c 0 0 6e 0 0 a 0 0 b 0 0 c 0 0 d 0 0 e 0 0 f 0 0 g 0 0 h 0 0 i 0 1 j 0 0 k ",
    "0 0 l 0 0 m 1 0 n 1 0 o 0 0 p 1 0 6e 0 0 64 1 0 i 20 7 6e 0 0 u 0 0 v 0 0 w 1c 0 r 0 0 s 0 0 t 0 ",
    "0 u 0 0 v 0 0 w 0 0 x 0 0 y 0 1 6e 0 1 64 0 4 6e 0 0 64 0 1 6e 0 0 64 g 0 z 2t 6 6e 2 3 6e 0 0 ",
    "64 0 0 6e 2 1 6e 1 0 64 0 1 6e 0 0 64 z 0 10 u 0 6e 0 0 64 0 1 6e 0 0 64 0 1 6e 0 2 64 0 0 6e 0 ",
    "1 64 0 0 6e 0 0 64 0 2 6e 0 0 64 0 0 6e 0 0 64 0 0 6e 0 0 64 0 0 6e 0 0 64 0 1 6e 4g 6 6e 0 0 64 ",
    "0 0 6e 9 0 64 o 3 6e 1 8 6e 1 2 6e 1 4 6e 17 2 64 1o 0 6e 0 2 64 0 3 6e 16 4 6e 0 4 64 0 d 6e 1 ",
    "0 64 0 1 6e 0 0 64 0 1 6e 0 0 64 0 2 6e 0 2 64 0 0 r 0 0 s 0 0 t 0 2 6e 0 0 64 0 1 6e 0 1 64 0 4 ",
    "6e 1o 0 7 g 0 9 3 0 6e 0 0 64 0 1 6e 2v 0 7 g 0 9 1c 0 6e 1p 0 7 g 0 9 32 0 7 g 0 9 32 0 7 g 0 9 ",
    "3j 0 9 32 0 7 g 0 9 7 0 2c 0 0 2j 2t 0 7 g 0 9 31 1 9 g 0 9 3g 0 9 31 1 2v 0 0 9 d 3 2z 30 1 3a ",
    "0 0 9 d 3 3e 24 1 64 r 0 64 1 0 64 1 0 60 1j 0 3l 0 0 3m 1 0 3o 5 3 3m 2 0 3m 1 1 6e 0 0 9 1 1 ",
    "6e 1q 0 64 34 0 7 1 1 9 2a 0 64 jz 2 6e qc 1 9 u 0 9 4d 0 9 a 0 6e 5n 0 6c 3z 0 66 0 0 6e 0 0 64 ",
    "63 0 6e 0 0 64 1z 0 9 k 7 6e 2 0 64 1c 4 6e 0 5 64 0 1 6e 0 0 64 1 1 64 0 1 6e 0 1 64 0 4 6e 0 0 ",
    "64 0 3 6e 2t 0 7 f 0 9 12 0 6e 0 0 64 0 6 6e 1i 1 9 1m 0 7 b 1 9 1v 0 7 48 2 6e 1 0 1 0 4 64 0 1 ",
    "6e 0 3 64 0 0 6e 1 6 1 4 0 64 6 0 6e 3 1 6e 5i 1 6e 0 0 64 0 6 6e 0 0 64 0 1 6e 0 0 6i 0 0 5y 0 ",
    "0 64 0 0 5m 0 10 6e 0 0 6g 0 1 6c 0 0 64 0 0 62 0 0 6e 0 0 6h 0 0 64 0 0 6e 0 0 64 k0 1 6e 0 1 1 ",
    "0 3 6e 0 2 1 0 1 6e 4 0 6e 3 1 1 0 0 6e 0 0 64 0 0 6e 0 1 1 0 3 64 0 0 6e 2da 2 6e 3x 0 9 2o v ",
    "6e fe 0 62 0 0 6c 0 0 6g 0 0 66 0 1 68 2x 1 8 n9w 0 6e 4 9 6e w 1 6e 28 1 6e 7o 0 9 11 0 9 47 0 ",
    "9 r h 6e 1l 2 64 11 0 9 2n 0 7 c 0 9 6n 0 6e 1 1 6e 0 0 64 2 1 6e 5 1 6e 1 0 6e 1g 0 9 6u 0 9 ",
    "fn4 0 q ld 6 6e 0 6 64 0 1 6e r1 0 64 6a 0 64 45 4 6e 1aq 0 64 1 0 6e 14 0 6e 0 0 1 0 0 64 4 0 9 ",
    "4l 0 6e 0 0 64 fx 3 6e ar 1 6e 49 1 64 0 2 6e 0 0 64 0 0 6e 0 3 64 1d 0 6e 0 0 64 0 0 6e 0 0 64 ",
    "5c 0 9 15 0 9 e 0 9 1l 0 9 0 0 7 1x 2 6e 1c 1 9 1q 0 7 24 0 9 9 0 7 2y 0 9 0 0 7 4y 0 7 0 0 9 28 ",
    "1 7 g 0 9 o 6 6e 3 4 6e 5p 0 9 3 0 7 n 0 6e 2r 0 9 0 0 7 6z 0 9 0 0 7 3i 0 9 3a 0 9 0 0 7 37 0 9 ",
    "7h 0 9 0 0 7 76 1 9 4 0 7 4c 0 9 2b 0 9 i 0 9 29 0 9 bp 0 9 76 0 7 1 1 9 29 0 9 fa0 4 1 1n 6 6e ",
    "xl 1 6 f58 0 1 43q 1 60 0 2 1 3 0 6a 0 4 60 8 7 64 2 4 6e 0 1 64 u 3 6e 44 2 6e 2pn 6 6e 1 g 6e ",
    "2 6 6e 1 1 6e 1 4 6e 79 6 6e af 0 6e 1p 3 6e 15s 6 64 31 5 6e 0 0 7"]))

end PayoutRegistry.Text
