import PayoutRegistry.Text.Ranges

/-!
Character classes by general category, as of Unicode 14: characters without a visible form, combining
marks, and the letters and numbers that make up words.
-/
namespace PayoutRegistry.Text

/-- Control, format, private and unassigned characters, and every separator except the blank. -/
def hiddenRanges : CodeRanges := .parse (String.join [
    "0 v 2n x c 0 ju 1 6 3 7 0 1 0 k 0 b1 0 12 1 1e 1 3 0 1j 7 r 3 6 g m 0 5c 0 1c 1 1n 1 2t d 1n 1 ",
    "1d 1 f 0 s 1 1 0 b 4 v 8 22 0 4h 0 8 1 2 1 m 0 7 0 1 2 4 1 9 1 2 1 4 7 1 3 2 0 5 1 p 1 3 0 6 3 2 ",
    "1 m 0 7 0 2 0 2 0 2 1 1 0 5 3 2 1 3 2 1 6 4 0 1 6 h 9 3 0 9 0 3 0 m 0 7 0 2 0 5 1 a 0 3 0 3 1 1 ",
    "e 4 1 c 6 7 0 3 0 8 1 2 1 m 0 7 0 2 0 5 1 9 1 2 1 3 6 3 3 2 0 5 1 i 9 2 0 6 2 3 0 4 2 2 0 1 0 2 ",
    "2 2 2 3 2 c 3 5 2 3 0 4 1 1 5 1 d l 4 d 0 3 0 n 0 g 1 9 0 3 0 4 6 2 0 3 1 1 1 4 1 a 6 m 0 3 0 n ",
    "0 a 0 5 1 9 0 3 0 4 6 2 5 2 0 4 1 a 0 2 c d 0 3 0 1f 0 3 0 6 3 g 1 q 0 3 0 i 2 o 0 9 0 1 1 7 2 1 ",
    "3 6 0 1 0 8 5 a 1 3 b 1m 3 t 10 2 0 1 0 5 0 o 0 1 0 n 1 5 0 1 0 6 1 a 1 4 v 20 0 10 3 13 0 10 0 ",
    "f 0 d 10 5i 0 1 4 1 1 ah 0 4 1 7 0 1 0 4 1 15 0 4 1 x 0 4 1 7 0 1 0 4 1 f 0 1l 0 4 1 1v 1 w 2 q ",
    "5 2e 1 6 1 hs 0 s 2 2h 6 m 8 o 8 k b d 0 3 0 2 b 2m 1 a 5 a 5 e 0 b 5 2h 6 17 4 1y 9 v 0 c 3 c 3 ",
    "1 2 16 1 5 a 18 3 q 5 b 2 1q 1 1t 0 t 1 b 5 a 5 e 1 v 1c 25 2 1b 0 38 7 1o 2 f 2 1o 6 17 1 b 7 ",
    "17 4 eu 1 6 1 12 1 6 1 8 0 1 0 1 0 1 0 v 1 1h 0 f 0 e 1 6 0 j 1 3 0 9 g o 7 1b g 2 1 r 0 d 2 x e ",
    "x e 3w 3 if o b k 1ec 1 w 0 9p 4 19 0 1 4 1 1 1k 6 2 d o 8 7 0 7 0 7 0 7 0 7 0 7 0 7 0 7 0 3i x ",
    "q 0 2h b 5y p c 4 1r 0 2e 1 2v 4 17 0 2m 0 2c b 1b 0 mlp 2 1j 8 9o j 54 7 5n 4 2 0 1 0 5 n 1n 2 ",
    "a 5 1k 7 1y 7 c 5 38 a u 2 26 0 b 3 x 0 1j 8 e 1 a 1 2v n s 9 6 1 6 1 6 8 7 0 7 0 1o 3 3i 1 a 5 ",
    "8mc b n 3 1d 6ir a6 1 2y 11 7 b 5 4 q 0 5 0 1 0 2 0 2 0 3h f cd 1 1i 6 1 v 16 5 1f 0 j 0 4 3 5 0 ",
    "3r 3 5a 2 6 1 6 1 6 1 3 2 7 0 7 c 2 1 c 0 q 0 j 0 2 0 f 1 e x 3f 4 3 3 19 2 2g 0 d 2 1 1a 1a 3l ",
    "t 2 1d e s 3 10 8 u 4 17 4 u 0 11 3 e 15 4e 1 a 5 10 3 10 3 14 7 1g a c 0 f 0 7 0 2 0 b 0 f 0 7 ",
    "0 2 1u 8n 8 m 9 8 n 6 0 16 0 9 1w 6 1 1 0 18 0 2 2 1 1 n 0 20 7 9 1b j 0 2 4 x 2 r 4 1 1r 1k 3 k ",
    "1 1e 0 2 4 8 0 3 0 t 1 3 3 a 6 9 6 1s v 13 3 c 8 1i 2 t 1 r 4 q 6 4 b 7 27 21 1i 1f c 1f 6 1a 7 ",
    "a 85 v 0 16 0 3 1 2 25 14 7 16 l q 11 s j n 8 26 3 10 8 1q 0 5 c p 6 a 5 1h 0 i 7 13 8 2o 0 k a ",
    "i 0 18 1s 7 0 1 0 4 0 f 0 b 5 1n 4 a 5 4 0 8 1 2 1 m 0 7 0 2 0 5 0 a 1 2 1 3 1 1 5 1 4 7 1 7 2 5 ",
    "3u 2k 0 5 t 20 7 a 4l 1i 1 12 x 1x a a 5 d i 1m 5 a 1h r 1 f 3 n 54 1o 2r 2b b 8 1 1 1 8 0 2 0 u ",
    "0 2 1 c 8 a 1x 8 1 1a 1 b q 20 7 2b c 21 7a 9 0 19 0 e 9 t 2 w 1 m 0 e 20 7 0 2 0 18 2 1 0 2 0 9 ",
    "7 a 5 6 0 2 0 11 0 2 0 6 6 a 8l p 52 1 e 1e c pn 2t 33 0 5 a 5g 217 2r c tr 34g g7 6ns ft 6 v 0 ",
    "a 3 29 0 a 5 u 1 6 9 1y 9 a 0 7 0 l 4 j j3 2j 2s 23 3 1l 6 h 1r 5 a 2 d 4qg 7 ye 15 9 6w6 4 0 7 ",
    "0 2 0 83 18 3 g 4 7 b0 1s3 2z 4 d 2 9 6 a 1 4 3mn 1a 1 n 8 38 1n 6u 9 13 1 22 7 34 k 1y 49 k b ",
    "2f 8 p 3q 2d 0 1z 0 2 1 1 1 2 1 4 0 c 0 1 0 7 0 1t 0 4 1 8 0 7 0 s 0 4 0 5 0 1 2 7 0 9g 1 84 1 ",
    "ji e 5 0 f un v 68 7 0 h 1 7 0 2 0 5 5w 19 2 e 1 a 3 2 8v v g 1m 4 1 yn 7 0 4 0 2 0 f 0 5h 1 g ",
    "14 24 3 a 3 2 ls 1w 23 1p 5d 4 0 r 0 2 0 1 1 1 0 a 0 4 0 1 0 1 5 1 3 1 0 1 0 1 0 3 0 2 0 1 1 1 0 ",
    "1 0 1 0 1 0 1 0 2 0 1 1 4 0 7 0 4 0 4 0 1 0 a 0 h 4 3 0 5 0 h 1f 2 7h 18 3 2s b f 1 f 0 f 0 11 9 ",
    "4u 1j t c 18 3 9 6 2 d 6 49 rc 4 g 2 d 2 38 b 2h 6 c 3 1 e c 3 1k 7 a 5 14 7 u 1 2 25 9g b e 1 5 ",
    "2 5 2 7 8 t 2 b 4 6 9 a 5 8 7 7 8 43 0 1j 10 a sl wyo v 37d 6 66 1 4g2 d 5rl 2e6 f2 15t 3t7 fcms ",
    "6o 47bj"])

/-- Marks of all three kinds. -/
def markRanges : CodeRanges := .parse (String.join [
    "lc 33 7n 6 7b 18 1 0 1 1 1 1 1 0 20 a 1c k g 0 2t 6 2 5 2 1 1 3 z 0 u q 2j a 1m 8 9 0 o 3 1 8 1 ",
    "2 1 4 17 2 1o 7 16 n 1 w 1i 2 1 h 1 6 a 1 t 2 1k 0 1 6 2 1 2 2 9 0 a 1 q 0 2 2 1k 0 1 4 4 1 2 2 ",
    "3 0 u 1 3 0 b 2 1k 0 1 7 1 2 1 2 k 1 m 5 1 2 1k 0 1 6 2 1 2 2 7 2 a 1 u 0 1n 4 3 2 1 3 9 0 14 4 ",
    "1j 0 1 6 1 2 1 3 7 1 b 1 t 2 1k 0 1 6 1 2 1 3 7 1 b 1 s 3 1j 1 1 6 1 2 1 3 9 0 a 1 t 2 1y 0 4 5 ",
    "1 0 1 7 i 1 1p 0 2 6 c 7 2q 0 2 8 b 5 22 1 r 0 1 0 1 0 4 1 1d j 1 1 5 a 1 z 9 0 2s j n 3 4 2 1 2 ",
    "2 6 3 3 d b 1 0 a 3 jj 2 qa 3 s 2 t 1 u 1 1s v 9 0 19 2 1 0 39 1 y 0 3a b 4 b 63 4 1l 9 1 s 2 0 ",
    "1c u 1d 4 1b g 12 8 c 2 u c 1k d 1c j 48 2 1 k 4 0 6 0 2 2 5i 1r k0 w 2da 2 3x 0 2o v fe 5 2x 1 ",
    "n9w 3 1 9 w 1 28 1 7k 0 3 0 4 0 n 4 4 0 2b 1 1e h q h d 0 12 7 p c 18 3 1b d 10 0 1v d c 0 8 1 ",
    "19 2 1e 0 1 2 2 1 5 1 1 0 15 4 5 1 6k 7 1 1 fn4 0 kh f g f r1 0 6a 0 45 4 1ae 2 1 1 5 3 14 2 4 0 ",
    "4l 1 fx 3 ar 1 49 a 1d 3 3e 2 1h e 15 0 2 1 a 3 19 a 7 0 1p 2 10 d g 1 18 0 c 2 1c d 8 3 1 1 2k ",
    "b 6 0 4g b l 3 1j 1 1 6 2 1 2 2 9 0 a 1 2 6 3 4 5c h n 0 29 j 6j 6 2 8 r 1 2a g 2y c 2t e 74 e ",
    "6t 5 1 1 2 3 1 0 1 1 3x 6 2 6 3 0 s 9 14 6 1 3 8 0 9 a 1a f b9 7 1 7 2a l 1 d 3e 5 3 0 1 1 1 6 1 ",
    "0 1u 4 1 1 1 4 9n 3 f09 4 1n 6 t4 0 1 1i 7 3 29 0 b 1 f57 1 3mp 19 2 m f2 4 3 5 8 7 2 6 u 3 44 2 ",
    "1iz 1i 4 1d 8 0 e 0 m 4 1 e 11s 6 1 g 2 6 1 1 1 4 79 6 af 0 1p 3 15s 6 31 6 gzhx 6n"])

/-- Letters and numbers of all kinds. -/
def wordRanges : CodeRanges := .parse (String.join [
    "1c 9 7 p 6 p 1b 0 7 1 1 0 3 1 1 2 1 m 1 u 1 cp 4 b e 4 7 0 1 0 3l 4 1 1 2 3 1 0 6 0 1 2 1 0 1 j ",
    "1 2a 1 3u 8 4l 1 11 2 0 6 14 1z q 4 3 19 16 l 9 4 1 1 2q 1 0 f 1 7 e 2 0 g 0 1 t t 2g b 0 e 16 9 ",
    "1 4 0 5 l 4 0 9 0 3 0 n o 7 a 5 n 1 5 h 15 1m 1h 3 0 i 0 7 9 4 9 1 f 4 7 2 1 2 l 1 6 1 0 3 3 3 0 ",
    "g 0 d 1 1 2 4 b 2 5 2 0 8 5 4 1 2 l 1 6 1 1 1 1 1 1 v 3 1 0 7 9 2 2 g 8 1 2 1 l 1 6 1 1 1 4 3 0 ",
    "i 0 f 1 4 9 9 0 b 7 2 1 2 l 1 6 1 1 1 4 3 0 u 1 1 2 4 9 1 6 b 0 1 5 3 2 1 3 3 1 1 0 1 1 3 1 3 2 ",
    "3 b m 0 l c i 7 1 2 1 m 1 f 3 0 q 2 2 0 2 1 4 9 8 6 1 0 4 7 1 2 1 m 1 9 1 4 3 0 v 1 1 1 4 9 1 1 ",
    "h 8 1 2 1 14 2 0 g 0 5 2 1 9 4 i 1 5 5 h 3 n 1 8 1 0 2 6 v 9 h 1b 1 1 c 6 9 9 13 1 1 0 1 4 1 n 1 ",
    "0 1 9 1 1 9 0 2 4 1 0 9 9 2 3 w 0 v j c 7 1 z r 4 37 16 k a 6 5 4 3 3 0 3 1 7 2 4 c c 0 1 9 6 11 ",
    "1 0 5 0 2 16 1 98 1 3 2 6 1 0 1 3 2 14 1 3 2 w 1 3 2 6 1 0 1 3 2 e 1 1k 1 3 2 1u e j 3 f g 2d 2 ",
    "5 3 h7 2 g 1 p 5 22 3 a 7 h d i e h e c 1 2 f 1f z 0 4 0 3 9 6 9 m 9 6 2g 7 4 2 x 1 0 5 1x a u ",
    "13 13 2 4 b 17 4 p 6 a 11 m 9 1g 17 9 6 9 d 0 2l 1a h 7 3 9 15 t d 1j q z s 9 3 1c 2 8 7 16 2 2 ",
    "15 3 1 5 1 1 3 0 5 5b 1s 7p 2 5 2 11 2 5 2 7 1 0 1 0 1 0 1 u 2 1g 1 6 1 0 3 2 1 6 3 3 2 5 4 c 5 ",
    "2 1 6 37 1 2 5 5 a 6 c 2t 0 4 0 2 9 1 0 3 4 6 0 1 0 1 0 1 3 1 a 2 3 5 4 4 0 1 1l k6 1n 26 l hi t ",
    "vg 6c 6 3 3 1 9 0 2 11 1 0 5 0 2 1j 7 0 g m 9 6 1 6 1 6 1 6 1 6 1 6 1 6 1 6 28 0 d1 2 p 8 7 4 2 ",
    "4 4 2d 6 2 1 2h 1 3 5 16 1 2l 3 3 a v 1c f w 9 u 7 1 e w 9 13 e 8w 533 1s h3g 1v 19 2 7g 3 r k ",
    "1a g u 2 27 13 8 2 2u 2 1r 5 1 1 0 1 4 o f 1 2 1 3 1 m d 5 a 1f e 1d s 9 o 5 3 0 1 1 1 11 a m p ",
    "s 7 1a s a 6 4 1 o 1 14 n 2 1 7 4 9 6 m 3 0 3 1d 1 0 3 1 2 4 2 0 1 0 o 2 2 a 7 2 c 5 2 5 2 5 9 6 ",
    "1 6 1 16 1 d 6 36 d 9 6 8mb c m 4 1c 6is a5 2 2x 12 6 c 4 5 0 1 9 1 c 1 4 1 0 1 1 1 1 1 2z x a2 ",
    "i 1r 2 1h 14 b 38 4 1 3q j 9 7 p 6 p b 2g 3 5 2 5 2 5 2 2 z b 1 p 1 i 1 1 1 e 2 d y 3e c 18 c 1k ",
    "h 1 6s s 3 1c g q 4 z 9 t 5 11 a t 2 z 4 7 1 4 16 4d 2 9 6 z 4 z 4 13 8 1f c a 1 e 1 6 1 1 1 a 1 ",
    "e 1 6 1 1 1v 8m 9 l a 7 o 5 1 15 1 8 1x 5 2 0 1 17 1 1 3 0 2 m 2 u 2 11 8 8 1c i 1 1 5 w 4 p 1y ",
    "1j 4 j 2 1a f 3 1 2 1 s a 8 n u 1 v w 7 1 r 6 4 g 1h a l 2 q 5 p n 6 28 20 1j 1e d 1e 7 15 c 9 ",
    "86 u 1 15 6 1 26 13 8 l b 3 r h 1a r k m c 1g q t 1 1 2 0 d 18 w o 7 9 9 z f 9 4 0 2 0 8 y 3 0 c ",
    "1b e 3 b a 1 0 4 j b h 1 o 2c 6 1 0 1 3 1 e 1 9 7 1a h 9 b 7 2 1 2 l 1 6 1 1 1 4 3 0 i 0 c 4 4e ",
    "1g i 3 5 9 5 2 u 1b k 1 1 0 8 9 4m 1a 15 3 10 1b k 0 b 9 12 16 d 0 7 9 1i q l b 4 6 55 17 38 2a ",
    "c 7 2 0 2 7 1 1 1 n f 0 1 0 e 9 1y 7 2 12 g 0 1 0 s 0 a 13 7 0 l 0 b 19 j 0 i 20 7b 8 1 10 h 0 f ",
    "s 5 t 34 6 1 1 1 11 l 0 9 9 6 5 1 1 1 v e 0 7 9 8m i 59 0 f k 17 pl 2u 32 h 5f 218 2o f tq 34h ",
    "g6 6nt fs 7 u 1 9 6 26 1 9 6 t i 1b g 3 c 9 1 6 1 k 5 i j4 2e 2x 22 5 0 1u c 1s 1 1 0 s 4qf 8 yd ",
    "16 8 6w7 3 1 6 1 1 1 82 19 2 h 3 8 az 1s4 2y 5 c 3 8 7 9 4ee j 30 o 3r 2c 1 1y 1 1 2 0 2 1 2 3 1 ",
    "b 1 0 1 6 1 1s 1 3 2 7 1 6 1 r 1 3 1 4 1 0 3 6 1 9f 2 o 1 o 1 u 1 o 1 u 1 o 1 u 1 o 1 u 1 o 1 7 ",
    "2 1d 1ds u dd 18 a 6 2 9 4 0 8x t i 17 4 9 yu 6 1 3 1 1 1 e 1 5g 2 8 1c 1v 7 0 4 9 lz 1m 1 2 1 3 ",
    "24 18 1 e 5e 3 1 q 1 1 1 0 2 0 1 9 1 3 1 0 1 0 6 0 4 0 1 0 1 0 1 2 1 1 1 0 2 0 1 0 1 0 1 0 1 0 1 ",
    "1 1 0 2 3 1 6 1 3 1 3 1 0 1 9 1 g 5 2 1 4 1 g g4 c 25f 9 sm wyn w 37c 7 65 2 4g1 e 5rk 2e7 f1 ",
    "15u 3t6"])

/-- Whether a character shows in print; of the separators only the blank counts. -/
def isPrintable (c : Char) : Bool := !hiddenRanges.contains c

def isMark (c : Char) : Bool := markRanges.contains c

/-- A letter, a number or the low line. -/
def isWordChar (c : Char) : Bool := c == '_' || wordRanges.contains c

end PayoutRegistry.Text
