/-!
Blank characters: the white space of Unicode, and with it the four information separators of ASCII.
-/
namespace PayoutRegistry.Text

def isSpace (c : Char) : Bool :=
  let n := c.toNat
  (0x09 ≤ n && n ≤ 0x0D) || n == 0x20 || n == 0x85 || n == 0xA0 || n == 0x1680 ||
    (0x2000 ≤ n && n ≤ 0x200A) || n == 0x2028 || n == 0x2029 || n == 0x202F || n == 0x205F ||
    n == 0x3000

def isBlank (c : Char) : Bool := isSpace c || (0x1C ≤ c.toNat && c.toNat ≤ 0x1F)

/-- The characters without those at their end that pass the test. -/
def dropEndWhile (p : Char → Bool) (cs : List Char) : List Char := (cs.reverse.dropWhile p).reverse

/-- The characters without the blanks at their end. -/
def trimEnd (cs : List Char) : List Char := dropEndWhile isBlank cs

/-- The characters without the blanks at either end. -/
def trim (cs : List Char) : List Char := trimEnd (cs.dropWhile isBlank)

/-- The characters without the white space at either end. -/
def trimSpace (cs : List Char) : List Char := dropEndWhile isSpace (cs.dropWhile isSpace)

end PayoutRegistry.Text
