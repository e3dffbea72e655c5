import PayoutRegistry.Text.Category
import PayoutRegistry.Text.Composition
import PayoutRegistry.Text.LetterCase
import PayoutRegistry.Text.Punycode

/-!
Domain names. A name is read in lower case and in composed form; each label has an ASCII form, in which
the limits on length hold, and a form for people, in which the name is kept.
-/
namespace PayoutRegistry

/-- A domain name: the form that is kept, and the form that goes over the wire. -/
structure DomainName where
  shown : String
  ascii : String
deriving DecidableEq, Repr

namespace DomainName

def isAscii (c : Char) : Bool := c.toNat < 0x80

def isHostChar (c : Char) : Bool := c.isAlphanum || c == '-'

/-- The full stops of wide scripts, which part labels like the plain one. -/
def isFullStop (c : Char) : Bool := c == '.' || c == '\u3002' || c == '\uff0e' || c == '\uff61'

/-- The plain character that a wide one stands for, and the full stop for all full stops. -/
def plainForm (c : Char) : Char :=
  if isFullStop c then '.'
  else if '\uff01' ≤ c ∧ c ≤ '\uff5e' then Char.ofNat (c.toNat - 0xFEE0)
  else c

/-- ASCII characters other than full stops are those of host names. -/
def isPlain (cs : List Char) : Bool := cs.all fun c => !isAscii c || isHostChar c || c == '.'

/-- No character of the text is hidden, a blank, or a mark with nothing to stand on. -/
def isVisible (cs : List Char) : Bool :=
  cs.all (fun c => Text.isPrintable c && c != ' ') && !(cs.head?.any Text.isMark)

/-- Labels of domains that are never reached from outside. -/
def reserved : List String := ["arpa", "invalid", "local", "localhost", "onion", "test"]

/-- What a label in a script other than ASCII may hold. -/
def isLabelChar (c : Char) : Bool :=
  if isAscii c then isHostChar c else Text.isWordChar c || Text.isMark c

def isWideLabel (cs : List Char) : Bool :=
  cs.all isLabelChar && !(cs.head?.any Text.isMark) && !(cs.drop 2).take 2 == ['-', '-']

/-- The mark of a label that stands for one in another script. -/
def wideMark : List Char := ['x', 'n', '-', '-']

/-- The ASCII form of a label in lower case. -/
def asciiLabel? (cs : List Char) : Option (List Char) :=
  if cs.all isAscii then some cs
  else if isWideLabel cs then some (wideMark ++ Text.Punycode.encode cs) else none

/-- The form for people of a label in ASCII. -/
def shownLabel? (cs : List Char) : Option (List Char) :=
  if wideMark.isPrefixOf cs then
    let written := cs.drop 4
    if written.isEmpty ∨ written.getLast? = some '-' then none
    else (Text.Punycode.decode? written).filter fun label => isWideLabel label && !label.all isAscii
  else some cs

/-- The parts between full stops. -/
def labels (cs : List Char) : List (List Char) :=
  match cs with
  | [] => [[]]
  | c :: rest =>
    match labels rest with
    | [] => [[]]
    | first :: more => if c = '.' then [] :: first :: more else (c :: first) :: more

def joined (labels : List (List Char)) : List Char := ['.'].intercalate labels

/-- A label stands between full stops, has characters, and has no hyphen at either end; two hyphens in
third place are kept for the mark. -/
def isLabel (cs : List Char) : Bool :=
  cs ≠ [] && cs.head? != some '-' && cs.getLast? != some '-' &&
    (!((cs.drop 2).take 2 == ['-', '-']) || cs.take 2 == ['x', 'n'])

def maxLength : Nat := 253

def maxLabelLength : Nat := 63

/-- A name that can be reached from everywhere: it has more than one label, ends with a letter, and does
not end with a reserved label. -/
def isGlobal (labels : List (List Char)) : Bool :=
  1 < labels.length && (labels.getLast?.bind (·.getLast?)).any Char.isAlpha &&
    !(labels.getLast?.any fun label => reserved.contains (String.ofList label))

/-- The domain name that a text denotes. -/
def ofText? (s : String) : Option DomainName := do
  let cs := s.toList
  if !isVisible cs || !isPlain cs then none
  let lower := (Text.composed (Text.lowercase (Text.composed s))).toList.map plainForm
  let parts := labels lower
  if !isPlain lower || !parts.all isLabel then none
  let ascii ← parts.mapM asciiLabel?
  if maxLength < (joined ascii).length then none
  if ascii.any fun label => decide (maxLabelLength < label.length) then none
  if !isGlobal ascii then none
  let shown ← ascii.mapM shownLabel?
  return { shown := String.ofList (joined shown), ascii := String.ofList (joined ascii) }

end DomainName

end PayoutRegistry
