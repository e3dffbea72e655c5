import PayoutRegistry.DomainName
import PayoutRegistry.Text.Blank

/-!
Mail addresses as forms accept them: an address alone or behind a name and in angle brackets. The
accepted address has its part before the sign in composed form and its domain in lower case.
-/
namespace PayoutRegistry.EmailAddress

/-- The most characters that are looked at. -/
def maxInput : Nat := 2048

/-- The most octets of an address in any of its forms. -/
def maxOctets : Nat := 254

def marks : List Char := "!#$%&'*+-/=?^_`\x7b|\x7d~".toList

/-- The ASCII characters that stand in an address without quotation marks. -/
def isAtomChar (c : Char) : Bool := c.isAlphanum || marks.contains c

def isNameChar (c : Char) : Bool := Text.isWordChar c || marks.contains c

/-- What stands in angle brackets that end the text. -/
def inBrackets? (cs : List Char) : Option (List Char) :=
  match Text.trim cs with
  | '<' :: rest =>
    if rest.getLast? = some '>' ∧ rest.length ≥ 2 ∧ '\n' ∉ rest then some rest.dropLast else none
  | _ => none

/-- What stands in angle brackets behind a quoted name; the name ends at the last quotation mark that
leaves such brackets. -/
def afterQuotedName? (cs : List Char) : Option (List Char) :=
  match cs with
  | '"' :: rest =>
    (List.range rest.length).reverse.findSome? fun k =>
      match rest.drop k with
      | '"' :: after => if k = 0 then none else inBrackets? after
      | _ => none
  | _ => none

/-- What stands in angle brackets, perhaps behind a name. -/
def bracketed? (cs : List Char) : Option (List Char) :=
  let cs := Text.trim cs
  match afterQuotedName? cs with
  | some inner => some inner
  | none =>
    let (name, rest) := cs.span (· != '<')
    if name.all (fun c => isNameChar c || Text.isBlank c) then inBrackets? rest else none

/-- Words of characters with full stops between them. -/
def isDotted (isChar : Char → Bool) (cs : List Char) : Bool :=
  (DomainName.labels cs).all fun word => !word.isEmpty && word.all isChar

def isLocal (cs : List Char) : Bool :=
  isDotted isAtomChar cs ||
    (isDotted (fun c => isAtomChar c || !DomainName.isAscii c) cs && DomainName.isVisible cs)

/-- Names of mailboxes that mean the same in every case of letters. -/
def roles : List String :=
  ["info", "marketing", "sales", "support", "abuse", "noc", "security", "postmaster", "hostmaster",
    "usenet", "news", "webmaster", "www", "uucp", "ftp"]

/-- The part before the sign, in the form that is kept. -/
def localPart? (cs : List Char) : Option String := do
  if !isLocal cs then none
  let kept := Text.composed (String.ofList cs)
  if !isLocal kept.toList then none
  return if roles.contains kept.toLower then kept.toLower else kept

def octets (s : String) : Nat := (Utf8.encode s).length

/-- The accepted form of an address. -/
def ofAddress? (cs : List Char) : Option String := do
  let (before, after) := cs.span (· != '@')
  let before ← localPart? before
  match after with
  | [] => none
  | _ :: after =>
    let domain ← DomainName.ofText? (String.ofList after)
    let address := before ++ "@" ++ domain.shown
    if [String.ofList cs, address, before ++ "@" ++ domain.ascii].any fun s => decide (maxOctets < octets s)
    then none
    else some address

/-- The accepted form of the address that a text holds. -/
def ofText? (s : String) : Option String :=
  let cs := s.toList
  if maxInput < cs.length then none else ofAddress? (Text.trim ((bracketed? cs).getD cs))

end PayoutRegistry.EmailAddress
