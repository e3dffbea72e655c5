import PayoutRegistry.Text.Utf8
import PayoutRegistry.Json.Printer
import PayoutRegistry.Json.Reader

/-!
Web addresses in the form in which requests carry them: scheme and host in lower case, nothing behind the
host that goes without saying, and a path in which other characters are written as octets.
-/
namespace PayoutRegistry

structure WebAddress where
  scheme : String
  authority : String
  path : String
  /-- The query as it is written. -/
  rawQuery : String
deriving DecidableEq, Repr

namespace WebAddress

/-- The part before a separator, and the part after it if the separator occurs. -/
def cut (separator : Char) (cs : List Char) : List Char × Option (List Char) :=
  match cs.span (· != separator) with
  | (before, []) => (before, none)
  | (before, _ :: after) => (before, some after)

/-- What a scheme implies behind the host. -/
def impliedNumber (scheme : String) : String :=
  match scheme with
  | "http" => ":80"
  | "https" => ":443"
  | _ => ""

/-- A host in lower case, without the number that its scheme implies. -/
def normalAuthority (scheme : String) (cs : List Char) : String :=
  let host := (String.ofList cs).toLower
  let number := impliedNumber scheme
  if number ≠ "" ∧ number.toList.isSuffixOf host.toList then
    String.ofList (host.toList.take (host.length - number.length))
  else host

def isPathChar (c : Char) : Bool := c.isAlphanum || "-._~!$&'()*+,;=:/@%[]".toList.contains c

def octetText (b : UInt8) : List Char :=
  ['%', (Json.hexDigit (b.toNat / 16)).toUpper, (Json.hexDigit (b.toNat % 16)).toUpper]

def quotePath (cs : List Char) : String :=
  String.ofList (cs.flatMap fun c => if isPathChar c then [c] else (Utf8.encodeChar c).flatMap octetText)

/-- The octets of a text in which some are written as `%` and two digits. -/
def unquote : List Char → Bytes
  | '%' :: a :: b :: rest =>
    match Json.hexValue? a, Json.hexValue? b with
    | some x, some y => UInt8.ofNat (x * 16 + y) :: unquote rest
    | _, _ => 0x25 :: unquote (a :: b :: rest)
  | c :: rest => Utf8.encodeChar c ++ unquote rest
  | [] => []

def unquoteText (cs : List Char) : String := Utf8.decodeReplacing (unquote cs)

/-- A key or a value of a query: `+` stands for a blank. -/
def unquoteQuery (cs : List Char) : String :=
  unquoteText (cs.map fun c => if c = '+' then ' ' else c)

def splitOn (separator : Char) (cs : List Char) : List (List Char) :=
  cs.foldr (fun c parts => match parts with
    | part :: more => if c = separator then [] :: part :: more else (c :: part) :: more
    | [] => [[c]]) [[]]

/-- The pairs of a query. -/
def queryPairs (cs : List Char) : List (String × String) :=
  ((splitOn '&' cs).filter (!·.isEmpty)).map fun pair =>
    let (key, value) := cut '=' pair
    (unquoteQuery key, unquoteQuery (value.getD []))

/-- The scheme and the host in front of a path, where there are any: two slashes stand before the host. -/
def placeOf (cs : List Char) : String × List Char × List Char :=
  match cs with
  | '/' :: '/' :: rest => ("", rest.span (· != '/'))
  | cs =>
    match cut ':' cs with
    | (scheme, some ('/' :: '/' :: rest)) => ((String.ofList scheme).toLower, rest.span (· != '/'))
    | _ => ("", [], cs)

/-- The parts of a path after a step to the next part: one dot stays, and two dots go back. -/
def follow (parts : List (List Char)) (part : List Char) : List (List Char) :=
  if part = ['.'] then parts
  else if part = ['.', '.'] then (if parts = [[]] then parts else parts.dropLast)
  else parts ++ [part]

/-- A path without parts of one or two dots. -/
def withoutDots (path : List Char) : List Char :=
  let parts := splitOn '/' path
  if parts.contains ['.'] || parts.contains ['.', '.'] then
    ['/'].intercalate (parts.foldl follow [])
  else path

def ofText (s : String) : WebAddress :=
  let (cs, _) := cut '#' s.toList
  let (place, query) := cut '?' cs
  let (scheme, authority, path) := placeOf place
  { scheme, authority := normalAuthority scheme authority, path := quotePath (withoutDots path),
    rawQuery := String.ofList (query.getD []) }

def query (a : WebAddress) : List (String × String) := queryPairs a.rawQuery.toList

/-- The address without its query. -/
def text (a : WebAddress) : String :=
  (if a.scheme = "" then "" else a.scheme ++ "://") ++ a.authority ++ a.path

end WebAddress

end PayoutRegistry
