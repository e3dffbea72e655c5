import PayoutRegistry.Text.Blank

/-!
Files of settings: a line `NAME=value` for each, with blanks around, values in single or double quotation
marks, and comments after `#`. A value may take in others by `$` and a name in braces. A line of another
shape is passed over.
-/
namespace PayoutRegistry.EnvFile

/-- A name, and the text bound to it unless the line has no equals sign. -/
structure Binding where
  name : String
  value : Option String
deriving DecidableEq, Repr

def isLineEnd (c : Char) : Bool := c == '\n'

/-- Blanks that do not end a line. -/
def isInlineBlank (c : Char) : Bool := Text.isBlank c && !isLineEnd c

def skipInline (cs : List Char) : List Char := cs.dropWhile isInlineBlank

def skipBlank (cs : List Char) : List Char := cs.dropWhile Text.isBlank

/-- One mark for every end of a line. -/
def unifyLineEnds : List Char → List Char
  | '\r' :: '\n' :: rest | '\r' :: rest => '\n' :: unifyLineEnds rest
  | c :: rest => c :: unifyLineEnds rest
  | [] => []

/-- The text up to a quotation mark, and what follows it. A mark behind a backslash ends the text only if
no later mark does. -/
def quoted? (mark : Char) : List Char → Option (List Char × List Char)
  | [] => none
  | '\\' :: c :: rest =>
    if c = mark then
      match quoted? mark rest with
      | some (inner, after) => some ('\\' :: c :: inner, after)
      | none => some (['\\'], rest)
    else (quoted? mark (c :: rest)).map fun (inner, after) => ('\\' :: inner, after)
  | c :: rest =>
    if c = mark then some ([], rest)
    else (quoted? mark rest).map fun (inner, after) => (c :: inner, after)

/-- Puts in the characters that stand behind a backslash. -/
def unescape (escape? : Char → Option Char) : List Char → List Char
  | '\\' :: c :: rest =>
    match escape? c with
    | some d => d :: unescape escape? rest
    | none => '\\' :: c :: unescape escape? rest
  | c :: rest => c :: unescape escape? rest
  | [] => []

def singleEscape? : Char → Option Char
  | '\\' => some '\\'
  | '\x27' => some '\x27'
  | _ => none

def doubleEscape? : Char → Option Char
  | '\\' => some '\\'
  | '\x27' => some '\x27'
  | '"' => some '"'
  | 'a' => some '\x07'
  | 'b' => some '\x08'
  | 'f' => some '\x0c'
  | 'n' => some '\n'
  | 'r' => some '\r'
  | 't' => some '\t'
  | 'v' => some '\x0b'
  | _ => none

/-- The text before a comment; the comment's mark stands behind a blank. -/
def beforeComment : List Char → List Char
  | [] => []
  | c :: rest =>
    if Text.isBlank c && (skipBlank rest).head? == some '#' then [] else c :: beforeComment rest

/-- The value after an equals sign, and what follows it. -/
def value? (cs : List Char) : Option (String × List Char) :=
  match cs with
  | '\x27' :: rest =>
    (quoted? '\x27' rest).map fun (inner, rest) => (String.ofList (unescape singleEscape? inner), rest)
  | '"' :: rest =>
    (quoted? '"' rest).map fun (inner, rest) => (String.ofList (unescape doubleEscape? inner), rest)
  | cs =>
    let (line, rest) := cs.span (!isLineEnd ·)
    some (String.ofList (Text.trimEnd (beforeComment line)), rest)

/-- A name, which may stand in single quotation marks. -/
def name? (cs : List Char) : Option (String × List Char) :=
  match cs with
  | '\x27' :: rest =>
    match rest.span (· != '\x27') with
    | ([], _) | (_, []) => none
    | (inner, _ :: rest) => some (String.ofList inner, rest)
  | cs =>
    match cs.span (fun c => c != '=' && c != '#' && !Text.isBlank c) with
    | ([], _) => none
    | (inner, rest) => some (String.ofList inner, rest)

/-- The characters after the word `export` and blanks. -/
def afterExport (cs : List Char) : List Char :=
  if "export".toList.isPrefixOf cs then
    match cs.drop 6 with
    | c :: rest => if isInlineBlank c then skipInline rest else cs
    | [] => cs
  else cs

/-- The characters after the end of a line, if only a comment stands before it. -/
def lineEnd? (cs : List Char) : Option (List Char) :=
  let cs := skipInline cs
  let cs := if cs.head? = some '#' then cs.dropWhile (!isLineEnd ·) else cs
  match cs with
  | [] => some []
  | c :: rest => if isLineEnd c then some rest else none

/-- The characters after the first line. -/
def nextLine (cs : List Char) : List Char := (cs.dropWhile (!isLineEnd ·)).drop 1

/-- Ends a binding, which counts only if nothing but a comment follows on its line. -/
def finish (binding : Binding) (cs : List Char) : Option Binding × List Char :=
  match lineEnd? cs with
  | some rest => (some binding, rest)
  | none => (none, nextLine cs)

/-- The binding that the characters start with, if they start with one, and what follows its line. -/
def binding (cs : List Char) : Option Binding × List Char :=
  let cs := afterExport cs
  match name? cs with
  | none => (none, nextLine cs)
  | some (name, rest) =>
    match skipInline rest with
    | '=' :: rest =>
      match value? (skipInline rest) with
      | some (value, rest) => finish { name, value := some value } rest
      | none => (none, nextLine rest)
    | rest => finish { name, value := none } rest

/-- The bindings of a text in order, from at most `lines` lines. -/
def bindingsFrom : Nat → List Char → List Binding
  | 0, _ => []
  | lines + 1, cs =>
    match skipBlank cs with
    | [] => []
    | cs => (binding cs).1.toList ++ bindingsFrom lines (binding cs).2

def bindings (text : String) : List Binding :=
  let cs := unifyLineEnds text.toList
  bindingsFrom (cs.length + 1) cs

/-! ### Values that take in others -/

/-- A name in braces after `$`, with the text to take where the name is not bound. -/
def reference? (cs : List Char) : Option (String × String × List Char) :=
  match cs with
  | '$' :: '\x7b' :: rest =>
    match rest.span (· != '\x7d') with
    | (_, []) => none
    | (inner, _ :: rest) =>
      match inner.span (· != ':') with
      | (name, ':' :: '-' :: fallback) => some (String.ofList name, String.ofList fallback, rest)
      | (name, []) => some (String.ofList name, "", rest)
      | _ => none
  | _ => none

/-- The characters with every reference replaced by what its name is bound to, in at most `steps`
steps. -/
def expandFrom (lookup : String → Option String) : Nat → List Char → List Char
  | 0, cs => cs
  | _, [] => []
  | steps + 1, c :: rest =>
    match reference? (c :: rest) with
    | some (name, fallback, after) =>
      ((lookup name).getD fallback).toList ++ expandFrom lookup steps after
    | none => c :: expandFrom lookup steps rest

def expand (lookup : String → Option String) (cs : List Char) : List Char :=
  expandFrom lookup cs.length cs

/-- Binds a name; a name keeps the place where it was first bound. -/
def bind (bound : List Binding) (b : Binding) : List Binding :=
  if bound.any (·.name == b.name) then bound.map fun x => if x.name == b.name then b else x
  else bound ++ [b]

/-- What a name stands for: an earlier line comes before the environment. -/
def lookup (environment : List (String × String)) (bound : List Binding) (name : String) :
    Option String :=
  match bound.find? (·.name == name) with
  | some b => some (b.value.getD "")
  | none => environment.lookup name

/-- The bindings of a text, with references replaced from top to bottom. -/
def read (environment : List (String × String)) (text : String) : List Binding :=
  (bindings text).foldl (fun bound b =>
    let value := b.value.map fun v => String.ofList (expand (lookup environment bound) v.toList)
    bind bound { b with value }) []

end PayoutRegistry.EnvFile
