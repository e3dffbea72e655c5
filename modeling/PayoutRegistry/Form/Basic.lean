import PayoutRegistry.Json.Basic

/-!
Checked input. A check gives a value or every issue that it found; checks side by side gather their
issues in order, so that one answer names all of them.
-/
namespace PayoutRegistry

/-- One step on the way to a part of a value. -/
inductive Place where
  | field (name : String)
  | item (index : Nat)
deriving DecidableEq, Repr

/-- What is wrong with a part of the input. -/
inductive Problem where
  | missing
  | notText
  | tooShort (least : Nat)
  | tooLong (most : Nat)
  | offPattern (pattern : String)
  /-- A record was wanted, and the value is not an object. -/
  | notRecord
  /-- The same, of a body or of a value that could have been read by attributes. -/
  | notReadable
  /-- The body is not JSON. -/
  | notJson
  | badValue
  | notUuid
  | unreadableUuid
  | notInteger
  | unreadableInteger
  | fractional
  | notFinite
  | oversizeInteger
  | notReal
  | unreadableReal
  | notTruth
  | unreadableTruth
  | notMoment
  | unreadableMoment
  | unreadableDate
  | notList
  | unexpected
deriving DecidableEq, Repr

namespace Problem

def kind : Problem → String
  | .missing => "missing"
  | .notText => "string_type"
  | .tooShort _ => "string_too_short"
  | .tooLong _ => "string_too_long"
  | .offPattern _ => "string_pattern_mismatch"
  | .notRecord => "model_type"
  | .notReadable => "model_attributes_type"
  | .notJson => "json_invalid"
  | .badValue => "value_error"
  | .notUuid => "uuid_type"
  | .unreadableUuid => "uuid_parsing"
  | .notInteger => "int_type"
  | .unreadableInteger => "int_parsing"
  | .fractional => "int_from_float"
  | .notFinite => "finite_number"
  | .oversizeInteger => "int_parsing_size"
  | .notReal => "float_type"
  | .unreadableReal => "float_parsing"
  | .notTruth => "bool_type"
  | .unreadableTruth => "bool_parsing"
  | .notMoment => "datetime_type"
  | .unreadableMoment => "datetime_parsing"
  | .unreadableDate => "datetime_from_date_parsing"
  | .notList => "list_type"
  | .unexpected => "extra_forbidden"

def characters (n : Nat) : String := if n = 1 then s!"{n} character" else s!"{n} characters"

/-- The sentence that goes with a problem, for those whose wording is fixed. -/
def sentence? : Problem → Option String
  | .missing => some "Field required"
  | .notText => some "Input should be a valid string"
  | .tooShort n => some s!"String should have at least {characters n}"
  | .tooLong n => some s!"String should have at most {characters n}"
  | .offPattern pattern => some s!"String should match pattern '{pattern}'"
  | .notReadable => some "Input should be a valid dictionary or object to extract fields from"
  | _ => none

end Problem

/-- A problem and where it is. -/
structure Issue where
  places : List Place
  problem : Problem
deriving DecidableEq, Repr

namespace Issue

/-- The issue as seen from a value that holds the examined one at `place`. -/
def under (place : Place) (issue : Issue) : Issue := { issue with places := place :: issue.places }

def toJson (issue : Issue) : Json :=
  let places := issue.places.map fun
    | .field name => Json.text name
    | .item n => .int n
  .object ([("loc", .list places)] ++
    (issue.problem.sentence?.toList.map fun s => ("msg", Json.text s)) ++
    [("type", .text issue.problem.kind)])

end Issue

/-- A value, or the issues that stand in its way. -/
inductive Checked (α : Type) where
  | value (a : α)
  | issues (list : List Issue)

namespace Checked

variable {α β : Type}

def problem (p : Problem) : Checked α := .issues [{ places := [], problem := p }]

def map (f : α → β) : Checked α → Checked β
  | .value a => .value (f a)
  | .issues list => .issues list

/-- Both checks are made, and their issues follow each other. -/
def seq (f : Checked (α → β)) (a : Checked α) : Checked β :=
  match f, a with
  | .value f, .value a => .value (f a)
  | .value _, .issues list => .issues list
  | .issues list, .value _ => .issues list
  | .issues list, .issues more => .issues (list ++ more)

instance : Applicative Checked where
  pure := .value
  seq f a := seq f (a ())

/-- The second check is made on the value of the first. -/
def bind (a : Checked α) (f : α → Checked β) : Checked β :=
  match a with
  | .value a => f a
  | .issues list => .issues list

/-- The check of a part, told of the whole. -/
def under (place : Place) : Checked α → Checked α
  | .value a => .value a
  | .issues list => .issues (list.map (Issue.under place))

/-- Every item is checked. -/
def items (check : Json → Checked α) (list : List Json) : Checked (List α) :=
  (list.zipIdx.foldr fun (v, i) rest => seq (map List.cons (under (.item i) (check v))) rest) (.value [])

end Checked

end PayoutRegistry
