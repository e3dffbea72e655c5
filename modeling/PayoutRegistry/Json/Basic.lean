import PayoutRegistry.Binary64.Basic

/-!
JSON values. Whole numbers and binary fractions are told apart, and an object keeps its keys in the
order in which they first came, each once.
-/
namespace PayoutRegistry

inductive Json where
  | null
  | bool (value : Bool)
  | int (value : Int)
  | real (value : Binary64)
  | text (value : String)
  | list (items : List Json)
  | object (fields : List (String × Json))
deriving Inhabited

namespace Json

/-- The fields of an object, in order. -/
abbrev Fields := List (String × Json)

namespace Fields

/-- The value under a key. -/
def get? (fields : Fields) (key : String) : Option Json := fields.lookup key

/-- Writes a value under a key: in place if the key is there, else at the end. -/
def set (fields : Fields) (key : String) (value : Json) : Fields :=
  if fields.any (·.1 == key) then fields.map fun f => if f.1 == key then (key, value) else f
  else fields ++ [(key, value)]

/-- The object of pairs read from left to right: a later value replaces an earlier one in place. -/
def ofPairs (pairs : List (String × Json)) : Fields := pairs.foldl (fun fs p => set fs p.1 p.2) []

end Fields

/-- The value under a key, if the value is an object with that key. -/
def get? (v : Json) (key : String) : Option Json :=
  match v with
  | .object fields => Fields.get? fields key
  | _ => none

/-- Zero, the empty containers, `false` and `null` do not hold; every other value does. -/
def holds : Json → Bool
  | .null => false
  | .bool b => b
  | .int n => n ≠ 0
  | .real x => !x.isZero
  | .text s => s ≠ ""
  | .list items => !items.isEmpty
  | .object fields => !fields.isEmpty

mutual

/-- Whether every number in a value is finite. -/
def isFinite : Json → Bool
  | .real x => x.isFinite
  | .list items => areFinite items
  | .object fields => areFiniteFields fields
  | _ => true

def areFinite : List Json → Bool
  | [] => true
  | v :: rest => isFinite v && areFinite rest

def areFiniteFields : List (String × Json) → Bool
  | [] => true
  | (_, v) :: rest => isFinite v && areFiniteFields rest

end

end Json

end PayoutRegistry
