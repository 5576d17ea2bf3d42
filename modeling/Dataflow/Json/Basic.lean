import Dataflow.Decimal.Binary64

namespace Dataflow

/-- Objects keep their members in order, and integers are told apart from other numbers. -/
inductive Json where
  | null
  | bool (b : Bool)
  | int (n : Int)
  | float (x : Binary64)
  | str (s : String)
  | arr (items : List Json)
  | obj (fields : List (String × Json))
deriving BEq, Repr, Inhabited

namespace Json

abbrev Fields := List (String × Json)

/-- The type of a value, as messages name it. -/
def typeName : Json → String
  | .null => "NoneType"
  | .bool _ => "bool"
  | .int _ => "int"
  | .float _ => "float"
  | .str _ => "str"
  | .arr _ => "list"
  | .obj _ => "dict"

/-- Null, false, zero and everything empty count as false. -/
def truthy : Json → Bool
  | .null => false
  | .bool b => b
  | .int n => n != 0
  | .float x => !x.isZero
  | .str s => s != ""
  | .arr items => !items.isEmpty
  | .obj fields => !fields.isEmpty

mutual

/-- Whether every number in the value is finite. -/
def isFinite : Json → Bool
  | .float x => x.isFinite
  | .arr items => allFinite items
  | .obj fields => fieldsFinite fields
  | _ => true

def allFinite : List Json → Bool
  | [] => true
  | v :: rest => isFinite v && allFinite rest

def fieldsFinite : List (String × Json) → Bool
  | [] => true
  | (_, v) :: rest => isFinite v && fieldsFinite rest

end

def isNull : Json → Bool
  | .null => true
  | _ => false

def fields? : Json → Option Fields
  | .obj fields => some fields
  | _ => none

namespace Fields

def get? (fields : Fields) (key : String) : Option Json := fields.lookup key

def getD (fields : Fields) (key : String) (default : Json) : Json := (fields.lookup key).getD default

/-- The member's value unless it is missing or null. -/
def present? (fields : Fields) (key : String) : Option Json :=
  (fields.lookup key).filter (!·.isNull)

/-- Gives `key` the value: in its place if it is there, else at the end. -/
def set (key : String) (value : Json) : Fields → Fields
  | [] => [(key, value)]
  | (k, v) :: rest => if k = key then (k, value) :: rest else (k, v) :: set key value rest

/-- All members of both; where they share a key, the second value stands in the first one's place. -/
def merge (fields more : Fields) : Fields := more.foldl (fun acc kv => acc.set kv.1 kv.2) fields

/-- The first of the keys that has a value other than null. -/
def firstPresent? (fields : Fields) (keys : List String) : Option Json := keys.findSome? fields.present?

end Fields

end Json

end Dataflow
