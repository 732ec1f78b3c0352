import PageObject.Decimal.Binary64

namespace PageObject

/-- A number: an integer that fits 64 bits, signed or not, or a binary fraction with its sign. -/
inductive Json.Number where
  | int (value : Int)
  | float (negative : Bool) (magnitude : Decimal.Binary64)
deriving DecidableEq, Repr

inductive Json where
  | null
  | bool (value : Bool)
  | number (value : Json.Number)
  | string (value : String)
  | array (items : List Json)
  | object (fields : List (String × Json))
deriving Repr

abbrev Json.Fields := List (String × Json)

namespace Json

def kindName : Json → String
  | .null => "null"
  | .bool _ => "boolean"
  | .number _ => "number"
  | .string _ => "string"
  | .array _ => "array"
  | .object _ => "object"

def isNull : Json → Bool
  | .null => true
  | _ => false

namespace Fields

def get? (fields : Fields) (key : String) : Option Json := fields.lookup key

def contains (fields : Fields) (key : String) : Bool := (fields.get? key).isSome

def put : Fields → String → Json → Fields
  | [], key, value => [(key, value)]
  | (name, old) :: rest, key, value =>
    if name = key then (name, value) :: rest else (name, old) :: put rest key value

/-- The value of a key that is there and not `null`. -/
def value? (fields : Fields) (key : String) : Option Json :=
  (fields.get? key).filter fun value => !value.isNull

end Fields

def field? (value : Json) (key : String) : Option Json :=
  match value with
  | .object fields => Fields.get? fields key
  | _ => none

def string? : Json → Option String
  | .string text => some text
  | _ => none

end Json

end PageObject
