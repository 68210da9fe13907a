import CodeAtlas.Text.Decimal

namespace CodeAtlas

/-- The integers that are kept as such; larger ones become floats. -/
structure JsonInteger where
  value : Int
  bounded : -9223372036854775808 ≤ value ∧ value < 18446744073709551616
deriving DecidableEq

inductive Json where
  | null
  | bool (value : Bool)
  | integer (n : JsonInteger)
  | float (value : Float)
  | string (text : String)
  | array (items : List Json)
  /-- The fields of a value stand in ascending order of their names. -/
  | object (fields : List (String × Json))

namespace Json

/-- Sets a field, in its place by name. -/
def insertField (name : String) (value : Json) : List (String × Json) → List (String × Json)
  | [] => [(name, value)]
  | (other, old) :: rest =>
    if name < other then (name, value) :: (other, old) :: rest
    else if name = other then (name, value) :: rest
    else (other, old) :: insertField name value rest

def natural (n : Nat) : Json :=
  if h : -9223372036854775808 ≤ (n : Int) ∧ (n : Int) < 18446744073709551616 then integer ⟨n, h⟩
  else float n.toFloat

mutual

/-- Equality of values; floats are compared as numbers. -/
def same : Json → Json → Bool
  | null, null => true
  | bool a, bool b => a == b
  | integer a, integer b => a.value == b.value
  | float a, float b => a == b
  | string a, string b => a == b
  | array a, array b => sameItems a b
  | object a, object b => sameFields a b
  | _, _ => false

def sameItems : List Json → List Json → Bool
  | [], [] => true
  | a :: as, b :: bs => same a b && sameItems as bs
  | _, _ => false

def sameFields : List (String × Json) → List (String × Json) → Bool
  | [], [] => true
  | (n, a) :: as, (m, b) :: bs => n == m && same a b && sameFields as bs
  | _, _ => false

end

end Json

end CodeAtlas
