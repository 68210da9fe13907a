import CodeAtlas.Toml.Scanner

namespace CodeAtlas

inductive TomlScalar where
  | string (text : String)
  | integer (value : Int)
  | float (value : Float)
  | boolean (value : Bool)
  | dateTime

structure TomlKey where
  name : String
  span : Span
deriving DecidableEq

/-- How a table is begun: between braces, by a header, by a longer header, or by a dotted key. -/
inductive TableOrigin where
  | inline
  | header
  | implied
  | dotted
deriving DecidableEq

/-- More may be put into a table that was not begun for itself. -/
def TableOrigin.isOpen : TableOrigin → Bool
  | implied | dotted => true
  | inline | header => false

structure TomlTable (α : Type) where
  origin : TableOrigin
  entries : List (TomlKey × α) := []
  span : Option Span := none

inductive TomlItem where
  | scalar (value : TomlScalar) (span : Span)
  | array (items : List TomlItem) (span : Span)
  | table (t : TomlTable TomlItem)
  /-- The tables of headers in double brackets, the last one apart. -/
  | tables (before : List (TomlTable TomlItem)) (last : TomlTable TomlItem)

namespace TomlTable

variable {α : Type}

def get? (t : TomlTable α) (name : String) : Option α :=
  (t.entries.find? (·.1.name == name)).map (·.2)

def push (t : TomlTable α) (key : TomlKey) (a : α) : TomlTable α :=
  { t with entries := t.entries ++ [(key, a)] }

/-- Replaces the value of a name, in its place. -/
def set (t : TomlTable α) (name : String) (a : α) : TomlTable α :=
  { t with entries := t.entries.map fun (key, b) => if key.name = name then (key, a) else (key, b) }

def erase (t : TomlTable α) (name : String) : TomlTable α :=
  { t with entries := t.entries.filter (·.1.name != name) }

end TomlTable

namespace TomlItem

def span? : TomlItem → Option Span
  | scalar _ span => some span
  | array _ span => some span
  | table t => t.span
  | tables before last => do
    return ⟨(← (before.headD last).span).start, (← last.span).stop⟩

def kind : TomlItem → String
  | scalar (.string _) _ => "string"
  | scalar (.integer _) _ => "integer"
  | scalar (.float _) _ => "float"
  | scalar (.boolean _) _ => "boolean"
  | scalar .dateTime _ => "datetime"
  | array _ _ => "array"
  | table _ => "inline table"
  | tables _ _ => "array of tables"

end TomlItem

end CodeAtlas
