import CodeAtlas.Text.Quoted

namespace CodeAtlas

inductive Unexpected where
  | null
  | bool (value : Bool)
  | integer (value : Int)
  | float (value : Float)
  | string (text : String)
  | sequence
  | map

namespace Unexpected

def integerText (n : Int) : String :=
  (if n < 0 then "-" else "") ++ Nat.repr n.natAbs

/-- `spell` writes floats, which each format does in its own way. -/
def describe (spell : Float → String) : Unexpected → String
  | null => "null"
  | bool true => "boolean \x60true\x60"
  | bool false => "boolean \x60false\x60"
  | integer n => "integer \x60" ++ integerText n ++ "\x60"
  | float x => "floating point \x60" ++ spell x ++ "\x60"
  | string text => "string " ++ Text.quoted text
  | sequence => "sequence"
  | map => "map"

def mismatch (spell : Float → String) (found : Unexpected) (expected : String) : String :=
  "invalid type: " ++ found.describe spell ++ ", expected " ++ expected

end Unexpected

end CodeAtlas
