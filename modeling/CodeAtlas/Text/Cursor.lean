namespace CodeAtlas

/-- What is left of a text, and the number of bytes before it. -/
structure Cursor where
  rest : List Char
  index : Nat

namespace Cursor

/-- The number of bytes of some characters. -/
def bytesOf (cs : List Char) : Nat :=
  cs.foldr (fun c n => c.utf8Size + n) 0

def ofString (text : String) : Cursor :=
  ⟨text.toList, 0⟩

/-- The place behind the next character. -/
def advance (c : Cursor) : Cursor :=
  match c.rest with
  | [] => c
  | d :: rest => ⟨rest, c.index + d.utf8Size⟩

/-- The place behind the characters that satisfy a test. -/
def advanceWhile (p : Char → Bool) (c : Cursor) : Cursor :=
  ⟨c.rest.dropWhile p, c.index + bytesOf (c.rest.takeWhile p)⟩

end Cursor

end CodeAtlas
