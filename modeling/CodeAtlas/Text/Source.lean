namespace CodeAtlas

/-- A text by the indices of its characters, with the byte offset and the row of every index, the
end included. -/
structure Source where
  chars : Array Char
  /-- Bytes before the character at each index. -/
  offsets : Array Nat
  /-- Line feeds before the character at each index. -/
  rows : Array Nat

namespace Source

structure Scan where
  offsets : Array Nat
  rows : Array Nat
  offset : Nat
  row : Nat

def Scan.next (scan : Scan) (c : Char) : Scan :=
  let offset := scan.offset + c.utf8Size
  let row := if c = '\n' then scan.row + 1 else scan.row
  ⟨scan.offsets.push offset, scan.rows.push row, offset, row⟩

def ofString (text : String) : Source :=
  let chars := text.toList
  let scan := chars.foldl Scan.next ⟨#[0], #[0], 0, 0⟩
  ⟨chars.toArray, scan.offsets, scan.rows⟩

def size (source : Source) : Nat :=
  source.chars.size

def at? (source : Source) (i : Nat) : Option Char :=
  source.chars[i]?

def offset (source : Source) (i : Nat) : Nat :=
  source.offsets.getD i 0

def row (source : Source) (i : Nat) : Nat :=
  source.rows.getD i 0

/-- The index after the last line feed before `i`. -/
def lineStart (source : Source) : Nat → Nat
  | 0 => 0
  | i + 1 => if source.at? i = some '\n' then i + 1 else lineStart source i

/-- Bytes between the start of its line and `i`. -/
def column (source : Source) (i : Nat) : Nat :=
  source.offset i - source.offset (source.lineStart i)

def slice (source : Source) (start stop : Nat) : String :=
  String.ofList (source.chars.extract start stop).toList

/-- Tells whether the characters from `i` on begin with `text`. -/
def startsWith (source : Source) (i : Nat) : List Char → Bool
  | [] => true
  | c :: rest => source.at? i == some c && startsWith source (i + 1) rest

/-- The first index from `i` on whose character fails the test, or the end. -/
def skipWhile (source : Source) (test : Char → Bool) (i : Nat) : Nat :=
  if h : i < source.chars.size then
    if test source.chars[i] then skipWhile source test (i + 1) else i
  else i
termination_by source.chars.size - i

end Source

end CodeAtlas
