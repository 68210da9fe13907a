import CodeAtlas.Text.Identifier

namespace CodeAtlas

inductive CharSet where
  | none
  | range (low high : Char)
  | identifierStart
  | identifierContinue
  | union (a b : CharSet)
  | except (a : CharSet)
deriving DecidableEq

namespace CharSet

def mem : CharSet → Char → Bool
  | none, _ => false
  | range low high, c => low ≤ c && c ≤ high
  | identifierStart, c => Text.isIdentifierStart c
  | identifierContinue, c => Text.isIdentifierContinue c
  | union a b, c => a.mem c || b.mem c
  | except a, c => !a.mem c

def ofList (cs : List Char) : CharSet :=
  cs.foldr (fun c set => union (range c c) set) none

def of (text : String) : CharSet :=
  ofList text.toList

instance : Append CharSet := ⟨union⟩

def any : CharSet := except none

def digit : CharSet := range '0' '9'

def hexDigit : CharSet := digit ++ range 'a' 'f' ++ range 'A' 'F'

def octalDigit : CharSet := range '0' '7'

def letter : CharSet := range 'a' 'z' ++ range 'A' 'Z'

/-- Tab, line feed, vertical tab, form feed, carriage return and the blank. -/
def blank : CharSet := range '\t' '\r' ++ of " "

/-- The blanks of Unicode that part words (general category `Zs`). -/
def wideBlank : CharSet :=
  of "\u00a0\u1680\u202f\u205f\u3000" ++ range '\u2000' '\u200a'

end CharSet

end CodeAtlas
