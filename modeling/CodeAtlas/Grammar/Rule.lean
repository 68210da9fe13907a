import CodeAtlas.Grammar.Pattern

namespace CodeAtlas

inductive Precedence where
  | none
  | level (n : Int)
  | named (name : String)
deriving DecidableEq, Hashable

inductive Associativity where
  | left
  | right
deriving DecidableEq, Hashable

inductive Lexeme.Body where
  | literal (text : String)
  | pattern (p : Pattern)
deriving DecidableEq

/-- A token: an immediate one admits no blanks before it; of two tokens that match, the one of the
higher level wins, then the longer one. -/
structure Lexeme where
  body : Lexeme.Body
  immediate : Bool := false
  level : Int := 0
deriving DecidableEq

structure Alias where
  name : String
  named : Bool
deriving DecidableEq, Hashable

inductive Rule where
  | blank
  | lexeme (l : Lexeme)
  | ref (name : String)
  | seq (a b : Rule)
  | alt (a b : Rule)
  /-- One or more of the rule. -/
  | many (a : Rule)
  | field (name : String) (a : Rule)
  | rename (as : Alias) (a : Rule)
  | prec (level : Precedence) (side : Option Associativity) (a : Rule)
  | dynamic (level : Int) (a : Rule)
deriving DecidableEq

namespace Rule

instance : Coe String Rule := ⟨fun text => lexeme { body := .literal text }⟩

def literal (text : String) : Rule :=
  lexeme { body := .literal text }

def pattern (p : Pattern) : Rule :=
  lexeme { body := .pattern p }

def immediate (p : Pattern) : Rule :=
  lexeme { body := .pattern p, immediate := true }

def immediateText (text : String) : Rule :=
  lexeme { body := .literal text, immediate := true }

def leveled (level : Int) (p : Pattern) : Rule :=
  lexeme { body := .pattern p, level }

def all : List Rule → Rule
  | [] => blank
  | [a] => a
  | a :: rest => seq a (all rest)

def oneOf : List Rule → Rule
  | [] => blank
  | [a] => a
  | a :: rest => alt a (oneOf rest)

def opt (a : Rule) : Rule :=
  alt a blank

/-- Any number of the rule, none included. -/
def star (a : Rule) : Rule :=
  alt (many a) blank

def sepBy1 (separator a : Rule) : Rule :=
  seq a (star (seq separator a))

def sepBy (separator a : Rule) : Rule :=
  opt (sepBy1 separator a)

def as (a : Rule) (name : String) : Rule :=
  rename ⟨name, true⟩ a

def asText (a : Rule) (text : String) : Rule :=
  rename ⟨text, false⟩ a

def left (a : Rule) : Rule :=
  prec (.level 0) (some .left) a

def right (a : Rule) : Rule :=
  prec (.level 0) (some .right) a

end Rule

end CodeAtlas
