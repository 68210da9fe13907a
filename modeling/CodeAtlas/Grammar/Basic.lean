import CodeAtlas.Grammar.Rule
import Std.Data.HashMap

namespace CodeAtlas

inductive Symbol where
  | token (n : Nat)
  | rule (n : Nat)
  /-- Skipped text inside an error, still growing. -/
  | skipped
  | error
deriving DecidableEq, Hashable

/-- A token that a scanner finds, by itself or as one of the grammar's own tokens. -/
inductive External where
  | name (name : String)
  | text (text : String)
deriving DecidableEq

/-- One place in a list of falling precedence. -/
inductive Rank where
  | level (name : String)
  | rule (name : String)
deriving DecidableEq

/-- What a scanner keeps between two tokens. -/
abbrev ScanState := List Nat

/-- `token` counts in the grammar's list of external tokens. -/
structure Scanned where
  token : Nat
  start : Nat
  stop : Nat
  state : ScanState

abbrev Scanner := (Nat → Bool) → ScanState → Source → Nat → Option Scanned

/-- A grammar as its author writes it. -/
structure Definition where
  rules : List (String × Rule)
  separators : CharSet
  extras : List String
  externals : List External := []
  word : Option String := none
  inlined : List String := []
  supertypes : List String := []
  ranks : List (List Rank) := []
  scanner : Scanner := fun _ _ _ _ => none

structure Step where
  symbol : Symbol
  level : Precedence
  side : Option Associativity
  renamed : Option Alias
  field : Option String
deriving DecidableEq, Hashable

structure Production where
  head : Nat
  steps : Array Step
  dynamic : Int
deriving DecidableEq

structure Token where
  name : String
  named : Bool
  visible : Bool
  /-- None for a token that only the scanner finds. -/
  lexeme : Option Lexeme
  keyword : Bool
  /-- Broad tokens match the text of others, so recovery does not look for them. -/
  broad : Bool

structure RuleInfo where
  name : String
  visible : Bool
  /-- Stands for a repetition, and is derived by pairs of itself. -/
  auxiliary : Bool

/-- A set of tokens by number, as the bits of a number. -/
structure TokenSet where
  bits : Nat
deriving DecidableEq, Hashable

namespace TokenSet

def empty : TokenSet := ⟨0⟩

def single (n : Nat) : TokenSet := ⟨1 <<< n⟩

def has (s : TokenSet) (n : Nat) : Bool := s.bits.testBit n

def union (a b : TokenSet) : TokenSet := ⟨a.bits ||| b.bits⟩

end TokenSet

/-- How a rule can begin with another: `follow` are the tokens after it, and `last` tells that
nothing need come after it. -/
structure Corner where
  rule : Nat
  follow : TokenSet
  last : Bool

/-- A grammar as a parser uses it. Each production step carries the precedence, the alias and the
field that its rule gave it. -/
structure Grammar where
  tokens : Array Token
  rules : Array RuleInfo
  productions : Array Production
  /-- The tokens that each rule can begin with. -/
  firsts : Array TokenSet
  /-- The tokens that can follow each rule somewhere. -/
  follows : Thunk (Array TokenSet)
  corners : Array (Array Corner)
  /-- The productions that begin with each token, and with each rule. -/
  byToken : Array (Array Nat)
  byRule : Array (Array Nat)
  /-- By production and progress, the first production that is alike from there on. -/
  alike : Array (Array Nat)
  separators : CharSet
  extraTokens : TokenSet
  extraRules : List Nat
  /-- The tokens that begin a rule among the extras. -/
  extraStarts : TokenSet
  word : Option Nat
  keywords : Std.HashMap String Nat
  externals : Array Nat
  externalTokens : TokenSet
  ranks : List (List Rank)
  scanner : Scanner

namespace Grammar

/-- The token of the end of the text. -/
def endToken : Nat := 0

/-- The production of the whole text, with the first rule as its only step. -/
def wholeText : Nat := 0

/-- Stands after a rule among the extras: it is complete whatever comes next. -/
def endOfExtra (g : Grammar) : Nat := g.tokens.size

def first (g : Grammar) : Symbol → TokenSet
  | .token n => .single n
  | .rule n => g.firsts.getD n .empty
  | _ => .empty

def visible (g : Grammar) : Symbol → Bool
  | .token n => (g.tokens[n]?).elim false Token.visible
  | .rule n => (g.rules[n]?).elim false RuleInfo.visible
  | .skipped => false
  | .error => true

def kind (g : Grammar) : Symbol → String
  | .token n => (g.tokens[n]?).elim "" Token.name
  | .rule n => (g.rules[n]?).elim "" RuleInfo.name
  | .skipped => "ERROR"
  | .error => "ERROR"

def auxiliary (g : Grammar) (rule : Nat) : Bool :=
  (g.rules[rule]?).elim false RuleInfo.auxiliary

def steps (g : Grammar) (production : Nat) : Array Step :=
  (g.productions[production]?).elim #[] Production.steps

def head (g : Grammar) (production : Nat) : Nat :=
  (g.productions[production]?).elim 0 Production.head

end Grammar

end CodeAtlas
