import CodeAtlas.Grammar.CharSet
import CodeAtlas.Text.Source

namespace CodeAtlas

inductive Pattern where
  | never
  | empty
  | chars (set : CharSet)
  | seq (a b : Pattern)
  | alt (a b : Pattern)
  | star (a : Pattern)
deriving DecidableEq

namespace Pattern

def nullable : Pattern → Bool
  | never | chars _ => false
  | empty | star _ => true
  | seq a b => a.nullable && b.nullable
  | alt a b => a.nullable || b.nullable

/-- Sequence without idle parts. -/
def andThen : Pattern → Pattern → Pattern
  | never, _ => never
  | empty, b => b
  | a, b => if b = never then never else seq a b

/-- Choice without idle or repeated parts. -/
def orElse : Pattern → Pattern → Pattern
  | never, b => b
  | a, b => if b = never ∨ a = b then a else alt a b

/-- What the rest of a text has to match after a character. -/
def derivative (c : Char) : Pattern → Pattern
  | never | empty => never
  | chars set => if set.mem c then empty else never
  | seq a b =>
    if a.nullable then orElse (andThen (a.derivative c) b) (b.derivative c)
    else andThen (a.derivative c) b
  | alt a b => orElse (a.derivative c) (b.derivative c)
  | star a => andThen (a.derivative c) (star a)

/-- The end of the longest match from `i` on; `best` is the longest one seen so far. -/
def longestFrom (source : Source) (i : Nat) (best : Option Nat) (p : Pattern) : Option Nat :=
  let best := if p.nullable then some i else best
  if h : i < source.chars.size then
    let rest := p.derivative source.chars[i]
    if rest = never then best else longestFrom source (i + 1) best rest
  else best
termination_by source.chars.size - i

def longest (p : Pattern) (source : Source) (i : Nat) : Option Nat :=
  p.longestFrom source i none

def text (s : String) : Pattern :=
  s.toList.foldr (fun c p => andThen (chars (.range c c)) p) empty

def all (ps : List Pattern) : Pattern :=
  ps.foldr seq empty

def oneOf (ps : List Pattern) : Pattern :=
  ps.foldr orElse never

def opt (p : Pattern) : Pattern :=
  alt p empty

def plus (p : Pattern) : Pattern :=
  seq p (star p)

def times (p : Pattern) : Nat → Pattern
  | 0 => empty
  | n + 1 => seq p (p.times n)

def set (text : String) : Pattern :=
  chars (.of text)

def notIn (text : String) : Pattern :=
  chars (.except (.of text))

/-- Any character but a line feed. -/
def dot : Pattern :=
  notIn "\n"

/-- Accepts some beginning of a text, or some text that begins with it. -/
def touches (p : Pattern) : List Char → Bool
  | [] => p ≠ never
  | c :: rest =>
    let next := p.derivative c
    next.nullable || touches next rest

/-- Accepts the whole of a text. -/
def accepts (p : Pattern) (cs : List Char) : Bool :=
  (cs.foldl (fun p c => p.derivative c) p).nullable

instance : Coe String Pattern := ⟨text⟩

instance : Append Pattern := ⟨seq⟩

end Pattern

end CodeAtlas
