import CodeAtlas.Grammar.Automaton

namespace CodeAtlas

/-- A node that a parser builds, hidden ones included. Blanks are counted to the node they come
before; positions are indices of characters. -/
structure Subtree where
  symbol : Symbol
  production : Nat
  /-- Where the blanks before the node begin. -/
  lead : Nat
  start : Nat
  stop : Nat
  extra : Bool
  missing : Bool
  /-- The token reads as a keyword, allowed here or not. -/
  keyword : Bool
  cost : Nat
  dynamic : Int
  /-- Visible nodes below this one, and those directly below it. -/
  descendants : Nat
  visibleChildren : Nat
  /-- What the scanner keeps after this node, if it found a token in it. -/
  scanned : Option ScanState
  children : List Subtree

namespace Subtree

/-- Prices of an error: entering it, a missing token, a skipped node, character and line. -/
def costOfRecovery : Nat := 500
def costOfMissing : Nat := 110
def costOfSkippedTree : Nat := 100
def costOfSkippedChar : Nat := 1
def costOfSkippedLine : Nat := 30

def leaf (symbol : Symbol) (lead start stop : Nat) : Subtree :=
  { symbol, production := 0, lead, start, stop
    extra := symbol = .token Grammar.endToken
    missing := false, keyword := false, cost := 0, dynamic := 0, descendants := 0
    visibleChildren := 0, scanned := none, children := [] }

def missingLeaf (token position : Nat) : Subtree :=
  { leaf (.token token) position position position with
    missing := true, cost := costOfMissing + costOfRecovery }

def isError (t : Subtree) : Bool :=
  t.symbol = .error

def isSkipping (symbol : Symbol) : Bool :=
  symbol = .error || symbol = .skipped

/-- How many nodes the stack counts for this one; growing errors count, to show progress. -/
def nodeCount (g : Grammar) (t : Subtree) : Nat :=
  t.descendants + (if g.visible t.symbol then 1 else 0) + (if t.symbol = .skipped then 1 else 0)

structure Sums where
  cost : Nat := 0
  dynamic : Int := 0
  descendants : Nat := 0
  visible : Nat := 0
  /-- Children so far that are no extras. -/
  index : Nat := 0
  scanned : Option ScanState := none

/-- A child's share of the price of the error around it. -/
def skipCost (g : Grammar) (symbol : Symbol) (child : Subtree) : Nat :=
  if !isSkipping symbol || child.extra || (child.isError && child.children.isEmpty) then 0
  else if g.visible child.symbol then costOfSkippedTree
  else costOfSkippedTree * child.visibleChildren

def Sums.add (g : Grammar) (symbol : Symbol) (steps : Array Step) (s : Sums) (child : Subtree) :
    Sums :=
  let renamed := !child.extra && ((steps[s.index]?).bind Step.renamed).isSome
  let shown := renamed || g.visible child.symbol
  let own := if child.symbol = .skipped then 0 else child.cost
  { cost := s.cost + own + skipCost g symbol child
    dynamic := s.dynamic + child.dynamic
    descendants := s.descendants + child.descendants + (if shown then 1 else 0)
    visible := s.visible + (if shown then 1 else child.visibleChildren)
    index := if child.extra then s.index else s.index + 1
    scanned := child.scanned <|> s.scanned }

def node (g : Grammar) (source : Source) (symbol : Symbol) (production position : Nat)
    (children : List Subtree) : Subtree :=
  let steps := match symbol with
    | .rule _ => g.steps production
    | _ => #[]
  let sums := children.foldl (Sums.add g symbol steps) {}
  let (lead, start, stop) := match children.head?, children.getLast? with
    | some first, some last => (first.lead, first.start, last.stop)
    | _, _ => (position, position, position)
  let spread := if isSkipping symbol then
      costOfRecovery + costOfSkippedChar * (source.offset stop - source.offset start)
        + costOfSkippedLine * (source.row stop - source.row start)
    else 0
  { symbol, production, lead, start, stop, extra := false, missing := false, keyword := false
    cost := sums.cost + spread, dynamic := sums.dynamic, descendants := sums.descendants
    visibleChildren := sums.visible, scanned := sums.scanned, children }

def errorNode (g : Grammar) (source : Source) (position : Nat) (children : List Subtree)
    (extra : Bool) : Subtree :=
  { node g source .error 0 position children with extra }

/-- Extras at the end, and what comes before them. -/
def splitTrailingExtras (ts : List Subtree) : List Subtree × List Subtree :=
  let extras := ts.reverse.takeWhile Subtree.extra
  ((ts.reverse.drop extras.length).reverse, extras.reverse)

def symbolKey : Symbol → Nat × Nat
  | .token n => (0, n)
  | .rule n => (1, n)
  | .skipped => (2, 0)
  | .error => (3, 0)

def compareSymbol (a b : Symbol) : Ordering :=
  let (k, m) := symbolKey a
  let (l, n) := symbolKey b
  (compare k l).then (compare m n)

mutual

/-- The order of last resort: by symbol, then number of children, then the children in turn. -/
def order (a b : Subtree) : Ordering :=
  match a, b with
  | ⟨s, _, _, _, _, _, _, _, _, _, _, _, _, cs⟩, ⟨t, _, _, _, _, _, _, _, _, _, _, _, _, ds⟩ =>
    ((compareSymbol s t).then (compare cs.length ds.length)).then (orderAll cs ds)

def orderAll (as bs : List Subtree) : Ordering :=
  match as, bs with
  | a :: as, b :: bs => (order a b).then (orderAll as bs)
  | _, _ => .eq

end

/-- Whether `right` is the better of two readings of the same text. -/
def prefers (left right : Subtree) : Bool :=
  if right.cost < left.cost then true
  else if left.cost < right.cost then false
  else if right.dynamic > left.dynamic then true
  else if left.dynamic > right.dynamic then false
  else if left.cost > 0 then true
  else left.order right == .gt

end Subtree

end CodeAtlas
