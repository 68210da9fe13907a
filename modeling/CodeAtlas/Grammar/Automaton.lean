import CodeAtlas.Grammar.Basic

namespace CodeAtlas

/-- A production with its first `dot` steps done, and the tokens that can follow it. -/
structure Item where
  production : Nat
  dot : Nat
  ahead : TokenSet
deriving BEq, Hashable

inductive Action where
  | shift (again : Bool)
  | shiftExtra
  | startExtra
  | reduce (production : Nat)
  | accept
  | recover
deriving DecidableEq

/-- A state keeps its kernel alone; what its rules can begin with is closed over by `reach`. -/
structure State where
  kernel : Array Item
  /-- By rule, the tokens that can follow it where it begins here. -/
  reach : Array TokenSet
  valid : TokenSet
  /-- A rule among the extras is complete here, whatever comes next. -/
  closesExtra : Bool
  moves : Std.HashMap Symbol Nat

/-- The automaton of a grammar, one symbol of look-ahead, built as far as a text needs it. -/
structure Automaton where
  states : Array State
  index : Std.HashMap (Array Item) Nat

namespace Automaton

/-- The state of an error not yet recovered from, and the state of an empty text. -/
def errorState : Nat := 0
def startState : Nat := 1

end Automaton

namespace Item

def step? (g : Grammar) (i : Item) : Option Step :=
  (g.steps i.production)[i.dot]?

def advance (i : Item) : Item :=
  { i with dot := i.dot + 1 }

/-- The item under the first production that is alike. -/
def canonical (g : Grammar) (i : Item) : Item :=
  match (g.alike[i.production]?).bind (·[i.dot]?) with
  | some p => { i with production := p }
  | none => i

def before? (g : Grammar) (i : Item) : Option Step :=
  if i.dot = 0 then none else (g.steps i.production)[i.dot - 1]?

def level (g : Grammar) (i : Item) : Precedence :=
  ((i.before? g).map Step.level).getD .none

def side (g : Grammar) (i : Item) : Option Associativity :=
  (i.before? g).bind Step.side

/-- Items are tried by progress, then by rule, dynamic precedence and length. -/
def sortKey (g : Grammar) (i : Item) : Nat × Nat × Int × Nat × Nat :=
  match g.productions[i.production]? with
  | some p => (i.dot, p.head, p.dynamic, p.steps.size, i.production)
  | none => (i.dot, 0, 0, 0, i.production)

def comesBefore (g : Grammar) (a b : Item) : Bool :=
  let (d, h, n, s, p) := a.sortKey g
  let (d', h', n', s', p') := b.sortKey g
  if d ≠ d' then d < d' else if h ≠ h' then h < h' else if n ≠ n' then n < n'
  else if s ≠ s' then s < s' else p < p'

end Item

/-- Spreads what can follow a rule to the rules it can begin with. -/
def Grammar.spread (g : Grammar) : Nat → List (Nat × TokenSet) → Array TokenSet → Array TokenSet
  | 0, _, reach => reach
  | _, [], reach => reach
  | fuel + 1, (rule, ahead) :: rest, reach =>
    let old := reach.getD rule .empty
    let new := old.union ahead
    if new == old then spread g fuel rest reach
    else
      let corners := g.corners.getD rule #[]
      let work := corners.foldl (fun work c =>
        (c.rule, if c.last then c.follow.union new else c.follow) :: work) rest
      spread g fuel work (reach.set! rule new)

def Grammar.reach (g : Grammar) (kernel : Array Item) : Array TokenSet :=
  let seeds := kernel.toList.filterMap fun i =>
    match i.step? g with
    | some ⟨.rule n, _, _, _, _⟩ =>
      match i.advance.step? g with
      | some next => some (n, g.first next.symbol)
      | none => some (n, i.ahead)
    | _ => none
  g.spread (g.rules.size * (g.tokens.size + 2) * 8) seeds (Array.replicate g.rules.size .empty)

def Grammar.validIn (g : Grammar) (kernel : Array Item) : TokenSet :=
  kernel.foldl (fun valid i =>
    match i.step? g with
    | some step => valid.union (g.first step.symbol)
    | none => valid.union i.ahead) .empty

def Grammar.emptyProduction? (g : Grammar) : Option Nat :=
  g.productions.findIdx? fun p => p.head == 0 && p.steps.isEmpty

def Grammar.state (g : Grammar) (kernel : Array Item) : State :=
  let closes := kernel.any fun i => (i.step? g).isNone && i.ahead.has g.endOfExtra
  let own := g.validIn kernel
  let start := kernel.any fun i => i.dot == 0
  let own := if start && g.emptyProduction?.isSome then own.union (.single Grammar.endToken) else own
  { kernel, reach := g.reach kernel
    valid := if closes then own else (own.union g.extraTokens).union g.extraStarts
    closesExtra := closes, moves := ∅ }

/-- The state of errors takes every token but the broad ones. -/
def Grammar.recovering (g : Grammar) : State :=
  let valid := g.tokens.zipIdx.foldl (fun s (t, i) =>
    if t.broad then s else s.union (.single i)) TokenSet.empty
  { kernel := #[], reach := #[], valid := valid.union g.extraTokens, closesExtra := false, moves := ∅ }

def Automaton.start (g : Grammar) : Automaton :=
  let kernel := #[⟨Grammar.wholeText, 0, .single Grammar.endToken⟩]
  { states := #[g.recovering, g.state kernel], index := (∅ : Std.HashMap _ _).insert kernel 1 }

/-- Joins the look-ahead of items that differ in nothing else. -/
def Item.merge (items : Array Item) : Array Item :=
  items.foldl (fun acc i =>
    match acc.back? with
    | some j =>
      if j.production == i.production && j.dot == i.dot then
        acc.pop.push { j with ahead := j.ahead.union i.ahead }
      else acc.push i
    | none => acc.push i) #[]

/-- The kernel reached from a state by a symbol. -/
def State.kernelAfter (g : Grammar) (s : State) (symbol : Symbol) : Array Item :=
  let moved := s.kernel.filterMap fun i =>
    match i.step? g with
    | some step => if step.symbol = symbol then some (i.advance.canonical g) else none
    | none => none
  let begun := match symbol with
    | .token n => g.byToken.getD n #[]
    | .rule n => g.byRule.getD n #[]
    | _ => #[]
  let opened := begun.filterMap fun p =>
    let ahead := s.reach.getD (g.head p) .empty
    if ahead == .empty then none else some (Item.canonical g ⟨p, 1, ahead⟩)
  Item.merge ((moved ++ opened).qsort (Item.comesBefore g))

/-- The kernel after the first token of a rule among the extras. -/
def Grammar.extraKernel (g : Grammar) (token : Nat) : Array Item :=
  let begun := (g.byToken.getD token #[]).filter fun p => g.extraRules.contains (g.head p)
  (begun.map fun p => Item.canonical g ⟨p, 1, .single g.endOfExtra⟩).qsort (Item.comesBefore g)

def Automaton.stateOf (g : Grammar) (a : Automaton) (kernel : Array Item) : Nat × Automaton :=
  match a.index[kernel]? with
  | some n => (n, a)
  | none =>
    let n := a.states.size
    (n, ⟨a.states.push (g.state kernel), a.index.insert kernel n⟩)

def Automaton.state (a : Automaton) (n : Nat) : State :=
  a.states.getD n ⟨#[], #[], .empty, false, ∅⟩

def Automaton.remember (a : Automaton) (n : Nat) (symbol : Symbol) (target : Nat) : Automaton :=
  { a with states := a.states.modify n fun s => { s with moves := s.moves.insert symbol target } }

/-- Where a symbol leads; none if the state has no place for it. -/
def Automaton.move (g : Grammar) (a : Automaton) (n : Nat) (symbol : Symbol) :
    Option Nat × Automaton :=
  let s := a.state n
  match s.moves[symbol]? with
  | some target => (some target, a)
  | none =>
    let kernel := s.kernelAfter g symbol
    if kernel.isEmpty then (none, a)
    else
      let (target, a) := a.stateOf g kernel
      (some target, a.remember n symbol target)

def Automaton.beginExtra (g : Grammar) (a : Automaton) (token : Nat) : Nat × Automaton :=
  a.stateOf g (g.extraKernel token)

namespace Grammar

def rankMatches (g : Grammar) (rank : Rank) (level : Precedence) (heads : List Nat) : Bool :=
  match rank with
  | .level name => level = .named name
  | .rule name => heads.any fun h => (g.rules[h]?).any (·.name == name)

/-- The first list that ranks both decides; `none` where no list does. -/
def rankOrder (g : Grammar) (l : Precedence) (ls : List Nat) (r : Precedence) (rs : List Nat) :
    Ordering :=
  let decide (list : List Rank) : Option Ordering :=
    let rec go (sawLeft sawRight : Bool) : List Rank → Option Ordering
      | [] => none
      | rank :: rest =>
        if g.rankMatches rank l ls then
          if sawRight then some .lt else go true sawRight rest
        else if g.rankMatches rank r rs then
          if sawLeft then some .gt else go sawLeft true rest
        else go sawLeft sawRight rest
    go false false list
  (g.ranks.findSome? decide).getD .eq

def comparePrecedence (g : Grammar) (l : Precedence) (ls : List Nat) (r : Precedence)
    (rs : List Nat) : Ordering :=
  match l, r with
  | .level m, .level n => if m ≠ 0 ∨ n ≠ 0 then compare m n else g.rankOrder l ls r rs
  | .level m, .none => if m ≠ 0 then compare m 0 else g.rankOrder l ls r rs
  | .none, .level n => if n ≠ 0 then compare 0 n else g.rankOrder l ls r rs
  | _, _ => g.rankOrder l ls r rs

/-- The reductions open on one token, all of the same precedence. -/
structure Reductions where
  productions : Array Nat := #[]
  level : Precedence := .none
  heads : List Nat := []
  left : Bool := false
  right : Bool := false
  neither : Bool := false

def Reductions.add (g : Grammar) (r : Reductions) (i : Item) : Reductions :=
  let head := g.head i.production
  let level := i.level g
  let join (r : Reductions) : Reductions :=
    { productions := r.productions.push i.production, level
      heads := if r.heads.contains head then r.heads else head :: r.heads
      left := r.left || i.side g = some .left
      right := r.right || i.side g = some .right
      neither := r.neither || i.side g = none }
  if r.productions.isEmpty then join r
  else match g.comparePrecedence level [head] r.level r.heads with
    | .gt => join {}
    | .eq => join r
    | .lt => r

def asReductions (r : Reductions) : List Action :=
  r.productions.toList.map fun p => if p == wholeText then .accept else .reduce p

/-- A token that can be shifted and also ends something. -/
def settleConflict (g : Grammar) (involved : Array Item) (shifts : Array Item)
    (r : Reductions) : List Action :=
  let heads := involved.toList.map fun i => g.head i.production
  let repetition := match heads with
    | [] => false
    | h :: rest => g.auxiliary h && rest.all (· == h)
  if repetition then asReductions r ++ [.shift true]
  else
    let orders := shifts.toList.map fun i =>
      g.comparePrecedence (i.level g) [g.head i.production] r.level r.heads
    let more := orders.contains .gt
    let less := orders.contains .lt
    if more && !less then [.shift false]
    else if less && !more then asReductions r
    else if !less && !more && r.left && !r.right && !r.neither then asReductions r
    else if !less && !more && r.right && !r.left && !r.neither then [.shift false]
    else asReductions r ++ [.shift false]

end Grammar

def Grammar.isWord (g : Grammar) (t : Token) : Bool :=
  g.word.any fun w => (g.tokens[w]?).any (·.name == t.name)

/-- Whether the texts of two tokens can be mistaken for each other. -/
def Grammar.contend (g : Grammar) (a b : Token) : Bool :=
  if a.keyword && b.keyword then a.name == b.name
  else match a.lexeme.map Lexeme.body, b.lexeme.map Lexeme.body with
    | some (.literal s), some (.literal t) => s.startsWith t || t.startsWith s
    | some (.pattern p), some (.literal t) => !(b.keyword && g.isWord a) && p.touches t.toList
    | some (.literal s), some (.pattern q) => !(a.keyword && g.isWord b) && q.touches s.toList
    | some (.pattern _), some (.pattern _) => true
    | _, _ => false

/-- Reductions on a token that can follow the rule elsewhere, where it cannot be mistaken for a
token allowed here. An error that they put off shows at the next shift. -/
def State.lenientActions (g : Grammar) (s : State) (token : Nat) : List Action :=
  match g.tokens[token]? with
  | none => []
  | some t =>
    if g.externalTokens.has token then []
    else
      let done := s.kernel.filter fun i =>
        (i.step? g).isNone && (g.follows.get.getD (g.head i.production) .empty).has token
      if done.isEmpty then []
      else if g.tokens.zipIdx.any fun (u, n) => n ≠ token && s.valid.has n && g.contend t u then []
      else Grammar.asReductions (done.foldl (Grammar.Reductions.add g) {})

/-- What a state does on a token, in the order of trial. -/
def State.actions (g : Grammar) (s : State) (token : Nat) : List Action :=
  let done := s.kernel.filter fun i => (i.step? g).isNone && i.ahead.has token
  let shifts := s.kernel.filter fun i =>
    (i.step? g).any fun step => (g.first step.symbol).has token
  let r := done.foldl (Grammar.Reductions.add g) {}
  let own :=
    if shifts.isEmpty then Grammar.asReductions r
    else if r.productions.isEmpty then [.shift false]
    else
      let begun := shifts.filter (·.dot > 0)
      let involved := (begun ++ done).filter (·.production != Grammar.wholeText)
      g.settleConflict involved begun r
  let own := match own, g.emptyProduction? with
    | [], some p =>
      if token == Grammar.endToken && s.kernel.any (·.dot == 0) then [.reduce p] else []
    | own, _ => own
  if !own.isEmpty || s.closesExtra then own
  else if g.extraStarts.has token then [.startExtra]
  else if g.extraTokens.has token then [.shiftExtra]
  else []

/-- The state of errors takes extras as they are and skips the rest. -/
def Grammar.recoveryActions (g : Grammar) (token : Nat) : List Action :=
  if g.extraStarts.has token then [.startExtra]
  else if g.extraTokens.has token then [.shiftExtra]
  else [.recover]

def Automaton.actions (g : Grammar) (a : Automaton) (n token : Nat) : List Action :=
  if n == errorState then g.recoveryActions token else (a.state n).actions g token

/-- The same, with what the state takes leniently. -/
def Automaton.actionsOrLenient (g : Grammar) (a : Automaton) (n token : Nat) : List Action :=
  match a.actions g n token with
  | [] => if n == errorState then [] else (a.state n).lenientActions g token
  | acts => acts

end CodeAtlas
