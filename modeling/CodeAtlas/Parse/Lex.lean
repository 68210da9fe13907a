import CodeAtlas.Parse.Subtree

namespace CodeAtlas

namespace Lexeme

def matchEnd (l : Lexeme) (source : Source) (i : Nat) : Option Nat :=
  match l.body with
  | .literal text =>
    let cs := text.toList
    if source.startsWith i cs then some (i + cs.length) else none
  | .pattern p => p.longest source i

/-- Literals before patterns, immediate tokens before others, where all else is equal. -/
def weight (l : Lexeme) : Nat :=
  (match l.body with | .literal _ => 2 | .pattern _ => 0) + (if l.immediate then 1 else 0)

end Lexeme

structure Match where
  token : Nat
  start : Nat
  stop : Nat
  level : Int
  weight : Nat

def Match.beats (a b : Match) : Bool :=
  if a.level ≠ b.level then a.level > b.level
  else if a.stop ≠ b.stop then a.stop > b.stop
  else a.weight > b.weight

namespace Grammar

/-- The tokens to be matched where those of a set are allowed: keywords are read as words. -/
def matched (g : Grammar) (valid : TokenSet) : List (Nat × Lexeme) :=
  let words := g.tokens.zipIdx.any fun (t, i) => t.keyword && valid.has i
  g.tokens.zipIdx.toList.filterMap fun (t, i) =>
    if t.keyword then none
    else if valid.has i || (words && g.word == some i) then t.lexeme.map (i, ·)
    else none

def bestMatch (source : Source) (i : Nat) (ls : List (Nat × Lexeme)) : Option Match :=
  ls.foldl (fun best (token, l) =>
    match l.matchEnd source i with
    | none => best
    | some stop =>
      let found : Match := ⟨token, i, stop, l.level, l.weight⟩
      match best with
      | some b => if found.beats b then some found else best
      | none => some found) none

/-- The token at `i` among those allowed; if none is there, blanks can come before all but the
immediate ones. -/
def lexAt (g : Grammar) (source : Source) (valid : TokenSet) (i : Nat) : Option Match :=
  let ls := g.matched valid
  let j := source.skipWhile g.separators.mem i
  let found :=
    match bestMatch source i ls with
    | some m => some m
    | none => if j == i then none else bestMatch source j (ls.filter (!·.2.immediate))
  found.or (if j == source.size && valid.has endToken then some ⟨endToken, j, j, 0, 0⟩ else none)

/-- The token read by the scanner, as a token of the grammar. -/
def scanAt (g : Grammar) (source : Source) (valid : TokenSet) (state : ScanState) (i : Nat) :
    Option (Nat × Scanned) :=
  if (valid.bits &&& g.externalTokens.bits) == 0 then none
  else
    let allowed (n : Nat) : Bool := (g.externals[n]?).any valid.has
    match g.scanner allowed state source i with
    | none => none
    | some found => (g.externals[found.token]?).map (·, found)

/-- The word as the keyword it spells, if that is allowed; and whether it spells one at all. -/
def keywordAt (g : Grammar) (source : Source) (allowed : Nat → Bool) (m : Match) : Nat × Bool :=
  if g.word == some m.token then
    match g.keywords[source.slice m.start m.stop]? with
    | some n => (if allowed n then n else m.token, true)
    | none => (m.token, false)
  else (m.token, false)

end Grammar

/-- What the parser tells the lexer about its state. -/
structure LexPlace where
  valid : TokenSet
  inError : Bool
  /-- Tokens of no length are only taken after progress since the last error. -/
  advanced : Bool
  /-- The token would leave the state as it is. -/
  stays : Nat → Bool
  allowed : Nat → Bool
  state : ScanState

def LexPlace.scan (p : LexPlace) (g : Grammar) (source : Source) (valid : TokenSet)
    (inError : Bool) (i : Nat) : Option Subtree :=
  match g.scanAt source valid p.state i with
  | none => none
  | some (token, found) =>
    let changed := found.state ≠ p.state
    let idle := found.stop ≤ i && !changed && (inError || !p.advanced || p.stays token)
    if idle then none
    else
      let start := min found.start found.stop
      some { Subtree.leaf (.token token) (min i start) start found.stop with
        scanned := some found.state }

def LexPlace.read (p : LexPlace) (g : Grammar) (source : Source) (lead : Nat) (m : Match) : Subtree :=
  let (token, keyword) := g.keywordAt source p.allowed m
  { Subtree.leaf (.token token) lead m.start m.stop with keyword }

/-- Text no token begins with, from the first character that fits none. -/
def skipUnknown (g : Grammar) (source : Source) (p : LexPlace) (valid : TokenSet) :
    Nat → Nat → Nat
  | 0, i => i
  | fuel + 1, i =>
    if i ≥ source.size then i
    else
      let next := i + 1
      if (p.scan g source valid true next).isSome || (g.lexAt source valid next).isSome then next
      else skipUnknown g source p valid fuel next

def LexPlace.allowedNext (p : LexPlace) (g : Grammar) (source : Source) (i : Nat) :
    Option Subtree :=
  if p.inError then none
  else match p.scan g source p.valid false i with
    | some t => some t
    | none => (g.lexAt source p.valid i).map (p.read g source i)

def LexPlace.anyNext (p : LexPlace) (g : Grammar) (source : Source) (all : TokenSet) (i : Nat) :
    Option Subtree :=
  match p.scan g source all true i with
  | some t => some t
  | none => (g.lexAt source all i).map (p.read g source i)

/-- The next token from `i` on. Where none fits, all tokens are tried, and the text between is
skipped. -/
def LexPlace.next (p : LexPlace) (g : Grammar) (source : Source) (all : TokenSet) (i : Nat) :
    Subtree :=
  match p.allowedNext g source i with
  | some t => t
  | none =>
    match p.anyNext g source all i with
    | some t => t
    | none =>
      let start := source.skipWhile g.separators.mem i
      let stop := skipUnknown g source p all (source.size - start) start
      Subtree.leaf .error i start stop

end CodeAtlas
