import CodeAtlas.Grammar.Basic

namespace CodeAtlas

namespace Definition

/-- Every different lexeme in order of appearance, with its number of uses. -/
abbrev Lexemes := Array (Lexeme × Nat)

def Lexemes.note (ls : Lexemes) (l : Lexeme) : Lexemes :=
  match ls.findIdx? (·.1 = l) with
  | some i => ls.modify i fun (l, n) => (l, n + 1)
  | none => ls.push (l, 1)

def Lexemes.ofRule (ls : Lexemes) : Rule → Lexemes
  | .lexeme l => ls.note l
  | .blank | .ref _ => ls
  | .seq a b | .alt a b => ofRule (ofRule ls a) b
  | .many a | .field _ a | .rename _ a | .prec _ _ a | .dynamic _ a => ofRule ls a

def lexemes (d : Definition) : Lexemes :=
  d.rules.foldl (fun ls (_, rule) => ls.ofRule rule) #[]

/-- The lexeme of a rule that is one token, used nowhere else: the rule names the token. -/
def ownLexeme (ls : Lexemes) : Rule → Option Lexeme
  | .lexeme l => if ls.any fun (m, n) => m = l && n == 1 then some l else none
  | _ => none

def hidden (name : String) : Bool :=
  name.startsWith "_"

/-- Names by lexeme, for the rules that are tokens. -/
def tokenNames (d : Definition) (ls : Lexemes) : List (Lexeme × String) :=
  d.rules.tail.filterMap fun (name, rule) => (ownLexeme ls rule).map (·, name)

def tokenOf (names : List (Lexeme × String)) (l : Lexeme) : Token :=
  match names.find? (·.1 = l) with
  | some (_, name) => ⟨name, true, !hidden name, l, false, false⟩
  | none =>
    match l.body with
    | .literal text => ⟨text, false, true, l, false, false⟩
    | .pattern _ => ⟨"", false, false, l, false, false⟩

/-- The tokens: the end of the text, the word, the other lexemes, and those only the scanner finds. -/
def tokens (d : Definition) (ls : Lexemes) : Array Token :=
  let names := d.tokenNames ls
  let own := ls.toList.map fun (l, _) => tokenOf names l
  let isWord (t : Token) : Bool := t.named && some t.name == d.word
  let word := own.filter isWord
  let rest := own.filter (!isWord ·)
  let known (e : External) : Bool :=
    match e with
    | .name name => own.any fun t => t.named && t.name == name
    | .text text => own.any fun t => !t.named && t.name == text
  let scanned := (d.externals.filter (!known ·)).map fun
    | .name name => (⟨name, true, !hidden name, none, false, false⟩ : Token)
    | .text text => ⟨text, false, true, none, false, false⟩
  (⟨"end", false, false, none, false, false⟩ :: word ++ rest ++ scanned).toArray

/-- Marks the literals that the word pattern accepts, and the patterns that accept a literal. -/
def classify (word : Option Pattern) (ts : Array Token) : Array Token :=
  let literals := ts.toList.filterMap fun t =>
    match t.lexeme with
    | some ⟨.literal text, false, _⟩ => some text.toList
    | _ => none
  let isKeyword (text : String) : Bool := word.any (·.accepts text.toList)
  let marks := literals.filter fun cs => !isKeyword (String.ofList cs)
  ts.map fun t =>
    match t.lexeme with
    | some ⟨.literal text, false, _⟩ => { t with keyword := isKeyword text }
    | some ⟨.pattern p, _, _⟩ =>
      { t with broad := some p ≠ word && marks.any p.accepts }
    | _ => t

/-- Repetitions met so far, with the names of their rules. -/
structure Repeats where
  known : List (Rule × String) := []
  rules : List (String × Rule) := []
  count : Nat := 0

def pairUp (name : String) (content : Rule) : Rule :=
  .alt (.seq (.ref name) (.ref name)) content

def Repeats.expand (owner : String) : Rule → Repeats → Rule × Repeats
  | .many a, s =>
    let (content, s) := expand owner a s
    match s.known.find? (·.1 = content) with
    | some (_, name) => (.ref name, s)
    | none =>
      let name := owner ++ "_repeat" ++ Nat.repr (s.count + 1)
      (.ref name, ⟨(content, name) :: s.known, (name, pairUp name content) :: s.rules, s.count + 1⟩)
  | .seq a b, s =>
    let (a, s) := expand owner a s
    let (b, s) := expand owner b s
    (.seq a b, s)
  | .alt a b, s =>
    let (a, s) := expand owner a s
    let (b, s) := expand owner b s
    (.alt a b, s)
  | .field n a, s => (expand owner a s).map (.field n) id
  | .rename r a, s => (expand owner a s).map (.rename r) id
  | .prec l side a, s => (expand owner a s).map (.prec l side) id
  | .dynamic n a, s => (expand owner a s).map (.dynamic n) id
  | r, s => (r, s)

/-- The rule without repetitions; a hidden rule that is one repetition is paired up itself. -/
def Repeats.expandRule (name : String) (rule : Rule) (s : Repeats) : (Rule × Bool) × Repeats :=
  match rule with
  | .many content =>
    if hidden name then
      let (content, s) := expand name content { s with count := 0 }
      ((pairUp name content, true), s)
    else
      let (rule, s) := expand name rule { s with count := 0 }
      ((rule, false), s)
  | rule =>
    let (rule, s) := expand name rule { s with count := 0 }
    ((rule, false), s)

/-- A rule of the syntax, free of repetitions. -/
structure Flat where
  name : String
  rule : Rule
  auxiliary : Bool

def flatRules (d : Definition) (ls : Lexemes) : List Flat :=
  let isToken (rule : Rule) : Bool := (ownLexeme ls rule).isSome
  let syntaxRules := d.rules.zipIdx.filterMap fun (entry, i) =>
    if i > 0 && isToken entry.2 then none else some entry
  let (flats, s) := syntaxRules.foldl (fun (acc, s) (name, rule) =>
    let ((rule, auxiliary), s) := Repeats.expandRule name rule s
    (Flat.mk name rule auxiliary :: acc, s)) ([], { : Repeats })
  flats.reverse ++ s.rules.reverse.map fun (name, rule) => ⟨name, rule, true⟩

/-- Choices pulled to the front. -/
def alternatives : Rule → List Rule
  | .alt a b => alternatives a ++ alternatives b
  | .seq a b =>
    let bs := alternatives b
    (alternatives a).flatMap fun a => bs.map (.seq a)
  | .field n a => (alternatives a).map (.field n)
  | .rename r a => (alternatives a).map (.rename r)
  | .prec l side a => (alternatives a).map (.prec l side)
  | .dynamic n a => (alternatives a).map (.dynamic n)
  | r => [r]

structure Names where
  lexemes : List (Lexeme × Nat)
  tokens : Std.HashMap String Nat
  rules : Std.HashMap String Nat

def Names.symbol (names : Names) (name : String) : Symbol :=
  match names.rules[name]? with
  | some n => .rule n
  | none => (names.tokens[name]?).elim .error .token

def Names.lexeme (names : Names) (l : Lexeme) : Symbol :=
  (names.lexemes.find? (·.1 = l)).elim .error fun (_, n) => .token n

/-- What the rules around a step give it. -/
structure Setting where
  level : Precedence := .none
  side : Option Associativity := none
  renamed : Option Alias := none
  field : Option String := none

/-- The last step of a part that others follow falls back to the setting around the part. -/
def settle (outer : Setting) (atEnd : Bool) (steps : List Step) : List Step :=
  if atEnd then steps
  else match steps.reverse with
    | [] => []
    | last :: before => ({ last with level := outer.level, side := outer.side } :: before).reverse

def flatten (names : Names) : Setting → Bool → Rule → List Step
  | s, _, .lexeme l => [⟨names.lexeme l, s.level, s.side, s.renamed, s.field⟩]
  | s, _, .ref name => [⟨names.symbol name, s.level, s.side, s.renamed, s.field⟩]
  | s, atEnd, .seq a b => flatten names s false a ++ flatten names s atEnd b
  | s, atEnd, .field n a => flatten names { s with field := some n } atEnd a
  | s, atEnd, .rename r a => flatten names { s with renamed := some r } atEnd a
  | s, atEnd, .prec l side a =>
    settle s atEnd (flatten names { s with level := l, side := side <|> s.side } atEnd a)
  | s, atEnd, .dynamic _ a => flatten names s atEnd a
  | _, _, _ => []

/-- The dynamic precedence farthest from zero. -/
def dynamicOf : Rule → Int
  | .seq a b =>
    let m := dynamicOf a
    let n := dynamicOf b
    if n.natAbs > m.natAbs then n else m
  | .dynamic n a =>
    let m := dynamicOf a
    if m.natAbs > n.natAbs then m else n
  | .field _ a | .rename _ a | .prec _ _ a => dynamicOf a
  | _ => 0

def productionsOf (names : Names) (head : Nat) (rule : Rule) : List Production :=
  ((alternatives rule).map fun a =>
    (⟨head, (flatten names {} true a).toArray, dynamicOf a⟩ : Production)).eraseDups

/-- One production put in the place of a step: the step's alias and field go to all its steps, its
precedence to the last one if that has none. -/
def splice (p : Production) (i : Nat) (removed : Step) (inner : Production) : Production :=
  let give (last : Bool) (s : Step) : Step :=
    { s with
      renamed := removed.renamed <|> s.renamed
      field := removed.field <|> s.field
      level := if last && s.level = .none then removed.level else s.level
      side := if last then s.side <|> removed.side else s.side }
  let n := inner.steps.size
  let given := inner.steps.mapIdx fun j s => give (j + 1 == n) s
  { p with
    steps := p.steps.extract 0 i ++ given ++ p.steps.extract (i + 1) p.steps.size
    dynamic := if inner.dynamic.natAbs > p.dynamic.natAbs then inner.dynamic else p.dynamic }

/-- Puts inlined rules in place, as often as `fuel` allows. -/
def inlineAll (inlined : Nat → Option (List Production)) : Nat → Production → List Production
  | 0, p => [p]
  | fuel + 1, p =>
    let place := p.steps.toList.zipIdx.findSome? fun (step, i) =>
      match step.symbol with
      | .rule n => (inlined n).map (i, step, ·)
      | _ => none
    match place with
    | none => [p]
    | some (i, step, inner) => inner.flatMap fun q => inlineAll inlined fuel (splice p i step q)

end Definition

namespace Grammar

def firstRound (ps : Array Production) (firsts : Array TokenSet) : Array TokenSet :=
  ps.foldl (fun acc p =>
    match p.steps[0]? with
    | some step =>
      let more := match step.symbol with
        | .token n => TokenSet.single n
        | .rule n => acc.getD n .empty
        | _ => .empty
      acc.modify p.head (·.union more)
    | none => acc) firsts

def firstSets (ps : Array Production) : Nat → Array TokenSet → Array TokenSet
  | 0, firsts => firsts
  | fuel + 1, firsts =>
    let next := firstRound ps firsts
    if next == firsts then firsts else firstSets ps fuel next

def followsInStep (firsts : Array TokenSet) (p : Production) (acc : Array TokenSet) (i : Nat) :
    Array TokenSet :=
  match p.steps[i]?.map Step.symbol with
  | some (.rule n) =>
    let more := match p.steps[i + 1]?.map Step.symbol with
      | some (.token t) => TokenSet.single t
      | some (.rule m) => firsts.getD m .empty
      | some _ => .empty
      | none => acc.getD p.head .empty
    acc.modify n (·.union more)
  | _ => acc

def followSets (firsts : Array TokenSet) (ps : Array Production) :
    Nat → Array TokenSet → Array TokenSet
  | 0, follows => follows
  | fuel + 1, follows =>
    let next := ps.foldl (fun acc p =>
      (List.range p.steps.size).foldl (followsInStep firsts p) acc) follows
    if next == follows then follows else followSets firsts ps fuel next

def addCorner (cs : Array Corner) (c : Corner) : Array Corner :=
  match cs.findIdx? (·.rule == c.rule) with
  | some i => cs.modify i fun d => ⟨d.rule, d.follow.union c.follow, d.last || c.last⟩
  | none => cs.push c

def cornersOf (firsts : Array TokenSet) (rules : Nat) (ps : Array Production) :
    Array (Array Corner) :=
  let first : Symbol → TokenSet
    | .token n => .single n
    | .rule n => firsts.getD n .empty
    | _ => .empty
  ps.foldl (fun acc p =>
    match p.steps[0]?.map Step.symbol with
    | some (Symbol.rule n) =>
      let corner : Corner := match p.steps[1]? with
        | some next => ⟨n, first next.symbol, false⟩
        | none => ⟨n, .empty, true⟩
      acc.modify p.head (addCorner · corner)
    | _ => acc) (Array.replicate rules #[])

def startsBy (count : Nat) (pick : Symbol → Option Nat) (ps : Array Production) :
    Array (Array Nat) :=
  ps.zipIdx.foldl (fun acc (p, i) =>
    match p.steps[0]?.bind (pick ·.symbol) with
    | some n => acc.modify n (·.push i)
    | none => acc) (Array.replicate count #[])

/-- What still tells a production apart from others of its rule after `dot` steps: the steps to
come, the last precedence, and of the steps done only what they give to the tree. -/
structure Outlook where
  head : Nat
  dynamic : Int
  level : Precedence
  side : Option Associativity
  done : List (Option Symbol × Option Alias × Option String)
  steps : List Step
deriving DecidableEq, Hashable

/-- Fields inside a hidden rule belong to the node around it, so there the rule itself counts. -/
def outlook (fielded : Nat → Bool) (p : Production) (dot : Nat) : Outlook :=
  let before := (p.steps.extract 0 dot).toList
  let keeps := before.any fun s =>
    match s.symbol with
    | .rule n => fielded n
    | _ => false
  let last := before.getLast?
  { head := p.head, dynamic := p.dynamic
    level := (last.map Step.level).getD .none
    side := last.bind Step.side
    done := before.map fun s => (if keeps then some s.symbol else none, s.renamed, s.field)
    steps := (p.steps.extract dot p.steps.size).toList }

/-- The rules that hold fields, by themselves or through hidden rules in them. -/
def fieldedRules (hidden : Nat → Bool) (ps : Array Production) : Nat → Array Bool → Array Bool
  | 0, fielded => fielded
  | fuel + 1, fielded =>
    let next := ps.foldl (fun acc p =>
      let has := p.steps.any fun s =>
        s.field.isSome || match s.symbol with
          | .rule n => hidden n && acc.getD n false
          | _ => false
      if has then acc.set! p.head true else acc) fielded
    if next == fielded then fielded else fieldedRules hidden ps fuel next

def alikeOf (fielded : Nat → Bool) (ps : Array Production) : Array (Array Nat) :=
  let table := ps.zipIdx.foldl (fun (m : Std.HashMap Outlook Nat) (p, i) =>
    (List.range (p.steps.size + 1)).foldl (fun m dot =>
      m.insertIfNew (outlook fielded p dot) i) m) ∅
  ps.zipIdx.map fun (p, i) =>
    ((List.range (p.steps.size + 1)).map fun dot =>
      table.getD (outlook fielded p dot) i).toArray

end Grammar

/-- Tokens are collected and numbered, repetitions become rules of their own, choices become
separate productions, and inlined rules are put in their places. -/
def Definition.compile (d : Definition) : Grammar :=
  let ls := d.lexemes
  let wordPattern := d.word.bind fun w =>
    (d.rules.find? (·.1 == w)).bind fun (_, rule) =>
      match rule with
      | .lexeme ⟨.pattern p, _, _⟩ => some p
      | _ => none
  let tokens := Definition.classify wordPattern (d.tokens ls)
  let flats := d.flatRules ls
  let tokenIndex := tokens.zipIdx.toList
  let names : Definition.Names := {
    lexemes := tokenIndex.filterMap fun (t, i) => t.lexeme.map (·, i)
    tokens := tokenIndex.foldl (fun m (t, i) => if t.named then m.insert t.name i else m) ∅
    rules := flats.zipIdx.foldl (fun m (f, i) => m.insert f.name i) ∅ }
  let whole := flats.length
  let raw := flats.zipIdx.map fun (f, i) => (i, Definition.productionsOf names i f.rule)
  let inlinedRules := d.inlined.filterMap (names.rules[·]?)
  let inlined (n : Nat) : Option (List Production) :=
    if inlinedRules.contains n then (raw.find? (·.1 == n)).map (·.2) else none
  let kept := raw.flatMap fun (i, ps) =>
    if inlinedRules.contains i then []
    else (ps.flatMap (Definition.inlineAll inlined 16)).eraseDups
  let start : Production := ⟨whole, #[⟨.rule 0, .none, none, none, none⟩], 0⟩
  let productions := (start :: kept).toArray
  let firsts := Grammar.firstSets productions (whole + 2) (Array.replicate (whole + 1) .empty)
  let external : External → Option Nat
    | .name name => names.tokens[name]?
    | .text text => tokens.findIdx? fun t => !t.named && t.name == text
  let externals := (d.externals.filterMap external).toArray
  let extraRules := d.extras.filterMap (names.rules[·]?)
  let rules : Array RuleInfo := (flats.map fun f =>
    ⟨f.name, !Definition.hidden f.name && !d.supertypes.contains f.name && !f.auxiliary,
      f.auxiliary⟩).toArray.push ⟨"", false, false⟩
  let hidden (n : Nat) : Bool := (rules[n]?).any (!·.visible)
  let fielded := Grammar.fieldedRules hidden productions (whole + 2) (Array.replicate (whole + 1) false)
  let unknown := Array.replicate (whole + 1) TokenSet.empty
  { tokens, rules, productions, firsts
    follows := Thunk.mk fun () => Grammar.followSets firsts productions (whole + 2)
      (unknown.set! whole (.single Grammar.endToken))
    corners := Grammar.cornersOf firsts (whole + 1) productions
    byToken := Grammar.startsBy tokens.size (fun | .token n => some n | _ => none) productions
    byRule := Grammar.startsBy (whole + 1) (fun | .rule n => some n | _ => none) productions
    alike := Grammar.alikeOf (fun n => hidden n && fielded.getD n false) productions
    separators := d.separators
    extraTokens := (d.extras.filterMap (names.tokens[·]?)).foldl
      (fun s n => s.union (.single n)) .empty
    extraRules
    extraStarts := extraRules.foldl (fun s n => s.union (firsts.getD n .empty)) .empty
    word := d.word.bind (names.tokens[·]?)
    keywords := tokenIndex.foldl (fun m (t, i) =>
      match t.lexeme with
      | some ⟨.literal text, _, _⟩ => if t.keyword then m.insert text i else m
      | _ => m) ∅
    externals
    externalTokens := externals.foldl (fun s n => s.union (.single n)) .empty
    ranks := d.ranks
    scanner := d.scanner }

end CodeAtlas
