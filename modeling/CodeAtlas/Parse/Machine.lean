import CodeAtlas.Parse.Lex
import CodeAtlas.Parse.Stack

namespace CodeAtlas

/-- The grammar and the text of one parse. -/
structure ParseContext where
  grammar : Grammar
  source : Source

/-- All open readings of a text side by side, of which the cheapest is kept in the end. Where no
reading can go on, a missing token is supposed or text is skipped, at a price. -/
structure Machine where
  automaton : Automaton
  stack : Stack
  finished : Option Subtree
  accepted : Nat

abbrev ParseM := ReaderT ParseContext (StateM Machine)

namespace Machine

def maxVersions : Nat := 6
def maxOverflow : Nat := 4
def maxSummaryDepth : Nat := 16
def maxCostDifference : Nat := 18 * Subtree.costOfSkippedTree

def start (g : Grammar) : Machine :=
  ⟨.start g, .empty, none, 0⟩

def getStack : ParseM Stack := do return (← get).stack

def modifyStack (f : Stack → Stack) : ParseM Unit :=
  modify fun m => { m with stack := f m.stack }

def push (v : Nat) (tree : Option Subtree) (state : Nat) : ParseM Unit := do
  let g := (← read).grammar
  modifyStack fun s => s.push g v tree state

def merge (v w : Nat) : ParseM Bool := do
  let g := (← read).grammar
  modifyGet fun m =>
    match m.stack.merge? g v w with
    | some s => (true, { m with stack := s })
    | none => (false, m)

/-- Merges a reading into the first of the given ones at the same place. -/
def mergeInto : List Nat → Nat → ParseM Bool
  | [], _ => return false
  | j :: rest, v => do
    if ← merge j v then return true
    mergeInto rest v

def move (state : Nat) (symbol : Symbol) : ParseM (Option Nat) := do
  let g := (← read).grammar
  modifyGet fun m =>
    let (target, a) := m.automaton.move g state symbol
    (target, { m with automaton := a })

def beginExtra (token : Nat) : ParseM Nat := do
  let g := (← read).grammar
  modifyGet fun m =>
    let (target, a) := m.automaton.beginExtra g token
    (target, { m with automaton := a })

def actions (state token : Nat) : ParseM (List Action) := do
  return (← get).automaton.actions (← read).grammar state token

def actionsOrLenient (state token : Nat) : ParseM (List Action) := do
  return (← get).automaton.actionsOrLenient (← read).grammar state token

/-- Where a rule leads; a rule among the extras leads nowhere else. -/
def moveByRule (state rule : Nat) : ParseM Nat := do
  match ← move state (.rule rule) with
  | some target => return target
  | none => return if (← read).grammar.extraRules.contains rule then state else Automaton.errorState

/-- The state after a token, if it can be shifted. -/
def afterToken (state token : Nat) : ParseM (Option Nat) := do
  match (← actions state token).getLast? with
  | some (.shift _) => move state (.token token)
  | some .shiftExtra => return some state
  | some .startExtra => return some (← beginExtra token)
  | _ => return none

/-- Whether a token leaves a state as it is. -/
def stays (a : Automaton) (g : Grammar) (state token : Nat) : Bool :=
  match (a.actions g state token).getLast? with
  | some (.shift _) => (a.move g state (.token token)).1 == some state
  | some .shiftExtra => true
  | _ => false

def lex (v : Nat) : ParseM Subtree := do
  let ⟨g, source⟩ ← read
  let m ← get
  let state := m.stack.state v
  let place : LexPlace := {
    valid := (m.automaton.state state).valid
    inError := state == Automaton.errorState
    advanced := m.stack.advancedSinceError v
    stays := stays m.automaton g state
    allowed := fun token => !(m.automaton.actions g state token).isEmpty
    state := (m.stack.head v).scanned }
  let all := ((m.automaton.state Automaton.errorState).valid)
  return place.next g source all (m.stack.position v)

/-- Builds a node over the trees of each way down, and leaves one reading for each place reached. -/
def reduceSlices (v production : Nat) (closing : Bool) (count : Nat) :
    List Slice → Nat → ParseM Unit
  | [], _ => return
  | slice :: rest, removed => do
    let ⟨g, source⟩ ← read
    let version := slice.version - removed
    let same := rest.takeWhile (·.version == slice.version)
    let later := rest.drop same.length
    if version > maxVersions + maxOverflow + count then
      modifyStack (·.remove version)
      reduceSlices v production closing count later (removed + 1)
    else
      let position := (← getStack).position version
      let head := g.head production
      let build (children : List Subtree) : Subtree :=
        Subtree.node g source (.rule head) production position children
      let reading (trees : List Subtree) : Subtree × List Subtree :=
        (Subtree.splitTrailingExtras trees).map build id
      let (parent, extras) := same.foldl (fun best other =>
        let new := reading other.trees
        if Subtree.prefers best.1 new.1 then new else best) (reading slice.trees)
      let state := (← getStack).state version
      let target ← moveByRule state head
      let dynamic := ((g.productions[production]?).elim 0 Production.dynamic)
      let parent : Subtree := { parent with
        extra := closing && target == state, dynamic := parent.dynamic + dynamic }
      push version (some parent) target
      for t in extras do
        push version (some t) target
      let merged ← mergeInto ((List.range version).filter (· != v)) version
      reduceSlices v production closing count later (if merged then removed + 1 else removed)
termination_by slices => slices.length
decreasing_by all_goals (simp only [List.length_cons, List.length_drop]; omega)

/-- Reduces by a production; answers the first new reading. -/
def reduce (v production : Nat) (closing : Bool) : ParseM (Option Nat) := do
  let g := (← read).grammar
  let s ← getStack
  let before := s.heads.size
  let halted := (s.heads.filter fun h => match h.status with | .halted => true | _ => false).size
  let (slices, s) := s.popCount v (g.steps production).size
  modifyStack fun _ => s
  reduceSlices v production closing halted slices.toList 0
  return if (← getStack).heads.size > before then some before else none

/-- The state of the end of the text, on top of a whole reading. -/
def endState : Nat := Automaton.startState

/-- Puts the children of the last node that is no extra in its place; that node is the root. -/
def rootOf (g : Grammar) (source : Source) (trees : List Subtree) : Option Subtree :=
  let after := trees.reverse.takeWhile Subtree.extra
  match trees.reverse.drop after.length with
  | [] => none
  | t :: before =>
    let children := before.reverse ++ t.children ++ after.reverse
    some (Subtree.node g source t.symbol t.production 0 children)

def accept (v : Nat) (lookahead : Subtree) : ParseM Unit := do
  let ⟨g, source⟩ ← read
  push v lookahead endState
  let (slices, s) := (← getStack).popAll v
  modifyStack fun _ => s
  for slice in slices do
    match rootOf g source slice.trees with
    | none => pure ()
    | some root =>
      modify fun m =>
        let better := m.finished.all fun old => Subtree.prefers old root
        { m with accepted := m.accepted + 1
                 finished := if better then some root else m.finished }
  match slices[0]? with
  | some slice => modifyStack fun s => (s.remove slice.version).halt v
  | none => modifyStack (·.halt v)

structure VersionStatus where
  cost : Nat
  count : Nat
  dynamic : Int
  inError : Bool

def statusOf (s : Stack) (v : Nat) : VersionStatus :=
  let paused := s.isPaused v
  { cost := s.errorCost v + (if paused then Subtree.costOfSkippedTree else 0)
    count := s.countSinceError v
    dynamic := (s.top v).dynamic
    inError := paused || s.state v == Automaton.errorState }

inductive Preference where
  | takeLeft
  | preferLeft
  | none
  | preferRight
  | takeRight

def VersionStatus.compare (a b : VersionStatus) : Preference :=
  if !a.inError && b.inError then
    if a.cost < b.cost then .takeLeft else .preferLeft
  else if a.inError && !b.inError then
    if b.cost < a.cost then .takeRight else .preferRight
  else if a.cost < b.cost then
    if (b.cost - a.cost) * (1 + a.count) > maxCostDifference then .takeLeft else .preferLeft
  else if b.cost < a.cost then
    if (a.cost - b.cost) * (1 + b.count) > maxCostDifference then .takeRight else .preferRight
  else if a.dynamic > b.dynamic then .preferLeft
  else if b.dynamic > a.dynamic then .preferRight
  else .none

/-- Whether going on with a reading at this cost is pointless beside another. -/
def betterExists (m : Machine) (v : Nat) (inError : Bool) (cost : Nat) : Bool :=
  if m.finished.any (·.cost ≤ cost) then true
  else
    let s := m.stack
    let own : VersionStatus := ⟨cost, s.countSinceError v, (s.top v).dynamic, inError⟩
    (List.range s.heads.size).any fun i =>
      if i == v || !s.isActive i || s.position i < s.position v then false
      else match own.compare (statusOf s i) with
        | .takeRight => true
        | .preferRight => s.canMerge i v
        | _ => false

/-- Pops down to a state passed before the error, with what lies above inside an error node. -/
def recoverSlices (goal : Nat) : List Slice → Option Nat → ParseM (Option Nat)
  | [], previous => return previous
  | slice :: rest, previous => do
    if previous == some slice.version then recoverSlices goal rest previous
    else if (← getStack).state slice.version != goal then
      modifyStack (·.halt slice.version)
      recoverSlices goal rest previous
    else
      let ⟨g, source⟩ ← read
      let (errors, s) := (← getStack).popError slice.version
      modifyStack fun _ => s
      let older := errors.flatMap Subtree.children
      let (trees, extras) := Subtree.splitTrailingExtras (older ++ slice.trees)
      if !trees.isEmpty then
        push slice.version (Subtree.errorNode g source 0 trees true) goal
      for t in extras do
        push slice.version t goal
      recoverSlices goal rest (some slice.version)

def recoverToState (v depth goal : Nat) : ParseM Bool := do
  let (slices, s) := (← getStack).popCount v depth
  modifyStack fun _ => s
  return (← recoverSlices goal slices.toList none).isSome

/-- Looks below the error for a state in which the token is allowed. -/
def recoverBySummary (v : Nat) (lookahead : Subtree) (before : Nat) :
    List SummaryEntry → ParseM Bool
  | [] => return false
  | e :: rest => do
    let s ← getStack
    let source := (← read).source
    let position := s.position v
    let redundant := (List.range before).any fun j =>
      s.state j == e.state && s.position j == position
    if e.state == Automaton.errorState || e.position == position || redundant then
      recoverBySummary v lookahead before rest
    else
      let cost := s.errorCost v + e.depth * Subtree.costOfSkippedTree
        + (source.offset position - source.offset e.position) * Subtree.costOfSkippedChar
        + (source.row position - source.row e.position) * Subtree.costOfSkippedLine
      if betterExists (← get) v false cost then return false
      let token := match lookahead.symbol with | .token n => n | _ => 0
      let depth := if s.countSinceError v > 0 then e.depth + 1 else e.depth
      if !(← actions e.state token).isEmpty then
        if ← recoverToState v depth e.state then return true
      recoverBySummary v lookahead before rest

def removeInactive (start : Nat) : ParseM Unit :=
  modifyStack fun s =>
    let kept := s.heads.toList.drop start |>.filter fun h =>
      match h.status with | .active => true | _ => false
    { s with heads := (s.heads.toList.take start ++ kept).toArray }

/-- One step of an error: back to an older state, or on past the token, or both. -/
def recover (v : Nat) (lookahead : Subtree) : ParseM Unit := do
  let ⟨g, source⟩ ← read
  let s ← getStack
  let before := s.heads.size
  let count := s.countSinceError v
  let current := s.errorCost v
  let entries := ((s.head v).summary.getD #[]).toList
  let recovered ← if lookahead.isError then pure false
    else recoverBySummary v lookahead before entries
  removeInactive before
  let atEnd := lookahead.symbol = .token Grammar.endToken
  if atEnd then
    let position := (← getStack).position v
    push v (Subtree.errorNode g source position [] false) endState
    accept v lookahead
    return
  if recovered && (← getStack).heads.size > maxVersions then
    modifyStack (·.halt v)
    return
  if recovered && lookahead.scanned.any (· ≠ (s.head v).scanned) then
    modifyStack (·.halt v)
    return
  let cost := current + Subtree.costOfSkippedTree
    + (source.offset lookahead.stop - source.offset lookahead.lead) * Subtree.costOfSkippedChar
    + (source.row lookahead.stop - source.row lookahead.lead) * Subtree.costOfSkippedLine
  if betterExists (← get) v false cost then
    modifyStack (·.halt v)
    return
  let token := match lookahead.symbol with | .token n => some n | _ => none
  let lookahead := if token.any g.extraTokens.has then { lookahead with extra := true } else lookahead
  let one := Subtree.node g source .skipped 0 0 [lookahead]
  let whole ← if count > 0 then do
      let (slices, s) := (← getStack).popCount v 1
      modifyStack fun _ => s
      match slices[0]? with
      | none => pure one
      | some slice =>
        modifyStack fun s =>
          let s := { s with heads := s.heads.extract 0 (slice.version + 1) }
          s.renumber slice.version v
        pure (Subtree.node g source .skipped 0 0 (slice.trees ++ [one]))
    else pure one
  push v whole Automaton.errorState
  match lookahead.scanned with
  | some state => modifyStack fun s => s.setHead v ({ · with scanned := state })
  | none => pure ()

/-- The reductions a state has on some of the tokens, and whether it can shift one of them. -/
def openActions (state : Nat) (tokens : List Nat) : ParseM (List Nat × Bool) := do
  let g := (← read).grammar
  let a := (← get).automaton
  let key (p : Nat) : Nat × Nat := (g.head p, (g.steps p).size)
  return tokens.foldl (fun (acc : List Nat × Bool) token =>
    (a.actionsOrLenient g state token).foldl (fun (rs, canShift) action =>
      match action with
      | .shift false | .startExtra | .recover => (rs, true)
      | .reduce p =>
        if (g.steps p).size > 0 && !(rs.any fun q => key q == key p) then (rs ++ [p], canShift)
        else (rs, canShift)
      | _ => (rs, canShift)) acc) ([], false)

def reduceEach (v : Nat) : List Nat → Option Nat → ParseM (Option Nat)
  | [], last => return last
  | p :: rest, _ => do
    let last ← reduce v p false
    reduceEach v rest last

/-- Reduces in every way open on a token, or on any token if none is given; tells whether the token
can then be shifted. -/
def reduceAll (first : Nat) (token : Option Nat) (tokens : List Nat) (before : Nat) :
    Nat → Nat → Nat → Bool → ParseM Bool
  | 0, _, _, canShift => return canShift
  | fuel + 1, v, round, canShift => do
    let size := (← getStack).heads.size
    if v ≥ size then return canShift
    let merged ← mergeInto ((List.range v).filter (· ≥ before)) v
    if merged then reduceAll first token tokens before fuel v (round + 1) canShift
    else
      let state := (← getStack).state v
      let (reductions, shifts) ← openActions state tokens
      let last ← reduceEach v reductions none
      let next := if v == first then size else v + 1
      if shifts then reduceAll first token tokens before fuel next (round + 1) true
      else match last with
        | some w =>
          if round < maxVersions then
            modifyStack (·.renumber w v)
            reduceAll first token tokens before fuel v (round + 1) canShift
          else
            if token.isSome then modifyStack (·.remove v)
            reduceAll first token tokens before fuel next (round + 1) canShift
        | none =>
          if token.isSome then modifyStack (·.remove v)
          reduceAll first token tokens before fuel next (round + 1) canShift

def doAllReductions (first : Nat) (token : Option Nat) : ParseM Bool := do
  let g := (← read).grammar
  let tokens := match token with
    | some n => [n]
    | none => (List.range g.tokens.size).drop 1
  let before := (← getStack).heads.size
  reduceAll first token tokens before 256 first 0 false

/-- Supposes one missing token before the look-ahead, where that leads on. -/
def insertMissing (v : Nat) (lookahead : Subtree) : List Nat → ParseM Bool
  | [] => return false
  | n :: rest => do
    let s ← getStack
    let state := s.state v
    match ← afterToken state n with
    | none => insertMissing v lookahead rest
    | some target =>
      let token := match lookahead.symbol with | .token n => some n | _ => none
      let reduces ← match token with
        | none => pure false
        | some t => do
          match (← actionsOrLenient target t).head? with
          | some (.reduce _) => pure true
          | _ => pure false
      if target == state || !reduces then insertMissing v lookahead rest
      else
        let version ← modifyGet fun m =>
          let (w, s) := m.stack.copyVersion v
          (w, { m with stack := s })
        push version (Subtree.missingLeaf n (s.position v)) target
        if ← doAllReductions version token then return true
        insertMissing v lookahead rest

def errorVersions (v before count : Nat) (lookahead : Subtree) :
    Nat → Nat → Bool → ParseM Unit
  | 0, _, _ => return
  | fuel + 1, w, inserted => do
    if w ≥ count then return
    let g := (← read).grammar
    let inserted ← if inserted then pure true
      else insertMissing w lookahead ((List.range g.tokens.size).drop 1)
    push w none Automaton.errorState
    errorVersions v before count lookahead fuel (if w == v then before else w + 1) inserted

def handleError (v : Nat) (lookahead : Subtree) : ParseM Unit := do
  let before := (← getStack).heads.size
  let _ ← doAllReductions v none
  let count := (← getStack).heads.size
  errorVersions v before count lookahead (count + 2) v false
  for _ in [before:count] do
    let _ ← merge v before
  modifyStack (·.summarize v maxSummaryDepth)
  recover v lookahead

def pause (v : Nat) (lookahead : Subtree) : ParseM Unit :=
  modifyStack fun s => s.setHead v fun h =>
    { h with status := .paused lookahead, countAtError := (s.top v).count }

def shift (v : Nat) (tree : Subtree) (state : Nat) (extra : Bool) : ParseM Unit := do
  push v (some { tree with extra := extra || tree.extra }) state
  match tree.scanned with
  | some kept => modifyStack fun s => s.setHead v ({ · with scanned := kept })
  | none => pure ()

/-- Tries the actions in turn: reductions make new readings, a shift ends the step. Answers the last
reading a reduction made, whether there was any reduction, and whether the step is over. -/
def tryActions (v : Nat) (lookahead : Subtree) (token : Nat) :
    List Action → Option Nat → Bool → ParseM (Option Nat × Bool × Bool)
  | [], last, reduced => return (last, reduced, false)
  | action :: rest, last, reduced => do
    let state := (← getStack).state v
    match action with
    | .shift true => tryActions v lookahead token rest last reduced
    | .shift false =>
      let target ← move state (.token token)
      shift v lookahead (target.getD Automaton.errorState) false
      return (last, reduced, true)
    | .shiftExtra =>
      shift v lookahead state true
      return (last, reduced, true)
    | .startExtra =>
      let target ← beginExtra token
      shift v lookahead target false
      return (last, reduced, true)
    | .accept =>
      accept v lookahead
      return (last, reduced, true)
    | .recover =>
      recover v lookahead
      return (last, reduced, true)
    | .reduce p =>
      let made ← reduce v p false
      tryActions v lookahead token rest (made <|> last) true

/-- Completes a rule among the extras. -/
def closeExtra (v : Nat) : ParseM Bool := do
  let g := (← read).grammar
  let m ← get
  let state := m.automaton.state (m.stack.state v)
  match (state.actions g g.endOfExtra).head? with
  | some (.reduce p) =>
    match ← reduce v p true with
    | some w =>
      modifyStack (·.renumber w v)
      return true
    | none =>
      modifyStack (·.halt v)
      return false
  | _ => return false

/-- A step of one reading: as many reductions as the look-ahead asks for, then a shift. -/
def advance (v : Nat) : Nat → Option Subtree → ParseM Unit
  | 0, _ => modifyStack (·.halt v)
  | fuel + 1, lookahead? => do
    let g := (← read).grammar
    let m ← get
    let closes := (m.automaton.state (m.stack.state v)).closesExtra
    if lookahead?.isNone && closes then
      if ← closeExtra v then advance v fuel none
    else
      let lookahead ← match lookahead? with
        | some t => pure t
        | none => lex v
      match lookahead.symbol with
      | .token token =>
        let state := (← getStack).state v
        let acts ← actions state token
        let (last, reduced, finished) ← tryActions v lookahead token acts none false
        if finished then return
        match last with
        | some w =>
          modifyStack (·.renumber w v)
          advance v fuel (some lookahead)
        | none =>
          if reduced then modifyStack (·.halt v)
          else
            let asWord := match g.word with
              | some word => if lookahead.keyword && token != word then some word else none
              | none => none
            match asWord with
            | some word =>
              if (← actions state word).isEmpty then pause v lookahead
              else advance v fuel (some { lookahead with symbol := .token word })
            | none =>
              let (last, _, _) ← tryActions v lookahead token (← actionsOrLenient state token)
                none false
              match last with
              | some w =>
                modifyStack (·.renumber w v)
                advance v fuel (some lookahead)
              | none => pause v lookahead
      | _ =>
        if (← getStack).state v == Automaton.errorState then recover v lookahead
        else pause v lookahead

/-- Compares a reading, as it stood at first, with those before it. -/
def condenseWith (status : VersionStatus) : Nat → Nat → Nat → ParseM Nat
  | 0, i, _ => return i
  | fuel + 1, i, j => do
    if j ≥ i then return i
    else
      match (statusOf (← getStack) j).compare status with
      | .takeLeft =>
        modifyStack (·.remove i)
        return i - 1
      | .preferLeft | .none =>
        if ← merge j i then return i - 1
        condenseWith status fuel i (j + 1)
      | .preferRight =>
        if ← merge j i then return i - 1
        modifyStack (·.swap i j)
        condenseWith status fuel i (j + 1)
      | .takeRight =>
        modifyStack (·.remove j)
        condenseWith status fuel (i - 1) j

def condenseAll : Nat → Nat → Option Nat → ParseM (Option Nat)
  | 0, _, least => return least
  | fuel + 1, i, least => do
    let s ← getStack
    if i ≥ s.heads.size then return least
    if s.isHalted i then
      modifyStack (·.remove i)
      condenseAll fuel i least
    else
      let status := statusOf s i
      let least := if !status.inError && least.all (status.cost < ·) then some status.cost else least
      let size := s.heads.size
      let i ← condenseWith status (size * size + 1) i 0
      condenseAll fuel (i + 1) least

/-- Resumes the best paused reading if no other is ahead of it, and drops the rest. -/
def resumeBest : Nat → Nat → Bool → Option Nat → ParseM (Option Nat)
  | 0, _, _, least => return least
  | n + 1, i, unpaused, least => do
    let m ← get
    if i ≥ m.stack.heads.size then return least
    match (m.stack.head i).status with
    | .paused lookahead =>
      if !unpaused && m.accepted < maxVersions then
        let cost := m.stack.errorCost i
        modifyStack fun s => s.setHead i ({ · with status := .active })
        handleError i lookahead
        resumeBest n (i + 1) true (some cost)
      else
        modifyStack (·.remove i)
        resumeBest n i unpaused least
    | _ => resumeBest n (i + 1) true least

/-- A node count that fell since the last error starts anew. -/
def settleCounts : ParseM Unit :=
  modifyStack fun s =>
    { s with heads := s.heads.map fun h =>
        { h with countAtError := min h.countAtError (s.node h.node).count } }

/-- Orders the readings by promise and drops the hopeless; answers the least cost of those left. -/
def condense : ParseM (Option Nat) := do
  settleCounts
  let size := (← getStack).heads.size
  let least ← condenseAll (4 * size + 4) 0 none
  modifyStack fun s => { s with heads := s.heads.extract 0 maxVersions }
  let size := (← getStack).heads.size
  resumeBest size 0 false least

/-- Advances one reading until it has gone past the others. -/
def advanceWhile (v : Nat) (steps : Nat) : Nat → Nat → ParseM Nat
  | 0, last => return last
  | fuel + 1, last => do
    if !(← getStack).isActive v then return last
    advance v steps none
    let position := (← getStack).position v
    if position > last || (v > 0 && position == last) then return position
    advanceWhile v steps fuel last

def round (steps : Nat) : Nat → Nat → Nat → ParseM Nat
  | 0, _, last => return last
  | fuel + 1, v, last => do
    if v ≥ (← getStack).heads.size then return last
    let last ← advanceWhile v steps steps last
    round steps fuel (v + 1) last

def run (steps : Nat) : Nat → Nat → ParseM Unit
  | 0, _ => return
  | fuel + 1, last => do
    let last ← round steps 64 0 last
    let least ← condense
    let m ← get
    if m.stack.heads.isEmpty then return
    if m.finished.any fun t => least.all (t.cost < ·) then return
    run steps fuel last

end Machine

/-- The finished tree of a text; none only if the parser gives up. -/
def Grammar.parse (g : Grammar) (source : Source) : Option Subtree :=
  let n := source.size
  (((Machine.run (1000 + 20 * n) (1000 + 20 * n) 0).run ⟨g, source⟩).run (.start g)).2.finished

end CodeAtlas
