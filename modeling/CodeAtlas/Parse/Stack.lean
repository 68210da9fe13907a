import CodeAtlas.Parse.Subtree

namespace CodeAtlas

structure Link where
  node : Nat
  /-- None where an error begins. -/
  tree : Option Subtree

structure StackNode where
  state : Nat
  position : Nat
  links : Array Link
  cost : Nat
  count : Nat
  dynamic : Int

inductive HeadStatus where
  | active
  | paused (lookahead : Subtree)
  | halted

/-- A state passed on the way down from an error, and how many nodes lie above it. -/
structure SummaryEntry where
  position : Nat
  depth : Nat
  state : Nat

/-- The top of one reading. -/
structure Head where
  node : Nat
  scanned : ScanState
  countAtError : Nat
  status : HeadStatus
  summary : Option (Array SummaryEntry)

/-- Several readings at once: nodes are shared, and a node reached in two ways keeps a link for
each. -/
structure Stack where
  nodes : Array StackNode
  heads : Array Head

/-- The nodes popped on one way down, bottom first, and the head left there. -/
structure Slice where
  version : Nat
  trees : List Subtree

namespace Stack

def maxLinks : Nat := 8
def maxWays : Nat := 64

def empty : Stack where
  nodes := #[⟨Automaton.startState, 0, #[], 0, 0, 0⟩]
  heads := #[⟨0, [], 0, .active, none⟩]

def node (s : Stack) (n : Nat) : StackNode :=
  s.nodes.getD n ⟨0, 0, #[], 0, 0, 0⟩

def head (s : Stack) (v : Nat) : Head :=
  s.heads.getD v ⟨0, [], 0, .halted, none⟩

def top (s : Stack) (v : Nat) : StackNode :=
  s.node (s.head v).node

def state (s : Stack) (v : Nat) : Nat :=
  (s.top v).state

def position (s : Stack) (v : Nat) : Nat :=
  (s.top v).position

def isActive (s : Stack) (v : Nat) : Bool :=
  match (s.head v).status with | .active => true | _ => false

def isPaused (s : Stack) (v : Nat) : Bool :=
  match (s.head v).status with | .paused _ => true | _ => false

def isHalted (s : Stack) (v : Nat) : Bool :=
  match (s.head v).status with | .halted => true | _ => false

def setHead (s : Stack) (v : Nat) (f : Head → Head) : Stack :=
  { s with heads := s.heads.modify v f }

def halt (s : Stack) (v : Nat) : Stack :=
  s.setHead v ({ · with status := .halted })

def remove (s : Stack) (v : Nat) : Stack :=
  { s with heads := s.heads.eraseIdxIfInBounds v }

/-- Moves one reading to the place of another. -/
def renumber (s : Stack) (v w : Nat) : Stack :=
  if v == w then s
  else
    let source := s.head v
    let target := s.head w
    let summary := if source.summary.isNone then target.summary else source.summary
    (s.setHead w fun _ => { source with summary }).remove v

def swap (s : Stack) (v w : Nat) : Stack :=
  { s with heads := s.heads.swapIfInBounds v w }

def copyVersion (s : Stack) (v : Nat) : Nat × Stack :=
  (s.heads.size, { s with heads := s.heads.push { s.head v with summary := none } })

def push (g : Grammar) (s : Stack) (v : Nat) (tree : Option Subtree) (state : Nat) : Stack :=
  let head := s.head v
  let below := s.node head.node
  let new : StackNode := match tree with
    | some t =>
      { state, position := t.stop, links := #[⟨head.node, t⟩], cost := below.cost + t.cost
        count := below.count + t.nodeCount g, dynamic := below.dynamic + t.dynamic }
    | none => { below with state, links := #[⟨head.node, none⟩] }
  let id := s.nodes.size
  { nodes := s.nodes.push new
    heads := s.heads.modify v fun h =>
      { h with node := id, countAtError := if tree.isNone then new.count else h.countAtError } }

def sameTree (a b : Option Subtree) : Bool :=
  match a, b with
  | none, none => true
  | some a, some b =>
    a.symbol = b.symbol &&
      ((a.cost > 0 && b.cost > 0) ||
        (a.start - a.lead == b.start - b.lead && a.stop - a.start == b.stop - b.start &&
          a.children.length == b.children.length && a.extra == b.extra && a.scanned == b.scanned))
  | _, _ => false

def linkDynamic (s : Stack) (l : Link) : Int :=
  (s.node l.node).dynamic + (l.tree.elim 0 Subtree.dynamic)

def raiseDynamic (s : Stack) (n : Nat) (value : Int) : Stack :=
  { s with nodes := s.nodes.modify n fun m => { m with dynamic := max m.dynamic value } }

/-- Gives a node another way down. Two ways over equal trees are joined further down; `fuel` bounds
how far. -/
def addLink (g : Grammar) : Nat → Stack → Nat → Link → Stack
  | 0, s, _, _ => s
  | fuel + 1, s, n, link =>
    if link.node == n then s
    else
      let self := s.node n
      let other := s.node link.node
      let equal := self.links.toList.zipIdx.find? fun (old, _) =>
        sameTree old.tree link.tree &&
          (old.node == link.node ||
            ((s.node old.node).state == other.state &&
              (s.node old.node).position == other.position &&
              (s.node old.node).cost == other.cost))
      match equal with
      | some (old, i) =>
        if old.node == link.node then
          if (link.tree.elim 0 Subtree.dynamic) > (old.tree.elim 0 Subtree.dynamic) then
            { s with nodes := s.nodes.modify n fun m =>
                { m with links := m.links.set! i link, dynamic := s.linkDynamic link } }
          else s
        else
          let s := other.links.foldl (fun s l => addLink g fuel s old.node l) s
          s.raiseDynamic n (s.linkDynamic link)
      | none =>
        if self.links.size ≥ maxLinks then s
        else
          let count := other.count + link.tree.elim 0 (Subtree.nodeCount g)
          let dynamic := s.linkDynamic link
          { s with nodes := s.nodes.modify n fun m =>
              { m with
                links := m.links.push link
                count := max m.count count
                dynamic := max m.dynamic dynamic } }

def canMerge (s : Stack) (v w : Nat) : Bool :=
  let a := s.top v
  let b := s.top w
  s.isActive v && s.isActive w && a.state == b.state && a.position == b.position &&
    a.cost == b.cost && (s.head v).scanned == (s.head w).scanned

/-- Joins the second reading to the first, if they stand at the same place. -/
def merge? (g : Grammar) (s : Stack) (v w : Nat) : Option Stack :=
  if s.canMerge v w then
    let target := (s.head v).node
    let s := (s.top w).links.foldl (fun s l => addLink g 64 s target l) s
    let node := s.node target
    let s := if node.state == Automaton.errorState then
        s.setHead v ({ · with countAtError := node.count })
      else s
    some (s.remove w)
  else none

/-- One way down so far: the node reached, the trees passed and how many of them are no extras. -/
structure Way where
  node : Nat
  trees : List Subtree
  count : Nat

structure Visit where
  take : Bool
  stop : Bool

def Way.follow (w : Way) (l : Link) : Way :=
  match l.tree with
  | some t => ⟨l.node, t :: w.trees, if t.extra then w.count else w.count + 1⟩
  | none => ⟨l.node, w.trees, w.count + 1⟩

structure Walk (α : Type) where
  stack : Stack
  slices : Array Slice
  found : α

def addSlice (s : Stack) (v : Nat) (slices : Array Slice) (w : Way) : Stack × Array Slice :=
  let at? := (List.range slices.size).reverse.find? fun i =>
    (slices[i]?).any fun slice => (s.head slice.version).node == w.node
  match at? with
  | some i =>
    let version := (slices[i]?).elim 0 Slice.version
    (s, (slices.toList.take (i + 1) ++ ⟨version, w.trees⟩ :: slices.toList.drop (i + 1)).toArray)
  | none =>
    let from_ := s.head v
    let version := s.heads.size
    ({ s with heads := s.heads.push ⟨w.node, from_.scanned, from_.countAtError, .active, none⟩ },
      slices.push ⟨version, w.trees⟩)

/-- Visits one way, and goes on from it. -/
def visitWay {α : Type} (visit : α → StackNode → Way → Visit × α) (v : Nat)
    (acc : Walk α × List Way × List Way) (w : Way) : Walk α × List Way × List Way :=
  let (walk, kept, added) := acc
  let node := walk.stack.node w.node
  let (what, found) := visit walk.found node w
  let walk := { walk with found }
  let walk := if what.take then
      let (stack, slices) := addSlice walk.stack v walk.slices w
      { walk with stack, slices }
    else walk
  if what.stop || node.links.isEmpty then (walk, kept, added)
  else
    let first := (node.links[0]?).map w.follow
    let others := (node.links.toList.drop 1).map w.follow
    (walk, first.toList ++ kept, others.reverse ++ added)

/-- Goes down all ways at once, a link at a time. -/
def walkDown {α : Type} (visit : α → StackNode → Way → Visit × α) (v : Nat) :
    Nat → List Way → Walk α → Walk α
  | 0, _, walk => walk
  | _, [], walk => walk
  | fuel + 1, ways, walk =>
    let (walk, kept, added) := ways.foldl (visitWay visit v) (walk, [], [])
    walkDown visit v fuel ((kept.reverse ++ added.reverse).take maxWays) walk

def walkFrom {α : Type} (s : Stack) (v : Nat) (visit : α → StackNode → Way → Visit × α)
    (found : α) : Walk α :=
  walkDown visit v (s.nodes.size + 1) [⟨(s.head v).node, [], 0⟩] ⟨s, #[], found⟩

def popCount (s : Stack) (v count : Nat) : Array Slice × Stack :=
  let walk := s.walkFrom v (fun () _ w =>
    let done := w.count == count
    (⟨done, done⟩, ())) ()
  (walk.slices, walk.stack)

def popAll (s : Stack) (v : Nat) : Array Slice × Stack :=
  let walk := s.walkFrom v (fun () node _ => (⟨node.links.isEmpty, false⟩, ())) ()
  (walk.slices, walk.stack)

/-- Takes an error node off the top, if one is there. -/
def popError (s : Stack) (v : Nat) : List Subtree × Stack :=
  let onTop := (s.top v).links.any fun l => l.tree.any Subtree.isError
  if !onTop then ([], s)
  else
    let walk := s.walkFrom v (fun seen _ w =>
      match w.trees.getLast? with
      | none => (⟨false, false⟩, seen)
      | some t => if !seen && t.isError then (⟨true, true⟩, true) else (⟨false, true⟩, seen)) false
    match walk.slices[0]? with
    | some slice => (slice.trees, walk.stack.renumber slice.version v)
    | none => ([], s)

/-- Notes the states below an error, each at its least depth. -/
def summarize (s : Stack) (v maxDepth : Nat) : Stack :=
  let walk := s.walkFrom v (fun (summary : Array SummaryEntry) node w =>
    if w.count > maxDepth then (⟨false, true⟩, summary)
    else if summary.any fun e => e.depth == w.count && e.state == node.state then
      (⟨false, false⟩, summary)
    else (⟨false, false⟩, summary.push ⟨node.position, w.count, node.state⟩)) #[]
  s.setHead v ({ · with summary := some walk.found })

/-- What the reading has cost so far, an error just begun included. -/
def errorCost (s : Stack) (v : Nat) : Nat :=
  let top := s.top v
  let begun := top.state == Automaton.errorState && (top.links[0]?).any (·.tree.isNone)
  top.cost + (if s.isPaused v || begun then Subtree.costOfRecovery else 0)

def countSinceError (s : Stack) (v : Nat) : Nat :=
  (s.top v).count - (s.head v).countAtError

/-- Whether anything was read since the last error: text, or nodes without an error in them. -/
def advancedFrom (s : Stack) (countAtError : Nat) : Nat → Nat → Bool
  | 0, _ => false
  | fuel + 1, n =>
    let node := s.node n
    let link : Option Link := node.links[0]?
    match link with
    | some ⟨below, some t⟩ =>
      if t.stop > t.lead then true
      else if node.count > countAtError && t.cost == 0 then advancedFrom s countAtError fuel below
      else false
    | _ => false

def advancedSinceError (s : Stack) (v : Nat) : Bool :=
  let head := s.head v
  (s.top v).cost == 0 || s.advancedFrom head.countAtError (s.nodes.size + 1) head.node

end Stack

end CodeAtlas
