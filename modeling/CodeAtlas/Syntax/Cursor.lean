import CodeAtlas.Syntax.Tree

namespace CodeAtlas

namespace Tree

mutual

/-- All nodes of a tree, a node before its children. -/
def nodes : Tree → List Tree
  | ⟨kind, start, stop, fields, children⟩ =>
    ⟨kind, start, stop, fields, children⟩ :: nodesOfAll children

def nodesOfAll : List Tree → List Tree
  | [] => []
  | t :: rest => nodes t ++ nodesOfAll rest

end

theorem nodes_eq (t : Tree) : t.nodes = t :: nodesOfAll t.children := by
  cases t
  rfl

/-- A node on a walk, the siblings behind it, and the same of each node above it. Where the walk
begins there is nothing behind or above, so that no step leads out of the node it begins at. -/
structure Cursor where
  node : Tree
  behind : List Tree := []
  above : List (Tree × List Tree) := []

namespace Cursor

def firstChild? (c : Cursor) : Option Cursor :=
  match c.node.children with
  | [] => none
  | child :: rest => some ⟨child, rest, (c.node, c.behind) :: c.above⟩

def nextSibling? (c : Cursor) : Option Cursor :=
  match c.behind with
  | [] => none
  | sibling :: rest => some ⟨sibling, rest, c.above⟩

def parent? (c : Cursor) : Option Cursor :=
  match c.above with
  | [] => none
  | (node, behind) :: above => some ⟨node, behind, above⟩

/-- What the walk comes to once it is through with the node: the siblings behind it, and those
behind the nodes above. -/
def later (c : Cursor) : List Tree :=
  nodesOfAll c.behind ++ c.above.flatMap fun (_, behind) => nodesOfAll behind

theorem firstChild?_later {c child : Cursor} (moved : c.firstChild? = some child) :
    c.node.nodes ++ c.later = c.node :: (child.node.nodes ++ child.later) := by
  unfold firstChild? at moved
  split at moved
  · contradiction
  · rename_i t rest children
    cases moved
    simp [nodes_eq c.node, children, nodesOfAll, later]

theorem nodes_of_childless {c : Cursor} (stuck : c.firstChild? = none) : c.node.nodes = [c.node] := by
  unfold firstChild? at stuck
  split at stuck
  · rename_i children
    rw [nodes_eq, children, nodesOfAll]
  · contradiction

theorem nextSibling?_later {c sibling : Cursor} (moved : c.nextSibling? = some sibling) :
    c.later = sibling.node.nodes ++ sibling.later := by
  unfold nextSibling? at moved
  split at moved
  · contradiction
  · rename_i t rest behind
    cases moved
    simp [later, behind, nodesOfAll]

theorem parent?_above {c up : Cursor} (moved : c.parent? = some up) :
    c.above = (up.node, up.behind) :: up.above := by
  unfold parent? at moved
  split at moved
  · contradiction
  · rename_i above
    cases moved
    exact above

theorem behind_of_stuck {c : Cursor} (stuck : c.nextSibling? = none) : c.behind = [] := by
  unfold nextSibling? at stuck
  split at stuck
  · assumption
  · contradiction

theorem parent?_later {c up : Cursor} (stuck : c.nextSibling? = none) (moved : c.parent? = some up) :
    c.later = up.later := by
  simp [later, behind_of_stuck stuck, parent?_above moved, nodesOfAll]

theorem later_of_stuck {c : Cursor} (noSibling : c.nextSibling? = none) (noParent : c.parent? = none) :
    c.later = [] := by
  unfold parent? at noParent
  split at noParent
  · rename_i above
    simp [later, behind_of_stuck noSibling, above, nodesOfAll]
  · contradiction

end Cursor

end Tree

end CodeAtlas
