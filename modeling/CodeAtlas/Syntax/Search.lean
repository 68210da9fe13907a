import CodeAtlas.Syntax.Cursor

namespace CodeAtlas

namespace Tree

/-- The kind of a plain identifier, and the kinds that can name a definition without a field. -/
def identifierKind : String := "identifier"
def nameKinds : List String := [identifierKind, "property_identifier"]

/-- A walk in search of the nodes of a kind. -/
structure Search where
  cursor : Cursor
  kind : String
  done : Bool := false

namespace Search

/-- Steps to the sibling behind, or behind the nearest node above that has one; a search that finds
itself where it began is done. -/
def climb (s : Search) : Search :=
  match _ : s.cursor.nextSibling? with
  | some sibling => { s with cursor := sibling }
  | none =>
    match _ : s.cursor.parent? with
    | some up => climb { s with cursor := up }
    | none => { s with done := true }
termination_by s.cursor.above.length
decreasing_by
  rw [Cursor.parent?_above ‹s.cursor.parent? = some up›]
  exact Nat.lt_succ_self _

def advance (s : Search) : Search :=
  match s.cursor.firstChild? with
  | some child => { s with cursor := child }
  | none => s.climb

/-- The nodes the search has not looked at. -/
def ahead (s : Search) : List Tree :=
  if s.done then [] else s.cursor.node.nodes ++ s.cursor.later

theorem climb_kind (s : Search) : s.climb.kind = s.kind := by
  fun_induction climb s with
  | case1 => rfl
  | case2 s _ up _ ih => exact ih
  | case3 => rfl

theorem climb_ahead (s : Search) (going : s.done = false) : s.climb.ahead = s.cursor.later := by
  fun_induction climb s with
  | case1 s sibling moved => rw [Cursor.nextSibling?_later moved, ahead, going]; rfl
  | case2 s stuck up moved ih => rw [ih going, Cursor.parent?_later stuck moved]
  | case3 s noSibling noParent => exact (Cursor.later_of_stuck noSibling noParent).symm

theorem advance_kind (s : Search) : s.advance.kind = s.kind := by
  unfold advance
  split
  · rfl
  · exact s.climb_kind

/-- One step passes the node the cursor stands at, and no other. -/
theorem ahead_eq_cons (s : Search) (going : s.done = false) :
    s.ahead = s.cursor.node :: s.advance.ahead := by
  rw [ahead, going, if_neg Bool.false_ne_true, advance]
  split
  · rename_i child moved
    rw [Cursor.firstChild?_later moved, ahead, going]
    rfl
  · rename_i stuck
    rw [s.climb_ahead going, Cursor.nodes_of_childless stuck, List.singleton_append]

/-- The next node of the kind. The node is read before the cursor moves on. -/
def next (s : Search) : Option Tree × Search :=
  if _ : s.done = false then
    if s.cursor.node.kind = s.kind then (some s.cursor.node, s.advance) else s.advance.next
  else (none, s)
termination_by s.ahead.length
decreasing_by
  rw [s.ahead_eq_cons ‹_›]
  exact Nat.lt_succ_self _

/-- What a call to a search can answer, beside the search it leaves: the first node of the kind that
is ahead, or nothing once and for all. -/
inductive Answers (s : Search) : Option Tree × Search → Prop
  | found {passed : List Tree} {t : Tree} {after : Search} (others : ∀ u ∈ passed, u.kind ≠ s.kind)
      (own : t.kind = s.kind) (same : after.kind = s.kind) (ahead : s.ahead = passed ++ t :: after.ahead) :
      Answers s (some t, after)
  | ended {after : Search} (others : ∀ u ∈ s.ahead, u.kind ≠ s.kind) (done : after.done = true) :
      Answers s (none, after)

/-- A node of another kind is passed over. -/
theorem Answers.before {s : Search} {answer : Option Tree × Search} (going : s.done = false)
    (other : s.cursor.node.kind ≠ s.kind) (answers : s.advance.Answers answer) : s.Answers answer := by
  have kind := s.advance_kind
  have ahead := s.ahead_eq_cons going
  cases answers with
  | found others own same rest =>
    rw [kind] at others own same
    rw [rest, ← List.cons_append] at ahead
    exact .found (List.forall_mem_cons.mpr ⟨other, others⟩) own same ahead
  | ended others done =>
    rw [kind] at others
    exact .ended (ahead ▸ List.forall_mem_cons.mpr ⟨other, others⟩) done

theorem next_answers (s : Search) : s.Answers s.next := by
  fun_induction next s with
  | case1 s going own => exact .found (List.forall_mem_nil _) own s.advance_kind (s.ahead_eq_cons going)
  | case2 s going other ih => exact ih.before going other
  | case3 s stopped =>
    have done : s.done = true := by simpa using stopped
    exact .ended (by simp [ahead, done]) done

theorem Answers.shorter {s after : Search} {t : Tree} (answers : s.Answers (some t, after)) :
    after.ahead.length < s.ahead.length := by
  cases answers with
  | found _ _ _ ahead =>
    rw [ahead, List.length_append, List.length_cons]
    omega

/-- All that is left to find, in the order it is found. -/
def items (s : Search) : List Tree :=
  match _ : s.next with
  | (some t, after) => t :: after.items
  | (none, _) => []
termination_by s.ahead.length
decreasing_by
  exact Answers.shorter (‹s.next = (some t, after)› ▸ s.next_answers)

end Search

/-- A search of a whole tree, its root included. -/
def search (t : Tree) (kind : String) : Search where
  cursor := { node := t }
  kind := kind

/-- All nodes of a kind, a node before its children. -/
def ofKind (kind : String) (t : Tree) : List Tree :=
  (t.search kind).items

def child? (t : Tree) (field : String) : Option Tree :=
  t.children.find? (·.fields.contains field)

def firstOf? (t : Tree) (kinds : List String) : Option Tree :=
  t.children.find? fun c => kinds.contains c.kind

/-- The text of a node, if it has any. -/
def text? (t : Tree) (source : Source) : Option String :=
  let text := source.slice t.start t.stop
  if text.isEmpty then none else some text

/-- The text under the field; without such a child, that of the first identifier. -/
def name? (t : Tree) (field : String) (source : Source) : Option String :=
  ((t.child? field).or (t.firstOf? nameKinds)).bind (·.text? source)

/-- Like a name, but what stands under the field must itself be a plain identifier. -/
def callee? (t : Tree) (field : String) (source : Source) : Option String :=
  match t.child? field with
  | some c => if c.kind = identifierKind then c.text? source else none
  | none => (t.firstOf? [identifierKind]).bind (·.text? source)

end Tree

end CodeAtlas
