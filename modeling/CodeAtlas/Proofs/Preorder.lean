import CodeAtlas.Syntax.Search

namespace CodeAtlas

namespace Tree

mutual

/-- The nodes of a kind by recursion: the node itself, then those of each child. -/
def matching (kind : String) : Tree → List Tree
  | ⟨k, start, stop, fields, children⟩ =>
    let inner := matchingAll kind children
    if k = kind then ⟨k, start, stop, fields, children⟩ :: inner else inner

def matchingAll (kind : String) : List Tree → List Tree
  | [] => []
  | t :: rest => matching kind t ++ matchingAll kind rest

end

/-- The node at an address, the indices of the children on the way down. -/
def at? : Tree → List Nat → Option Tree
  | t, [] => some t
  | t, i :: rest => t.children[i]?.bind (at? · rest)

mutual

/-- The nodes of a tree with their addresses, behind the address of the tree itself. -/
def placed (address : List Nat) : Tree → List (List Nat × Tree)
  | ⟨kind, start, stop, fields, children⟩ =>
    (address, ⟨kind, start, stop, fields, children⟩) :: placedAll address 0 children

def placedAll (address : List Nat) (i : Nat) : List Tree → List (List Nat × Tree)
  | [] => []
  | t :: rest => placed (address ++ [i]) t ++ placedAll address (i + 1) rest

end

theorem at?_append (t : Tree) (p q : List Nat) : t.at? (p ++ q) = (t.at? p).bind (·.at? q) := by
  induction p generalizing t with
  | nil => rfl
  | cons i p ih =>
    rw [List.cons_append, at?, at?]
    cases t.children[i]? with
    | none => rfl
    | some child => exact ih child

mutual

theorem matching_eq (kind : String) : ∀ t : Tree, t.matching kind = t.nodes.filter (·.kind == kind)
  | ⟨k, start, stop, fields, children⟩ => by
    rw [matching, matchingAll_eq kind children, nodes]
    by_cases own : k = kind
    · rw [List.filter_cons_of_pos (by simpa using own), if_pos own]
    · rw [List.filter_cons_of_neg (by simpa using own), if_neg own]

theorem matchingAll_eq (kind : String) :
    ∀ trees, matchingAll kind trees = (nodesOfAll trees).filter (·.kind == kind)
  | [] => rfl
  | t :: rest => by
    rw [matchingAll, matching_eq kind t, matchingAll_eq kind rest, nodesOfAll, List.filter_append]

end

mutual

theorem placed_nodes (address : List Nat) : ∀ t : Tree, (t.placed address).map (·.2) = t.nodes
  | ⟨kind, start, stop, fields, children⟩ => by
    rw [placed, nodes, List.map_cons, placedAll_nodes address 0 children]

theorem placedAll_nodes (address : List Nat) (i : Nat) :
    ∀ trees, (placedAll address i trees).map (·.2) = nodesOfAll trees
  | [] => rfl
  | t :: rest => by
    rw [placedAll, nodesOfAll, List.map_append, placed_nodes _ t, placedAll_nodes address (i + 1) rest]

end

mutual

theorem mem_placed {address p : List Nat} {u : Tree} :
    ∀ {t : Tree}, (p, u) ∈ t.placed address ↔ ∃ q, p = address ++ q ∧ t.at? q = some u
  | ⟨kind, start, stop, fields, children⟩ => by
    rw [placed, List.mem_cons, mem_placedAll]
    constructor
    · rintro (here | ⟨j, q, c, rfl, child, below⟩)
      · cases here
        exact ⟨[], (List.append_nil _).symm, rfl⟩
      · exact ⟨j :: q, by rw [Nat.zero_add], by simp [at?, child, below]⟩
    · rintro ⟨q, rfl, there⟩
      cases q with
      | nil =>
        cases there
        exact .inl (by rw [List.append_nil])
      | cons j q =>
        obtain ⟨c, child, below⟩ := Option.bind_eq_some_iff.mp there
        exact .inr ⟨j, q, c, by rw [Nat.zero_add], child, below⟩

theorem mem_placedAll {address p : List Nat} {i : Nat} {u : Tree} :
    ∀ {trees : List Tree}, (p, u) ∈ placedAll address i trees ↔
      ∃ j q c, p = address ++ (i + j) :: q ∧ trees[j]? = some c ∧ c.at? q = some u
  | [] => by simp [placedAll]
  | t :: rest => by
    -- The addresses of the first tree go on with `i`, those of the others from `i + 1`.
    rw [placedAll, List.mem_append, mem_placed, mem_placedAll]
    constructor
    · rintro (⟨q, rfl, there⟩ | ⟨j, q, c, rfl, child, below⟩)
      · exact ⟨0, q, t, by simp, rfl, there⟩
      · exact ⟨j + 1, q, c, by simp; omega, child, below⟩
    · rintro ⟨j, q, c, rfl, child, below⟩
      cases j with
      | zero =>
        cases child
        exact .inl ⟨q, by simp, below⟩
      | succ j => exact .inr ⟨j, q, c, by simp; omega, child, below⟩

end

mutual

theorem placed_ascending (address : List Nat) :
    ∀ t : Tree, (t.placed address).Pairwise fun a b => a.1 < b.1
  | ⟨kind, start, stop, fields, children⟩ => by
    rw [placed, List.pairwise_cons]
    refine ⟨fun (p, u) member => ?_, placedAll_ascending address 0 children⟩
    obtain ⟨j, q, c, rfl, -⟩ := mem_placedAll.mp member
    calc
      address = address ++ [] := (List.append_nil address).symm
      _ < address ++ (0 + j) :: q := List.append_left_lt (List.nil_lt_cons _ q)

theorem placedAll_ascending (address : List Nat) (i : Nat) :
    ∀ trees, (placedAll address i trees).Pairwise fun a b => a.1 < b.1
  | [] => .nil
  | t :: rest => by
    rw [placedAll, List.pairwise_append]
    refine ⟨placed_ascending _ t, placedAll_ascending address (i + 1) rest, ?_⟩
    rintro ⟨p, u⟩ earlier ⟨p', u'⟩ later
    obtain ⟨q, rfl, -⟩ := mem_placed.mp earlier
    obtain ⟨j, q', c, rfl, -⟩ := mem_placedAll.mp later
    have sooner : i < i + 1 + j := by omega
    rw [List.append_assoc]
    exact List.append_left_lt (List.cons_lt_cons_iff.mpr (.inl sooner))

end

namespace Search

/-- What is left to find. -/
def toFind (s : Search) : List Tree :=
  s.ahead.filter (·.kind == s.kind)

theorem Answers.toFind_cons {s after : Search} {t : Tree} (answers : s.Answers (some t, after)) :
    s.toFind = t :: after.toFind := by
  cases answers with
  | @found passed _ _ others own same ahead =>
    have none : passed.filter (·.kind == s.kind) = [] :=
      List.filter_eq_nil_iff.mpr fun u member => by simpa using others u member
    rw [toFind, ahead, List.filter_append, none, List.nil_append, List.filter_cons_of_pos (by simpa using own),
      toFind, same]

theorem Answers.toFind_nil {s after : Search} (answers : s.Answers (none, after)) :
    s.toFind = [] ∧ after.toFind = [] := by
  cases answers with
  | ended others done =>
    refine ⟨List.filter_eq_nil_iff.mpr fun u member => by simpa using others u member, ?_⟩
    simp [toFind, ahead, done]

theorem items_eq (s : Search) : s.items = s.toFind := by
  fun_induction items s with
  | case1 s t after answer ih =>
    have found : s.Answers (some t, after) := answer ▸ s.next_answers
    rw [ih, found.toFind_cons]
  | case2 s after answer =>
    have ended : s.Answers (none, after) := answer ▸ s.next_answers
    rw [ended.toFind_nil.1]

/-- The answers to a number of calls. -/
def firstAnswers : Nat → Search → List (Option Tree)
  | 0, _ => []
  | n + 1, s => s.next.1 :: firstAnswers n s.next.2

theorem firstAnswers_eq (n : Nat) (s : Search) :
    s.firstAnswers n = (s.toFind.take n).map some ++ List.replicate (n - s.toFind.length) none := by
  induction n generalizing s with
  | zero => simp [firstAnswers]
  | succ n ih =>
    have answer := s.next_answers
    rw [firstAnswers, ih]
    generalize s.next = given at answer ⊢
    obtain ⟨_ | t, after⟩ := given
    · obtain ⟨nothing, nor⟩ := answer.toFind_nil
      simp [nothing, nor, List.replicate_succ]
    · rw [answer.toFind_cons]
      simp

end Search

theorem toFind_search (t : Tree) (kind : String) : (t.search kind).toFind = t.matching kind := by
  rw [matching_eq]
  simp [search, Search.toFind, Search.ahead, Cursor.later, nodesOfAll]

theorem ofKind_eq (kind : String) (t : Tree) : t.ofKind kind = t.matching kind := by
  rw [ofKind, Search.items_eq, toFind_search]

/-- The nodes of a kind in a tree, with their addresses. -/
def placesOf (kind : String) (address : List Nat) (t : Tree) : List (List Nat × Tree) :=
  (t.placed address).filter (·.2.kind == kind)

theorem placesOf_nodes (kind : String) (address : List Nat) (t : Tree) :
    (t.placesOf kind address).map (·.2) = t.matching kind := by
  rw [matching_eq, ← placed_nodes address t, List.filter_map]
  rfl

theorem placesOf_ascending (kind : String) (address : List Nat) (t : Tree) :
    (t.placesOf kind address).Pairwise fun a b => a.1 < b.1 :=
  (placed_ascending address t).filter _

/-- The nodes below an address are those whose addresses go on from there. -/
theorem mem_placesOf {t r : Tree} {way : List Nat} (there : t.at? way = some r) {kind : String}
    {address : List Nat} {u : Tree} :
    (address, u) ∈ r.placesOf kind way ↔ way <+: address ∧ t.at? address = some u ∧ u.kind = kind := by
  rw [placesOf, List.mem_filter, mem_placed, beq_iff_eq, ← and_assoc]
  refine and_congr_left fun _ => ?_
  constructor
  · rintro ⟨q, rfl, below⟩
    exact ⟨List.prefix_append way q, by rw [at?_append, there, Option.bind_some, below]⟩
  · rintro ⟨⟨q, rfl⟩, below⟩
    rw [at?_append, there, Option.bind_some] at below
    exact ⟨q, rfl, below⟩

/-- A search that begins at a node finds what the recursion lists: one node for each address in the
tree that goes on from the node's own and leads to the kind, in the ascending order of the addresses.
Calls answer these nodes one by one, and nothing from then on. -/
theorem search_is_preorder {t r : Tree} {way : List Nat} (there : t.at? way = some r) (kind : String) :
    let listed := r.matching kind
    (r.search kind).items = listed ∧
    (∀ n, (r.search kind).firstAnswers n =
      (listed.take n).map some ++ List.replicate (n - listed.length) none) ∧
    (r.placesOf kind way).map (·.2) = listed ∧
    (r.placesOf kind way).Pairwise (fun a b => a.1 < b.1) ∧
    ∀ address u, (address, u) ∈ r.placesOf kind way ↔
      way <+: address ∧ t.at? address = some u ∧ u.kind = kind := by
  intro listed
  have found := toFind_search r kind
  refine ⟨?_, fun n => ?_, placesOf_nodes kind way r, placesOf_ascending kind way r, fun _ _ => mem_placesOf there⟩
  · rw [Search.items_eq, found]
  · rw [Search.firstAnswers_eq, found]

/-- A function whose calls are looked for has one inside another, and is followed by a function with
a call of its own. -/
theorem search_is_preorder_of_first_function :
    let inner : Tree := ⟨"call", 3, 6, ["argument"], []⟩
    let outer : Tree := ⟨"call", 1, 7, [], [⟨"(", 2, 3, [], []⟩, inner]⟩
    let first : Tree := ⟨"function", 0, 8, [], [outer]⟩
    let second : Tree := ⟨"function", 8, 11, [], [⟨"call", 9, 11, [], []⟩]⟩
    let file : Tree := ⟨"module", 0, 11, [], [first, second]⟩
    file.at? [0] = some first ∧ (first.search "call").items = [outer, inner] ∧
      (first.search "call").firstAnswers 4 = [some outer, some inner, none, none] ∧
      ([0, 0, 1], inner) ∈ first.placesOf "call" [0] := by
  intro inner outer first second file
  obtain ⟨items, answers, -, -, places⟩ := search_is_preorder (show file.at? [0] = some first from rfl) "call"
  exact ⟨rfl, items, answers 4, (places _ _).mpr ⟨by decide, rfl, rfl⟩⟩

end Tree

end CodeAtlas
