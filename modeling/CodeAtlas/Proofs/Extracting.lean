import CodeAtlas.Extraction
import CodeAtlas.Proofs.Preorder
import Mathlib.Algebra.GroupWithZero.Nat

namespace CodeAtlas

namespace Extraction

variable (e : LanguageEntry) (source : Source)

/-- The note of a node visited for its kind that no function could be made of. -/
def noteOf (kind : String) (t : Tree) : UnnamedNode :=
  ⟨kind, source.row t.start + 1, source.column t.start + 1⟩

/-- Nodes with the kind that each is visited for. -/
abbrev Visits := List (String × Tree)

/-- What some visits come to, functions and notes each in the order of the visits. -/
def ofVisits (visits : Visits) : Extraction where
  functions := visits.filterMap fun (_, t) => function? e source t
  unnamed := (visits.filter fun (_, t) => (function? e source t).isNone).map fun (kind, t) =>
    noteOf source kind t

theorem add_ofVisits (visits : Visits) (kind : String) (t : Tree) :
    add e source kind (ofVisits e source visits) t = ofVisits e source (visits ++ [(kind, t)]) := by
  unfold add
  cases made : function? e source t <;> simp [ofVisits, noteOf, made]

theorem addAll_ofVisits (visits : Visits) (kind : String) (nodes : List Tree) :
    nodes.foldl (add e source kind) (ofVisits e source visits) =
      ofVisits e source (visits ++ nodes.map (kind, ·)) := by
  induction nodes generalizing visits with
  | nil => simp
  | cons t nodes ih => rw [List.foldl_cons, add_ofVisits, ih, List.append_assoc]; rfl

theorem ofTree_eq (root : Tree) :
    ofTree e source root =
      ofVisits e source (e.functionKinds.flatMap fun kind => (root.matching kind).map (kind, ·)) := by
  have all (kinds : List String) (visits : Visits) :
      kinds.foldl (fun x kind => (root.ofKind kind).foldl (add e source kind) x) (ofVisits e source visits) =
        ofVisits e source (visits ++ kinds.flatMap fun kind => (root.matching kind).map (kind, ·)) := by
    induction kinds generalizing visits with
    | nil => simp
    | cons kind kinds ih =>
      rw [List.foldl_cons, addAll_ofVisits, ih, Tree.ofKind_eq, List.append_assoc, List.flatMap_cons]
  exact all e.functionKinds []

/-- Of each visit there is a function or a note, and never both. -/
theorem length_ofVisits (visits : Visits) :
    (ofVisits e source visits).functions.length + (ofVisits e source visits).unnamed.length =
      visits.length := by
  induction visits with
  | nil => rfl
  | cons visit visits ih =>
    rw [List.length_cons, ← ih]
    cases made : function? e source visit.2 with
    | none => simp [ofVisits, made, Nat.add_assoc]
    | some f => simp [ofVisits, made, Nat.add_right_comm]

/-- Extraction visits, for each kind of the table in turn, the node at every address of the tree that
leads to the kind, once and in pre-order. A visit comes to a function if one can be made of the node,
and else to a note with the kind and the place of the node's start, counted from one. -/
theorem extraction_partitions (root : Tree) :
    let x := ofTree e source root
    let visited := e.functionKinds.flatMap fun kind => (root.placesOf kind []).map (kind, ·)
    (x.functions = visited.filterMap fun (_, _, t) => function? e source t) ∧
    (x.unnamed = (visited.filter fun (_, _, t) => (function? e source t).isNone).map fun (kind, _, t) =>
      ⟨kind, source.row t.start + 1, source.column t.start + 1⟩) ∧
    (∀ kind, (root.placesOf kind []).Pairwise (fun a b => a.1 < b.1) ∧
      ∀ address t, (address, t) ∈ root.placesOf kind [] ↔ root.at? address = some t ∧ t.kind = kind) ∧
    x.functions.length + x.unnamed.length =
      (e.functionKinds.map fun kind => (root.placesOf kind []).length).sum := by
  intro x visited
  -- Visits do not depend on the addresses, which are there to tell them apart.
  have nodes : (e.functionKinds.flatMap fun kind => (root.matching kind).map (kind, ·)) =
      visited.map fun (kind, _, t) => (kind, t) := by
    simp only [visited, List.map_flatMap, List.map_map, ← Tree.placesOf_nodes _ []]
    rfl
  have whole : x = ofVisits e source (visited.map fun (kind, _, t) => (kind, t)) :=
    nodes ▸ ofTree_eq e source root
  refine ⟨?_, ?_, fun kind => ⟨Tree.placesOf_ascending kind [] root, fun address t => ?_⟩, ?_⟩
  · rw [whole, ofVisits, List.filterMap_map]
    rfl
  · rw [whole, ofVisits, List.filter_map, List.map_map]
    rfl
  · rw [Tree.mem_placesOf rfl]
    simp
  · rw [whole, length_ofVisits, List.length_map, List.length_flatMap]
    simp

end Extraction

end CodeAtlas
