import CodeAtlas.Extraction
import CodeAtlas.Proofs.Catalog
import CodeAtlas.Proofs.Preorder

namespace CodeAtlas

namespace Tree

variable {t u c : Tree} {field name : String} {source : Source}

theorem mem_nodesOfAll {trees : List Tree} : u ∈ nodesOfAll trees ↔ ∃ t ∈ trees, u ∈ t.nodes := by
  induction trees with
  | nil => simp [nodesOfAll]
  | cons t rest ih => simp [nodesOfAll, ih]

theorem mem_nodes : u ∈ t.nodes ↔ ∃ way, t.at? way = some u := by
  simp [← placed_nodes [] t, mem_placed]

theorem self_mem_nodes (t : Tree) : t ∈ t.nodes :=
  mem_nodes.mpr ⟨[], rfl⟩

theorem child_mem_nodes (inside : u ∈ t.nodes) (child : c ∈ u.children) : c ∈ t.nodes := by
  obtain ⟨way, there⟩ := mem_nodes.mp inside
  obtain ⟨i, own⟩ := List.mem_iff_getElem?.mp child
  refine mem_nodes.mpr ⟨way ++ [i], ?_⟩
  rw [at?_append, there, Option.bind_some, at?, own]
  rfl

theorem nodes_trans (inside : u ∈ t.nodes) (below : c ∈ u.nodes) : c ∈ t.nodes := by
  obtain ⟨way, there⟩ := mem_nodes.mp inside
  obtain ⟨further, under⟩ := mem_nodes.mp below
  exact mem_nodes.mpr ⟨way ++ further, by rw [at?_append, there, Option.bind_some, under]⟩

theorem mem_ofKind {kind : String} : u ∈ t.ofKind kind ↔ u ∈ t.nodes ∧ u.kind = kind := by
  rw [ofKind_eq, matching_eq, List.mem_filter, beq_iff_eq]

/-- The first child that has a property. -/
def FirstChild (t : Tree) (p : Tree → Prop) (c : Tree) : Prop :=
  p c ∧ ∃ before after, t.children = before ++ c :: after ∧ ∀ other ∈ before, ¬p other

/-- The child a call is known by. One under the field that is no plain identifier leaves the call
without any. -/
inductive CalleeOf (field : String) (call child : Tree) : Prop
  | labelled (first : call.FirstChild (field ∈ ·.fields) child) (plain : child.kind = identifierKind)
  | unlabelled (bare : ∀ other ∈ call.children, field ∉ other.fields)
      (first : call.FirstChild (·.kind = identifierKind) child)

theorem FirstChild.mem {p : Tree → Prop} (first : t.FirstChild p c) : c ∈ t.children := by
  obtain ⟨-, before, after, children, -⟩ := first
  simp [children]

theorem CalleeOf.mem (known : t.CalleeOf field c) : c ∈ t.children := by
  cases known with
  | labelled first _ => exact first.mem
  | unlabelled _ first => exact first.mem

theorem child?_eq_some : t.child? field = some u ↔ t.FirstChild (field ∈ ·.fields) u := by
  simp [child?, FirstChild, List.find?_eq_some_iff_append]

theorem child?_eq_none : t.child? field = none ↔ ∀ other ∈ t.children, field ∉ other.fields := by
  simp [child?]

theorem firstOf?_eq_some {kind : String} : t.firstOf? [kind] = some u ↔ t.FirstChild (·.kind = kind) u := by
  simp [firstOf?, FirstChild, List.find?_eq_some_iff_append]

theorem calleeOf_iff : t.CalleeOf field u ↔
    t.child? field = some u ∧ u.kind = identifierKind ∨
      t.child? field = none ∧ t.firstOf? [identifierKind] = some u := by
  rw [child?_eq_some, child?_eq_none, firstOf?_eq_some]
  constructor
  · rintro (⟨first, plain⟩ | ⟨bare, first⟩)
    · exact .inl ⟨first, plain⟩
    · exact .inr ⟨bare, first⟩
  · rintro (⟨first, plain⟩ | ⟨bare, first⟩)
    · exact .labelled first plain
    · exact .unlabelled bare first

theorem text?_eq_some : t.text? source = some name ↔ source.slice t.start t.stop = name ∧ name ≠ "" := by
  simp only [text?]
  split_ifs with empty
  · rw [String.isEmpty_iff] at empty
    exact iff_of_false nofun fun ⟨same, nonempty⟩ => nonempty (same.symm.trans empty)
  · rw [String.isEmpty_iff] at empty
    rw [Option.some_inj]
    exact ⟨fun same => ⟨same, same ▸ empty⟩, And.left⟩

theorem callee?_eq_some : t.callee? field source = some name ↔
    ∃ child, t.CalleeOf field child ∧ child.text? source = some name := by
  simp only [callee?, calleeOf_iff]
  cases found : t.child? field with
  | none => simp [Option.bind_eq_some_iff]
  | some c => simp

end Tree

namespace Extraction

variable {e : LanguageEntry} {source : Source}

theorem mem_callsIn {t : Tree} {name : String} :
    name ∈ callsIn e source t ↔
      ∃ call ∈ t.nodes, call.kind = e.callKind ∧ call.callee? e.calleeField source = some name := by
  simp [callsIn, NameSet.mem_ofList, Tree.mem_ofKind, and_assoc]

/-- The name a node itself calls, if it is a call. -/
def ownCall (e : LanguageEntry) (source : Source) (t : Tree) : Option String :=
  if t.kind = e.callKind then t.callee? e.calleeField source else none

/-- What is called in a node is what the node calls itself, and what is called in its children. -/
theorem callsIn_eq (e : LanguageEntry) (source : Source) (t : Tree) : callsIn e source t =
    .ofList ((ownCall e source t).toList ++ t.children.flatMap fun c => (callsIn e source c).names) := by
  refine NameSet.ext fun name => ?_
  have own : name ∈ (ownCall e source t).toList ↔
      t.kind = e.callKind ∧ t.callee? e.calleeField source = some name := by
    rw [Option.mem_toList, ownCall]
    split_ifs with isCall <;> simp [isCall]
  have below : (name ∈ t.children.flatMap fun c => (callsIn e source c).names) ↔
      ∃ c ∈ t.children, name ∈ callsIn e source c := List.mem_flatMap
  rw [NameSet.mem_ofList, List.mem_append, own, below, mem_callsIn, Tree.nodes_eq, List.exists_mem_cons_iff]
  refine or_congr_right ?_
  simp only [mem_callsIn, Tree.mem_nodesOfAll]
  constructor
  · rintro ⟨call, ⟨c, child, inside⟩, rest⟩
    exact ⟨c, child, call, inside, rest⟩
  · rintro ⟨c, child, call, inside, rest⟩
    exact ⟨call, ⟨c, child, inside⟩, rest⟩

theorem callsIn_subset {f g : Tree} (inside : g ∈ f.nodes) {name : String}
    (called : name ∈ callsIn e source g) : name ∈ callsIn e source f := by
  obtain ⟨call, below, rest⟩ := mem_callsIn.mp called
  exact mem_callsIn.mpr ⟨call, Tree.nodes_trans inside below, rest⟩

/-- A name is called in a node if it is the text of the identifier that some call is known by, at the node
or anywhere below it, functions in it included. So what is called in a node is what the node calls itself
and what is called in each child, and nothing called in a part of it is missing. -/
theorem calls_are_compositional (e : LanguageEntry) (source : Source) (f : Tree) :
    (∀ name, name ∈ callsIn e source f ↔ ∃ way call child, f.at? way = some call ∧
      call.kind = e.callKind ∧ call.CalleeOf e.calleeField child ∧
      source.slice child.start child.stop = name ∧ name ≠ "") ∧
    callsIn e source f =
      .ofList ((ownCall e source f).toList ++ f.children.flatMap fun c => (callsIn e source c).names) ∧
    ∀ way g, f.at? way = some g → ∀ name ∈ callsIn e source g, name ∈ callsIn e source f := by
  refine ⟨fun name => ?_, callsIn_eq e source f, fun way g there name => callsIn_subset (Tree.mem_nodes.mpr ⟨way, there⟩)⟩
  simp only [mem_callsIn, Tree.mem_nodes, Tree.callee?_eq_some, Tree.text?_eq_some]
  constructor
  · rintro ⟨call, ⟨way, there⟩, isCall, child, known, text⟩
    exact ⟨way, call, child, there, isCall, known, text⟩
  · rintro ⟨way, call, child, there, isCall, known, text⟩
    exact ⟨call, ⟨way, there⟩, isCall, child, known, text⟩

/-- A call with two others among its arguments, of which one is known by no plain identifier though there
is one right below it. -/
def nestedCalls : Tree :=
  let plain := "identifier"
  let member : Tree := ⟨"call", 2, 6, [], [⟨"attribute", 2, 5, ["function"], []⟩, ⟨plain, 5, 6, [], []⟩]⟩
  let inner : Tree := ⟨"call", 7, 8, [], [⟨plain, 7, 8, ["function"], []⟩]⟩
  ⟨"call", 0, 9, [], [⟨plain, 0, 1, ["function"], []⟩, ⟨"arguments", 1, 9, [], [member, inner]⟩]⟩

example : (callsIn ⟨"python", ["py"], [], "name", "call", "function", .python⟩ (.ofString "f(o.mx,g)")
    nestedCalls).names = ["f", "g"] := by
  rw [callsIn, Tree.ofKind_eq]
  cbv

end Extraction

end CodeAtlas
