import CodeAtlas.Proofs.Calls
import CodeAtlas.Proofs.Extracting
import CodeAtlas.Proofs.Slices

namespace CodeAtlas

namespace Tree

variable {t u c : Tree} {field name : String} {source : Source}

/-- Every node of a tree lies in the source, and its children lie in the node. -/
def Fits (source : Source) (t : Tree) : Prop :=
  ∀ u ∈ t.nodes, u.start ≤ u.stop ∧ u.stop ≤ source.size ∧
    ∀ c ∈ u.children, u.start ≤ c.start ∧ c.stop ≤ u.stop

instance : Decidable (t.Fits source) :=
  inferInstanceAs (Decidable (∀ u ∈ t.nodes, _))

theorem Fits.below (fits : t.Fits source) (inside : u ∈ t.nodes) : u.Fits source :=
  fun c below => fits c (nodes_trans inside below)

theorem Fits.within (fits : t.Fits source) (inside : u ∈ t.nodes) : t.start ≤ u.start ∧ u.stop ≤ t.stop := by
  obtain ⟨way, there⟩ := mem_nodes.mp inside
  clear inside
  induction way generalizing t with
  | nil =>
    cases there
    exact ⟨Nat.le_refl _, Nat.le_refl _⟩
  | cons i way ih =>
    obtain ⟨c, own, there⟩ := Option.bind_eq_some_iff.mp there
    have child := List.mem_of_getElem? own
    have between := ih (fits.below (child_mem_nodes t.self_mem_nodes child)) there
    have spans := (fits t t.self_mem_nodes).2.2 c child
    omega

theorem Fits.text_part (fits : t.Fits source) (inside : u ∈ t.nodes) :
    (source.slice u.start u.stop).toList <:+: (source.slice t.start t.stop).toList :=
  source.slice_part (fits.within inside).1 (fits.within inside).2

/-- The text of a node, if it has any, occurs in the text of the tree. -/
theorem Fits.occurs (fits : t.Fits source) (inside : u ∈ t.nodes) (text : u.text? source = some name) :
    name ≠ "" ∧ name.toList <:+: (source.slice t.start t.stop).toList := by
  obtain ⟨rfl, nonempty⟩ := text?_eq_some.mp text
  exact ⟨nonempty, fits.text_part inside⟩

theorem name?_child (named : t.name? field source = some name) :
    ∃ c ∈ t.children, c.text? source = some name := by
  obtain ⟨c, chosen, text⟩ := Option.bind_eq_some_iff.mp named
  refine ⟨c, ?_, text⟩
  rcases Option.or_eq_some_iff.mp chosen with own | ⟨-, own⟩
  · exact List.mem_of_find?_eq_some own
  · exact List.mem_of_find?_eq_some own

theorem Fits.name_occurs (fits : t.Fits source) (named : t.name? field source = some name) :
    name ≠ "" ∧ name.toList <:+: (source.slice t.start t.stop).toList := by
  obtain ⟨c, child, text⟩ := name?_child named
  exact fits.occurs (child_mem_nodes t.self_mem_nodes child) text

/-- A node with a name has a text, since the name is part of it. -/
theorem Fits.text?_of_name (fits : t.Fits source) (named : t.name? field source = some name) :
    t.text? source = some (source.slice t.start t.stop) := by
  obtain ⟨nonempty, inside⟩ := fits.name_occurs named
  refine text?_eq_some.mpr ⟨rfl, fun empty => nonempty ?_⟩
  rw [empty] at inside
  simpa using inside

end Tree

namespace Extraction

variable {e : LanguageEntry} {source : Source} {t : Tree}

theorem call_occurs (fits : t.Fits source) {name : String} (called : name ∈ callsIn e source t) :
    name ≠ "" ∧ name.toList <:+: (source.slice t.start t.stop).toList := by
  obtain ⟨call, inside, -, callee⟩ := mem_callsIn.mp called
  obtain ⟨child, known, text⟩ := Tree.callee?_eq_some.mp callee
  exact fits.occurs (Tree.child_mem_nodes inside known.mem) text

/-- Of a node in its place a function is made if it has a name, and only then. -/
theorem function?_eq (fits : t.Fits source) : function? e source t =
    (t.name? e.nameField source).map (⟨·, source.slice t.start t.stop, callsIn e source t⟩) := by
  cases named : t.name? e.nameField source with
  | none => simp [function?, named]
  | some name => simp [function?, named, fits.text?_of_name named]

/-- A function as it stands in a text, at a node: its source is that of the node, byte by byte, and its
name and the names it calls occur in it. -/
structure Verbatim (text : String) (t : Tree) (f : ExtractedFunction) : Prop where
  snippet : Text.encode f.snippet =
    (Text.encode text).extract ((Source.ofString text).offset t.start) ((Source.ofString text).offset t.stop)
  name : f.name ≠ "" ∧ f.name.toList <:+: f.snippet.toList
  calls : ∀ name ∈ f.calls, name ≠ "" ∧ name.toList <:+: f.snippet.toList

theorem snippet_of_function {f : ExtractedFunction} (fits : t.Fits source)
    (made : function? e source t = some f) : f.snippet = source.slice t.start t.stop := by
  rw [function?_eq fits] at made
  obtain ⟨name, -, rfl⟩ := Option.map_eq_some_iff.mp made
  rfl

theorem verbatim_of_function {text : String} {f : ExtractedFunction} (fits : t.Fits (.ofString text))
    (made : function? e (.ofString text) t = some f) : Verbatim text t f := by
  rw [function?_eq fits] at made
  obtain ⟨name, named, rfl⟩ := Option.map_eq_some_iff.mp made
  obtain ⟨ordered, inside, -⟩ := fits t t.self_mem_nodes
  exact ⟨Source.encode_slice text ordered inside, fits.name_occurs named, fun _ => call_occurs fits⟩

/-- Where the nodes of a tree lie in the source, each in its parent, the functions extracted are those
of the nodes with a name, and all others are noted. A function is verbatim at its node, and one inside
another is part of it. -/
theorem extraction_is_verbatim (e : LanguageEntry) (text : String) {root : Tree}
    (fits : root.Fits (.ofString text)) :
    let source := Source.ofString text
    let x := ofTree e source root
    let visited := e.functionKinds.flatMap fun kind => (root.matching kind).map (kind, ·)
    (∀ f ∈ x.functions, ∃ address t, root.at? address = some t ∧ t.kind ∈ e.functionKinds ∧
      function? e source t = some f ∧ Verbatim text t f) ∧
    (∀ address way t u f g, root.at? address = some t → t.at? way = some u →
      function? e source t = some f → function? e source u = some g →
      g.snippet.toList <:+: f.snippet.toList) ∧
    (∀ address t, root.at? address = some t →
      ((t.name? e.nameField source).isSome → (t.text? source).isSome) ∧
      (function? e source t = none ↔ t.name? e.nameField source = none)) ∧
    (x.functions = visited.filterMap fun (_, t) =>
      (t.name? e.nameField source).map (⟨·, source.slice t.start t.stop, callsIn e source t⟩)) ∧
    x.unnamed = (visited.filter fun (_, t) => (t.name? e.nameField source).isNone).map fun (kind, t) =>
      noteOf source kind t := by
  intro source x visited
  have placed {address : List Nat} {t : Tree} (there : root.at? address = some t) : t.Fits source :=
    fits.below (Tree.mem_nodes.mpr ⟨address, there⟩)
  have visits (visit : String × Tree) (member : visit ∈ visited) :
      visit.2.kind ∈ e.functionKinds ∧ visit.2 ∈ root.nodes := by
    obtain ⟨kind, listed, member⟩ := List.mem_flatMap.mp member
    obtain ⟨t, matching, rfl⟩ := List.mem_map.mp member
    rw [Tree.matching_eq, List.mem_filter, beq_iff_eq] at matching
    exact ⟨matching.2 ▸ listed, matching.1⟩
  have whole : x = ofVisits e source visited := ofTree_eq e source root
  refine ⟨fun f member => ?_, fun address way t u f g there below outer inner => ?_,
    fun address t there => ⟨fun named => ?_, ?_⟩, ?_, ?_⟩
  · rw [whole] at member
    obtain ⟨visit, member, made⟩ := List.mem_filterMap.mp member
    obtain ⟨listed, inside⟩ := visits visit member
    obtain ⟨address, there⟩ := Tree.mem_nodes.mp inside
    exact ⟨address, visit.2, there, listed, made, verbatim_of_function (placed there) made⟩
  · have inside : u ∈ t.nodes := Tree.mem_nodes.mpr ⟨way, below⟩
    rw [snippet_of_function (placed there) outer, snippet_of_function ((placed there).below inside) inner]
    exact (placed there).text_part inside
  · obtain ⟨name, named⟩ := Option.isSome_iff_exists.mp named
    rw [(placed there).text?_of_name named, Option.isSome_some]
  · rw [function?_eq (placed there), Option.map_eq_none_iff]
  · rw [whole]
    exact List.filterMap_congr fun visit member => function?_eq (fits.below (visits visit member).2)
  · rw [whole]
    refine congrArg (List.map _) (List.filter_congr fun visit member => ?_)
    show (function? e source visit.2).isNone = (visit.2.name? e.nameField source).isNone
    rw [function?_eq (fits.below (visits visit member).2), Option.isNone_map]

/-- A function with accents, and behind it one that was supposed and has nothing to it. -/
def accented : Tree :=
  let name (start stop : Nat) : Tree := ⟨"identifier", start, stop, ["name"], []⟩
  let call : Tree := ⟨"call", 10, 14, [], [⟨"identifier", 10, 11, ["function"], []⟩, ⟨"arguments", 11, 14, [], []⟩]⟩
  let supposed : Tree := ⟨"function_definition", 14, 14, [], [name 14 14]⟩
  ⟨"module", 0, 14, [], [⟨"function_definition", 0, 14, [], [name 4 5, call, supposed]⟩]⟩

theorem extraction_is_verbatim_beside_supposed :
    let python : LanguageEntry := ⟨"python", ["py"], ["function_definition"], "name", "call", "function", .python⟩
    let source := Source.ofString "def ñ(é): g(é)"
    let x := ofTree python source accented
    accented.Fits source ∧ x.functions.map (·.name) = ["ñ"] ∧
      x.unnamed = [⟨"function_definition", 1, 18⟩] ∧
      ∀ f ∈ x.functions, f.name.toList <:+: f.snippet.toList := by
  intro python source x
  have fits : accented.Fits source := by decide
  obtain ⟨verbatim, -, -, functions, unnamed⟩ := extraction_is_verbatim python _ fits
  refine ⟨fits, congrArg (List.map (·.name)) functions, unnamed, fun f member => ?_⟩
  · obtain ⟨_, _, _, _, _, own⟩ := verbatim f member
    exact own.name.2

end Extraction

end CodeAtlas
