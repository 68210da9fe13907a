import CodeAtlas.Parse.Machine

namespace CodeAtlas

/-- A syntax tree without its hidden nodes, whose children stand in their places; each child knows
the fields its parent has it under. Positions are indices of characters. -/
structure Tree where
  kind : String
  start : Nat
  stop : Nat
  fields : List String
  children : List Tree

namespace Subtree

/-- A field given to a hidden node belongs to the first node shown in its place. -/
def labelFirst (field : Option String) : List Tree → List Tree
  | [] => []
  | t :: rest =>
    match field with
    | some name => { t with fields := t.fields ++ [name] } :: rest
    | none => t :: rest

mutual

/-- The nodes shown for a subtree that stands under a given alias and field. -/
def shown (g : Grammar) (renamed : Option Alias) (field : Option String) : Subtree → List Tree
  | ⟨symbol, production, _, start, stop, _, _, _, _, _, _, _, _, children⟩ =>
    let steps := match symbol with
      | .rule _ => g.steps production
      | _ => #[]
    let inner := shownAll g steps 0 children
    if renamed.isSome || g.visible symbol then
      [⟨renamed.elim (g.kind symbol) Alias.name, start, stop, field.toList, inner⟩]
    else labelFirst field inner

def shownAll (g : Grammar) (steps : Array Step) (i : Nat) : List Subtree → List Tree
  | [] => []
  | t :: rest =>
    if t.extra then shown g none none t ++ shownAll g steps i rest
    else
      let step := steps[i]?
      shown g (step.bind Step.renamed) (step.bind Step.field) t ++ shownAll g steps (i + 1) rest

end

end Subtree

/-- A parsed text: its tree, and whether any of it was skipped or supposed. -/
structure Parsed where
  root : Tree
  hasError : Bool

def Grammar.tree? (g : Grammar) (source : Source) : Option Parsed :=
  match g.parse source with
  | none => none
  | some t =>
    match t.shown g none none with
    | root :: _ => some ⟨root, t.cost > 0⟩
    | [] => none

end CodeAtlas
