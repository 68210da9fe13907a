import CodeAtlas.Log
import CodeAtlas.Registry
import CodeAtlas.Syntax.Search
import CodeAtlas.Text.NameSet

namespace CodeAtlas

structure ExtractedFunction where
  name : String
  snippet : String
  calls : NameSet
deriving DecidableEq

/-- A function node without a usable name. Row and column count from one, columns in bytes. -/
structure UnnamedNode where
  kind : String
  row : Nat
  column : Nat
deriving DecidableEq

structure Extraction where
  functions : List ExtractedFunction := []
  unnamed : List UnnamedNode := []
deriving DecidableEq

namespace Extraction

/-- The plain names called anywhere in a node, nested functions included. -/
def callsIn (e : LanguageEntry) (source : Source) (t : Tree) : NameSet :=
  .ofList ((t.ofKind e.callKind).filterMap (·.callee? e.calleeField source))

def function? (e : LanguageEntry) (source : Source) (t : Tree) : Option ExtractedFunction := do
  let name ← t.name? e.nameField source
  let snippet ← t.text? source
  return ⟨name, snippet, callsIn e source t⟩

def add (e : LanguageEntry) (source : Source) (kind : String) (x : Extraction) (t : Tree) :
    Extraction :=
  match function? e source t with
  | some f => { x with functions := x.functions ++ [f] }
  | none =>
    let node := ⟨kind, source.row t.start + 1, source.column t.start + 1⟩
    { x with unnamed := x.unnamed ++ [node] }

/-- The functions of a text, kind by kind in the entry's order. -/
def ofTree (e : LanguageEntry) (source : Source) (root : Tree) : Extraction :=
  e.functionKinds.foldl (fun x kind => (root.ofKind kind).foldl (add e source kind) x) {}

def logTarget : String := "codeskel_graph::extract"

/-- Notes a function node that is left out. -/
def noteUnnamed (n : UnnamedNode) : Logged Unit :=
  Logged.note .trace logTarget
    ("Skipping unnamed " ++ n.kind ++ " at " ++ Nat.repr n.row ++ ":" ++ Nat.repr n.column)

end Extraction

end CodeAtlas
