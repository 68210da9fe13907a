import CodeAtlas.Extraction
import CodeAtlas.Json.Basic
import CodeAtlas.Text.Catalog

namespace CodeAtlas

structure FunctionRecord where
  filePath : String
  functionName : String
  codeSnippet : String
  calls : NameSet
  /-- Attached later; a record without one is pending. -/
  summary : Option Json := none

/-- Directories are named from the root, which is `/`. -/
structure Graph where
  repositoryUrl : String
  files : Catalog (List String) := .empty
  functions : Catalog FunctionRecord := .empty

namespace FunctionRecord

def same (a b : FunctionRecord) : Bool :=
  a.filePath == b.filePath && a.functionName == b.functionName && a.codeSnippet == b.codeSnippet
    && a.calls == b.calls
    && match a.summary, b.summary with
      | none, none => true
      | some x, some y => x.same y
      | _, _ => false

end FunctionRecord

namespace Graph

def size (g : Graph) : Nat :=
  g.functions.size

def recordDirectory (g : Graph) (directory : String) (names : List String) : Graph :=
  { g with files := g.files.insert directory names }

/-- The key of the `n`th function of one file and name. -/
def candidate (base : String) (n : Nat) : String :=
  if n ≤ 1 then base else base ++ "_" ++ Nat.repr n

/-- The first number from `n` on whose key is free; one of as many as there are functions and one
more is. -/
def firstFree (g : Graph) (base : String) : Nat → Nat → Nat
  | 0, n => n
  | fuel + 1, n => if g.functions.has (candidate base n) then firstFree g base fuel (n + 1) else n

/-- The key for a base: the base itself, or the base with the least free number from 2 on. -/
def assignKey (g : Graph) (base : String) : String :=
  candidate base (g.firstFree base g.size 1)

def baseKey (filePath name : String) : String :=
  filePath ++ "::" ++ name

/-- Adds a function of a file; answers its key. -/
def insertFunction (g : Graph) (filePath : String) (f : ExtractedFunction) : String × Graph :=
  let key := g.assignKey (baseKey filePath f.name)
  let record : FunctionRecord := {
    filePath, functionName := f.name, codeSnippet := f.snippet, calls := f.calls }
  (key, { g with functions := g.functions.insert key record })

def pending (g : Graph) : List (String × FunctionRecord) :=
  g.functions.entries.filter (·.2.summary.isNone)

/-- Attaches a summary; tells whether the key is there. -/
def attachSummary (g : Graph) (key : String) (summary : Json) : Bool × Graph :=
  if g.functions.has key then
    let filled (r : FunctionRecord) : FunctionRecord := { r with summary := some summary }
    (true, { g with functions := g.functions.alter key filled })
  else (false, g)

def same (a b : Graph) : Bool :=
  let sameEntry (x y : String × FunctionRecord) : Bool := x.1 == y.1 && x.2.same y.2
  a.repositoryUrl == b.repositoryUrl && a.files.entries == b.files.entries
    && a.size == b.size && (a.functions.entries.zip b.functions.entries).all fun (x, y) =>
      sameEntry x y

end Graph

end CodeAtlas
