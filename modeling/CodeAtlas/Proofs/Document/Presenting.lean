import CodeAtlas.Graph.Document
import CodeAtlas.Proofs.Json.Text
import Mathlib.Data.List.Forall2

namespace CodeAtlas

namespace JsonText

variable {α : Type}

/-- The values of the members of one name. -/
def valuesOf (name : String) (members : List (Member JsonText)) : List JsonText :=
  (members.filter fun m => m.name.text? = some name).map fun m => m.value.value

/-- All names are texts: none has half a character in it. -/
def Named (members : List (Member JsonText)) : Prop :=
  ∀ m ∈ members, m.name.text? ≠ none

def IsString (t : JsonText) (text : String) : Prop :=
  ∃ q, t = .string q ∧ q.text? = some text

def IsList (shows : JsonText → α → Prop) (t : JsonText) (values : List α) : Prop :=
  ∃ items close, t = .array items close ∧
    List.Forall₂ (fun item value => shows item.value value) items values

/-- The names of a set, in any order, any of them more than once. -/
def IsNameSet (t : JsonText) (set : NameSet) : Prop :=
  ∃ names, t.IsList IsString names ∧ ∀ name, name ∈ set ↔ name ∈ names

/-- The entries of an object in the order of the text. -/
def IsObject (shows : JsonText → α → Prop) (t : JsonText) (entries : List (String × α)) : Prop :=
  ∃ members close, t = .object members close ∧
    List.Forall₂ (fun m e => m.name.text? = some e.1 ∧ shows m.value.value e.2) members entries

/-- A name stands for the last of its values. -/
def IsCatalog (shows : JsonText → α → Prop) (t : JsonText) (c : Catalog α) : Prop :=
  ∃ entries, t.IsObject shows entries ∧ ∀ name, c.get? name = entries.reverse.lookup name

/-- A field that is given once. -/
def Given (shows : JsonText → α → Prop) (values : List JsonText) (a : α) : Prop :=
  ∃ t, values = [t] ∧ shows t a

/-- A field that is given once or left out. -/
def GivenOr (missing : α) (shows : JsonText → α → Prop) (values : List JsonText) (a : α) : Prop :=
  values = [] ∧ a = missing ∨ Given shows values a

/-- A summary of limited depth, or none. -/
def IsSummary (levels : Nat) (t : JsonText) (summary : Option Json) : Prop :=
  t = .null ∧ summary = none ∨
    t ≠ .null ∧ t.depth ≤ levels ∧ ∃ j, t.json? = some j ∧ summary = some j

end JsonText

open JsonText

namespace FunctionRecord

/-- The fields of a record, each with the values given for it. -/
structure Fields (levels : Nat) (r : FunctionRecord)
    (filePath functionName codeSnippet calls summary : List JsonText) : Prop where
  filePath : Given IsString filePath r.filePath
  functionName : Given IsString functionName r.functionName
  codeSnippet : Given IsString codeSnippet r.codeSnippet
  calls : Given IsNameSet calls r.calls
  summary : GivenOr none (IsSummary levels) summary r.summary

/-- A record, its summary at most so many levels deep. -/
inductive Presents (levels : Nat) : JsonText → FunctionRecord → Prop where
  | object {r : FunctionRecord} (members : List (Member JsonText)) (close : Gap) (named : Named members)
      (fields : r.Fields levels (valuesOf "file_path" members) (valuesOf "function_name" members)
        (valuesOf "code_snippet" members) (valuesOf "calls" members) (valuesOf "summary" members)) :
      Presents levels (.object members close) r
  | array {r : FunctionRecord} (items : List (Spaced JsonText)) (close : Gap)
      {filePath functionName codeSnippet calls summary : List JsonText}
      (inOrder : items.map (·.value) = filePath ++ functionName ++ codeSnippet ++ calls ++ summary)
      (fields : r.Fields levels filePath functionName codeSnippet calls summary) :
      Presents levels (.array items close) r

end FunctionRecord

namespace Graph

/-- How deep a summary may be in a document: three levels are around it. -/
def summaryLevels : Nat := 124

structure Fields (g : Graph) (url files functions : List JsonText) : Prop where
  url : Given IsString url g.repositoryUrl
  files : GivenOr .empty (IsCatalog (IsList IsString)) files g.files
  functions : GivenOr .empty (IsCatalog (FunctionRecord.Presents summaryLevels)) functions g.functions

inductive Presents : JsonText → Graph → Prop where
  | object {g : Graph} (members : List (Member JsonText)) (close : Gap) (named : Named members)
      (fields : g.Fields (valuesOf "repository_url" members) (valuesOf "file_system_map" members)
        (valuesOf "functions" members)) : Presents (.object members close) g
  | array {g : Graph} (items : List (Spaced JsonText)) (close : Gap)
      {url files functions : List JsonText} (inOrder : items.map (·.value) = url ++ files ++ functions)
      (trailing : files = [] → functions = []) (fields : g.Fields url files functions) :
      Presents (.array items close) g

end Graph

end CodeAtlas
